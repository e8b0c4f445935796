import ContextualQuery.Proofs.Token.Place

/-!
# Tokens partition their text

A text is blanks and lexemes, one after another. A token is exactly one of the lexemes: nothing but
blanks is lost, no character belongs to two tokens, and a token alone is read as itself.

* `lexeme_cases`: a lexeme is a separator, a run of characters of one class, or a quotation;
* `Token.Spells`: the token is the lexeme that some characters make before the others;
* `Partition`: tokens and the characters they cut, from a byte on;
* `Cursor.tokens_partition`: the tokens of a place partition the characters there;
* `tokenize_partitions`: what this says of a whole text.
-/
namespace ContextualQuery

/-- The characters of a text from one byte up to another. -/
def Text.slice (text : String) (start stop : Nat) : String :=
  .ofList ((text.toList.take (column text.toList stop)).drop (column text.toList start))

theorem Text.slice_of_append {text : String} {before chars after : List Char}
    (h : text.toList = before ++ (chars ++ after)) :
    slice text (byteSize before) (byteSize before + byteSize chars) = .ofList chars := by
  have stop : column text.toList (byteSize before + byteSize chars) =
      (before ++ chars).length := by
    rw [h, ← List.append_assoc, ← byteSize_append, column_append]
  have start : column text.toList (byteSize before) = before.length := by
    rw [h, column_append]
  rw [slice, stop, start, h, ← List.append_assoc, List.take_left, List.drop_left]

/-- The class of characters that a token runs over, for the kinds that are such runs. -/
def TokenKind.run? : TokenKind → Option (Char → Bool)
  | .comparison => some isComparisonChar
  | .bareword => some (!endsWord ·)
  | _ => none

theorem separatorKind_cases (c : Char) :
    separatorKind c = .openParen ∨ separatorKind c = .closeParen ∨ separatorKind c = .slash := by
  unfold separatorKind
  split
  · exact .inl rfl
  · split
    · exact .inr (.inl rfl)
    · exact .inr (.inr rfl)

/-- A lexeme is a separator, a run of characters of one class, or a quotation. -/
theorem lexeme_cases {c : Char} (first : isBlank c = false) (cs : List Char) :
    lexeme c cs = ⟨separatorKind c, [c], [c]⟩ ∨
    (∃ kind p, TokenKind.run? kind = some p ∧ p c = true ∧
      lexeme c cs = ⟨kind, c :: cs.takeWhile p, c :: cs.takeWhile p⟩) ∨
    isQuoteMark c = true ∧ lexeme c cs =
      ⟨if (quotedBody c cs).closed then .quoted else .unterminated, c :: (quotedBody c cs).raw,
        (quotedBody c cs).text⟩ := by
  by_cases separator : isSeparator c = true
  · left
    rw [lexeme, if_pos separator]
  · right
    by_cases comparison : isComparisonChar c = true
    · left
      exact ⟨.comparison, isComparisonChar, rfl, comparison,
        by rw [lexeme, if_neg separator, if_pos comparison]⟩
    · by_cases mark : isQuoteMark c = true
      · right
        exact ⟨mark, by rw [lexeme, if_neg separator, if_neg comparison, if_pos mark]⟩
      · left
        have plain : endsWord c = false := by simp_all [endsWord]
        exact ⟨.bareword, (!endsWord ·), rfl, by simp [plain],
          by rw [lexeme, if_neg separator, if_neg comparison, if_neg mark]⟩

/-- A quotation that is not closed goes on to the end. -/
theorem quotedBody_raw_of_open {mark : Char} {cs : List Char}
    (h : (quotedBody mark cs).closed = false) : (quotedBody mark cs).raw = cs := by
  fun_induction quotedBody mark cs with
  | case1 => rfl
  | case2 c cs ih => simpa [QuotedBody.push] using ih h
  | case3 c cs _ _ => simp at h
  | case4 c cs _ _ ih => simpa [QuotedBody.push] using ih h

/-- The token is the lexeme that `c :: cs` make where `rest` follows. -/
structure Token.Spells (t : Token) (c : Char) (cs rest : List Char) : Prop where
  first : isBlank c = false
  raw : (lexeme c (cs ++ rest)).raw = c :: cs
  kind : t.kind = (lexeme c (cs ++ rest)).kind
  text : t.text = .ofList (lexeme c (cs ++ rest)).text
  stop : t.stop = t.start + Text.byteSize (c :: cs)

namespace Token.Spells

variable {t : Token} {c : Char} {cs rest : List Char}

/-- A token that runs over a class of characters starts with one of them, and stops only where no
other follows. -/
theorem run (h : t.Spells c cs rest) {p : Char → Bool} (runs : t.kind.run? = some p) :
    p c = true ∧ rest.head?.all (!p ·) = true := by
  have raw := h.raw
  rw [h.kind] at runs
  obtain eq | ⟨kind, p', run, here, eq⟩ | ⟨-, eq⟩ := lexeme_cases h.first (cs ++ rest)
  · rw [eq] at runs
    obtain kind | kind | kind := separatorKind_cases c <;> simp [kind, TokenKind.run?] at runs
  · rw [eq] at runs raw
    obtain rfl : p' = p := Option.some.inj (run.symm.trans runs)
    exact ⟨here, (head_of_takeWhile_append (List.cons.inj raw).2).2⟩
  · rw [eq] at runs
    dsimp only at runs
    split at runs <;> cases runs

/-- A token that is no quotation has the text that it is written with. -/
theorem text_eq (h : t.Spells c cs rest) (quoted : t.kind ≠ .quoted)
    (unterminated : t.kind ≠ .unterminated) : t.text = .ofList (c :: cs) := by
  have raw := h.raw
  rw [h.kind] at quoted unterminated
  rw [h.text]
  obtain eq | ⟨kind, p, -, -, eq⟩ | ⟨-, eq⟩ := lexeme_cases h.first (cs ++ rest)
  · rw [eq] at raw ⊢
    rw [← raw]
  · rw [eq] at raw ⊢
    rw [← raw]
  · rw [eq] at quoted unterminated
    cases closed : (quotedBody c (cs ++ rest)).closed <;> simp [closed] at quoted unterminated

/-- Nothing follows an open quotation. -/
theorem rest_eq_nil (h : t.Spells c cs rest) (unterminated : t.kind = .unterminated) :
    rest = [] := by
  have raw := h.raw
  rw [h.kind] at unterminated
  obtain eq | ⟨kind, p, run, -, eq⟩ | ⟨-, eq⟩ := lexeme_cases h.first (cs ++ rest)
  · rw [eq] at unterminated
    obtain kind | kind | kind := separatorKind_cases c <;> simp [kind] at unterminated
  · rw [eq] at unterminated
    cases unterminated
    cases run
  · rw [eq] at unterminated raw
    cases closed : (quotedBody c (cs ++ rest)).closed with
    | true => simp [closed] at unterminated
    | false => simpa [quotedBody_raw_of_open closed] using raw

/-- The characters of a token alone spell the same token. -/
theorem alone (h : t.Spells c cs rest) : spelling (c :: cs) = [t.placeless] := by
  have same : lexeme c (cs ++ []) = lexeme c (cs ++ rest) := by
    by_cases unterminated : t.kind = .unterminated
    · rw [h.rest_eq_nil unterminated]
    · exact lexeme_append h.raw (h.kind ▸ unterminated) (.inr rfl)
  have whole : t.placeless = .spelled (lexeme c (cs ++ rest)).kind
      (.ofList (lexeme c (cs ++ rest)).text) := by
    rw [Token.placeless, h.kind, h.text]
    rfl
  rw [spelling_cons h.first, ← List.append_nil cs, same, h.raw, whole]
  simp

end Token.Spells

/-- The tokens of characters that start at a byte. Each is the lexeme after some blanks, and only
blanks follow the last. -/
inductive Partition : Nat → List Char → List Token → Prop where
  | done {p : Nat} {cs : List Char} (blank : cs.all isBlank = true) : Partition p cs []
  | token {p : Nat} {blanks cs rest : List Char} {c : Char} {t : Token} {ts : List Token}
      (blank : blanks.all isBlank = true) (start : t.start = p + Text.byteSize blanks)
      (spells : t.Spells c cs rest) (later : Partition t.stop rest ts) :
      Partition p (blanks ++ (c :: cs ++ rest)) (t :: ts)

theorem Cursor.tokens_partition (cur : Cursor) : Partition cur.offset cur.rest cur.tokens := by
  obtain ⟨none, blank⟩ |
    ⟨blanks, cs, rest, c, t, chars, blank, first, raw, spelled, start, stop, tokens⟩ :=
    cur.tokens_cases
  · rw [none]
    exact .done blank
  · have spells : t.Spells c cs rest :=
      ⟨first, raw, congrArg Token.kind spelled, congrArg Token.text spelled, stop⟩
    have later := (Cursor.mk t.stop rest).tokens_partition
    rw [tokens, chars]
    exact .token blank start spells later
termination_by cur.rest.length
decreasing_by
  simp only [chars, List.length_append, List.length_cons]
  omega

/-- A character of two texts joined is one of the second, or else of the first. -/
theorem left_or_right {front back before after : List Char} {c : Char}
    (h : front ++ back = before ++ c :: after) :
    (∃ more, before = front ++ more ∧ back = more ++ c :: after) ∨
      ∃ more, front = before ++ c :: more := by
  obtain ⟨more, rfl, rfl⟩ | ⟨more, rfl, tail⟩ := List.append_eq_append_iff.mp h
  · exact .inl ⟨more, rfl, rfl⟩
  · cases more with
    | nil => exact .inl ⟨[], by simp, tail.symm⟩
    | cons d more => exact .inr ⟨more, by rw [(List.cons.inj tail).1]⟩

namespace Partition

variable {p : Nat} {chars : List Char} {ts : List Token}

/-- Each token is the lexeme at its place. -/
theorem spells (h : Partition p chars ts) {t : Token} (ht : t ∈ ts) :
    ∃ before c cs after, chars = before ++ (c :: cs ++ after) ∧
      t.start = p + Text.byteSize before ∧ t.Spells c cs after := by
  induction h with
  | done => simp at ht
  | @token p blanks cs rest c u ts blank start spells later ih =>
    obtain rfl | ht := List.mem_cons.mp ht
    · exact ⟨blanks, c, cs, rest, rfl, start, spells⟩
    · obtain ⟨before, d, ds, after, rfl, start', spells'⟩ := ih ht
      refine ⟨blanks ++ (c :: cs) ++ before, d, ds, after, by simp, ?_, spells'⟩
      rw [start', spells.stop, start]
      simp only [Text.byteSize_append]
      omega

/-- A character is a blank, or some token has it. -/
theorem covers (h : Partition p chars ts) {before after : List Char} {c : Char}
    (split : chars = before ++ c :: after) : isBlank c = true ∨
      ∃ t ∈ ts, t.start ≤ p + Text.byteSize before ∧
        p + Text.byteSize before + c.utf8Size ≤ t.stop := by
  induction h generalizing before with
  | done blank =>
    left
    exact List.all_eq_true.mp blank c (by simp [split])
  | @token p blanks cs rest d t ts blank start spells later ih =>
    have stop := spells.stop
    obtain ⟨front, rfl, tail⟩ | ⟨more, same⟩ := left_or_right split
    · obtain ⟨front', rfl, tail'⟩ | ⟨more, same⟩ := left_or_right tail
      · -- The character stands after the token, so a later one has it.
        obtain blank | ⟨u, hu, starts, stops⟩ := ih tail'
        · exact .inl blank
        · refine .inr ⟨u, List.mem_cons_of_mem _ hu, ?_⟩
          simp only [Text.byteSize_append] at *
          omega
      · refine .inr ⟨t, List.mem_cons_self, ?_⟩
        rw [same] at stop
        simp only [Text.byteSize_append, Text.byteSize] at *
        omega
    · left
      exact List.all_eq_true.mp blank c (by simp [same])

/-- Tokens that run over one class of characters do not touch. -/
theorem apart (h : Partition p chars ts) {t u : Token} (adjacent : [t, u] <:+: ts)
    {q : Char → Bool} (first : t.kind.run? = some q) (second : u.kind.run? = some q) :
    t.stop < u.start := by
  induction h with
  | done => simp at adjacent
  | @token p blanks cs rest c v ts blank start spells later ih =>
    obtain here | further := List.infix_cons_iff.mp adjacent
    · obtain ⟨rfl, next⟩ := List.cons_prefix_cons.mp here
      cases later with
      | done => simp at next
      | @token _ blanks' cs' rest' c' w ts' blank' start' spells' later' =>
        obtain ⟨rfl, -⟩ := List.cons_prefix_cons.mp next
        cases blanks' with
        | nil =>
          -- Without a blank between them the first would have gone on into the second.
          obtain ⟨-, stops⟩ := spells.run first
          obtain ⟨starts, -⟩ := spells'.run second
          simp [starts] at stops
        | cons b bs =>
          have := b.utf8Size_pos
          simp only [Text.byteSize] at start'
          omega
    · exact ih further

end Partition

section Tokenize

variable {query : String} {t : Token}

theorem tokenize_partition (query : String) : Partition 0 query.toList (tokenize query) :=
  (Cursor.ofQuery query).tokens_partition

/-- A token is the lexeme that the characters at its place make. -/
theorem spells_of_mem_tokenize (ht : t ∈ tokenize query) :
    ∃ before c cs after, query.toList = before ++ (c :: cs ++ after) ∧
      t.start = Text.byteSize before ∧ t.Spells c cs after ∧
      Text.slice query t.start t.stop = .ofList (c :: cs) := by
  obtain ⟨before, c, cs, after, split, start, spells⟩ := (tokenize_partition query).spells ht
  rw [Nat.zero_add] at start
  refine ⟨before, c, cs, after, split, start, spells, ?_⟩
  rw [spells.stop, start, Text.slice_of_append split]

theorem tokenize_text (ht : t ∈ tokenize query) (quoted : t.kind ≠ .quoted)
    (unterminated : t.kind ≠ .unterminated) : t.text = Text.slice query t.start t.stop := by
  obtain ⟨before, c, cs, after, -, -, spells, written⟩ := spells_of_mem_tokenize ht
  rw [written, spells.text_eq quoted unterminated]

/-- What a token is written with is by itself read as that token. -/
theorem tokenize_slice (ht : t ∈ tokenize query) :
    (tokenize (Text.slice query t.start t.stop)).map Token.placeless = [t.placeless] := by
  obtain ⟨before, c, cs, after, -, -, spells, written⟩ := spells_of_mem_tokenize ht
  rw [written, tokenize_placeless, String.toList_ofList, spells.alone]

theorem stop_of_unterminated (ht : t ∈ tokenize query) (h : t.kind = .unterminated) :
    t.stop = Text.byteSize query.toList := by
  obtain ⟨before, c, cs, after, split, start, spells, -⟩ := spells_of_mem_tokenize ht
  rw [split, spells.rest_eq_nil h, spells.stop, start, List.append_nil, Text.byteSize_append]

/-- No token follows one that stops where the text does. -/
theorem eq_nil_of_stop {before after : List Token} (split : tokenize query = before ++ t :: after)
    (stop : t.stop = Text.byteSize query.toList) : after = [] := by
  cases after with
  | nil => rfl
  | cons u us =>
    have ordered := tokenize_ordered query
    rw [split, InOrder.append_iff, InOrder.cons_iff] at ordered
    obtain ⟨-, ⟨-, later, proper, -⟩, -⟩ := ordered
    have inside : u.stop ≤ Text.byteSize query.toList :=
      (tokenize_boundary (split ▸ by simp)).2.le
    have := later u List.mem_cons_self
    have := proper u List.mem_cons_self
    omega

end Tokenize

/-- Tokens are not empty, stand between characters, and follow one another; every character outside
them is a blank. A token that is no quotation has the text it is written with, and what a token is
written with is by itself read as that token. An open quotation is the last token and reaches to the
end, and two comparisons, or two barewords, have a blank between them. -/
theorem tokenize_partitions (query : String) :
    InOrder (tokenize query) ∧
      (∀ t ∈ tokenize query,
        Text.IsBoundary query.toList t.start ∧ Text.IsBoundary query.toList t.stop) ∧
      (∀ before c after, query.toList = before ++ c :: after → isBlank c = true ∨
        ∃ t ∈ tokenize query, t.start ≤ Text.byteSize before ∧
          Text.byteSize before + c.utf8Size ≤ t.stop) ∧
      (∀ t ∈ tokenize query, t.kind ≠ .quoted → t.kind ≠ .unterminated →
        t.text = Text.slice query t.start t.stop) ∧
      (∀ t ∈ tokenize query,
        (tokenize (Text.slice query t.start t.stop)).map Token.placeless = [t.placeless]) ∧
      (∀ before t after, tokenize query = before ++ t :: after → t.kind = .unterminated →
        after = [] ∧ t.stop = Text.byteSize query.toList) ∧
      ∀ t u, [t, u] <:+: tokenize query → t.kind = u.kind →
        t.kind = .comparison ∨ t.kind = .bareword → t.stop < u.start := by
  have partition := tokenize_partition query
  refine ⟨tokenize_ordered query, fun t ht => tokenize_boundary ht, ?_, fun t => tokenize_text,
    fun t => tokenize_slice, ?_, ?_⟩
  · intro before c after split
    simpa using partition.covers split
  · intro before t after split unterminated
    have mem : t ∈ tokenize query := by simp [split]
    have stop := stop_of_unterminated mem unterminated
    exact ⟨eq_nil_of_stop split stop, stop⟩
  · rintro t u adjacent same (comparison | bareword)
    · exact partition.apart adjacent (by rw [comparison]; rfl) (by rw [← same, comparison]; rfl)
    · exact partition.apart adjacent (by rw [bareword]; rfl) (by rw [← same, bareword]; rfl)

/-- A mark inside a word opens no quotation, one after a comparison does, and here it stays open. -/
example : (tokenize "é\"b<=> 'c\\").map (fun t => (t.kind, t.text, t.start, t.stop)) =
    [(.bareword, "é\"b", 0, 4), (.comparison, "<=>", 4, 7), (.unterminated, "c\\", 8, 11)] := by
  decide +kernel

end ContextualQuery
