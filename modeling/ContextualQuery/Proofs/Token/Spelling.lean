import ContextualQuery.Query.Canonical

/-!
# The tokens that characters spell

Where a token stands is decided by what comes before it; its kind and text are not. So the tokens
of a text, taken without their places, are a function of the characters alone:

* `Cursor.tokens_placeless`: a cursor's tokens are those that its remaining characters spell;
* `spelling_quote`, `spelling_word`, `spelling_relation`: the written form of a text, word or
  relation spells one token with exactly that text, and leaves what follows alone;
* `isSymbol_of_mem_tokenize`: a comparison token is a run of comparison characters.
-/
namespace ContextualQuery

def Token.placeless (t : Token) : Token := { t with start := 0, stop := 0 }

def Token.spelled (kind : TokenKind) (text : String) : Token := ⟨kind, text, 0, 0⟩

/-- The tokens that characters spell, without their places. -/
def spelling (cs : List Char) : List Token := (Cursor.mk 0 cs).tokens.map Token.placeless

theorem lexeme_kind_ne_finish (c : Char) (cs : List Char) : (lexeme c cs).kind ≠ .finish := by
  simp only [lexeme, separatorKind]
  split
  · split
    · simp
    · split <;> simp
  · split
    · simp
    · split
      · split <;> simp
      · simp

namespace Cursor

theorem skipBlanks_rest (cur : Cursor) : cur.skipBlanks.rest = cur.rest.dropWhile isBlank := by
  simp only [skipBlanks, advance]
  induction cur.rest with
  | nil => rfl
  | cons c cs ih =>
    cases blank : isBlank c with
    | false => simp [blank]
    | true => simpa [blank] using ih

theorem tokens_of_blank {cur : Cursor} (h : cur.rest.dropWhile isBlank = []) :
    cur.tokens = [] := by
  have rest : cur.skipBlanks.rest = [] := by rw [skipBlanks_rest, h]
  rw [tokens, dif_pos (by simp [next, rest, Token.ofEnd])]

theorem tokens_of_lexeme {cur : Cursor} {c : Char} {cs : List Char}
    (h : cur.rest.dropWhile isBlank = c :: cs) :
    cur.tokens = cur.next.1 :: cur.next.2.tokens ∧
      cur.next.1.placeless = .spelled (lexeme c cs).kind (String.ofList (lexeme c cs).text) ∧
      cur.next.2.rest = (c :: cs).drop (lexeme c cs).raw.length := by
  have rest : cur.skipBlanks.rest = c :: cs := by rw [skipBlanks_rest, h]
  refine ⟨?_, ?_, ?_⟩
  · rw [tokens, dif_neg]
    simp only [next, rest]
    exact lexeme_kind_ne_finish c cs
  · simp [next, rest, Token.placeless, Token.spelled]
  · simp [next, rest, advance]

/-- Places with the same characters after the blanks have the same tokens, their places apart. -/
theorem tokens_congr {a b : Cursor}
    (same : a.rest.dropWhile isBlank = b.rest.dropWhile isBlank) :
    a.tokens.map Token.placeless = b.tokens.map Token.placeless := by
  cases ha : a.rest.dropWhile isBlank with
  | nil => rw [tokens_of_blank ha, tokens_of_blank (same ▸ ha)]
  | cons c cs =>
    obtain ⟨ua, heada, taila⟩ := tokens_of_lexeme ha
    obtain ⟨ub, headb, tailb⟩ := tokens_of_lexeme (same ▸ ha)
    have shorter : a.next.2.rest.length < a.rest.length := by
      have := List.length_pos_iff.mpr (lexeme_raw_ne_nil c cs)
      have := (List.dropWhile_sublist isBlank (l := a.rest)).length_le
      simp only [taila, ha, List.length_drop, List.length_cons] at this ⊢
      omega
    rw [ua, ub, List.map_cons, List.map_cons, heada, headb,
      tokens_congr (show a.next.2.rest.dropWhile isBlank = b.next.2.rest.dropWhile isBlank by
        rw [taila, tailb])]
termination_by a.rest.length

/-- The tokens from a place on are those that the characters there spell. -/
theorem tokens_placeless (cur : Cursor) : cur.tokens.map Token.placeless = spelling cur.rest :=
  tokens_congr rfl

end Cursor

theorem tokenize_placeless (query : String) :
    (tokenize query).map Token.placeless = spelling query.toList :=
  Cursor.tokens_placeless _

@[simp]
theorem spelling_nil : spelling [] = [] := by
  rw [spelling, Cursor.tokens_of_blank rfl, List.map_nil]

/-- Blanks before a token spell nothing. -/
theorem spelling_blank {c : Char} (h : isBlank c = true) (cs : List Char) :
    spelling (c :: cs) = spelling cs :=
  Cursor.tokens_congr (by simp [h])

/-- The first lexeme is the first token, and the characters after it spell the others. -/
theorem spelling_cons {c : Char} (h : isBlank c = false) (cs : List Char) :
    spelling (c :: cs) =
      .spelled (lexeme c cs).kind (String.ofList (lexeme c cs).text) ::
        spelling ((c :: cs).drop (lexeme c cs).raw.length) := by
  have here : (Cursor.mk 0 (c :: cs)).rest.dropWhile isBlank = c :: cs := by simp [h]
  obtain ⟨unfolded, head, tail⟩ := Cursor.tokens_of_lexeme here
  rw [spelling, unfolded, List.map_cons, head, Cursor.tokens_placeless, tail]

/-- A lexeme that takes exactly the characters `raw` leaves those after them alone. -/
theorem spelling_of_lexeme {c : Char} {raw rest text : List Char} {kind : TokenKind}
    (blank : isBlank c = false) (h : lexeme c (raw ++ rest) = ⟨kind, c :: raw, text⟩) :
    spelling (c :: raw ++ rest) = .spelled kind (String.ofList text) :: spelling rest := by
  rw [List.cons_append, spelling_cons blank, h]
  simp

theorem takeWhile_append_of_head {p : Char → Bool} {cs rest : List Char}
    (all : ∀ c ∈ cs, p c = true) (stops : rest.head?.all (!p ·) = true) :
    (cs ++ rest).takeWhile p = cs := by
  rw [List.takeWhile_append_of_pos all]
  cases rest with
  | nil => simp
  | cons c rest => simp_all

theorem isBlank_of_not_endsWord {c : Char} (h : endsWord c = false) : isBlank c = false := by
  simp only [endsWord, Bool.or_eq_false_iff] at h
  exact h.2

theorem quotedBody_escapeQuoted (text rest : List Char) :
    quotedBody '"' (escapeQuoted text ++ '"' :: rest) =
      ⟨escapeQuoted text ++ ['"'], text, true⟩ := by
  induction text with
  | nil => rfl
  | cons c cs ih =>
    simp only [escapeQuoted]
    split
    · simp [quotedBody, ih, QuotedBody.push]
    · rename_i plain
      simp only [Bool.or_eq_true, beq_iff_eq, not_or] at plain
      simp only [List.cons_append]
      rw [quotedBody]
      · simp [plain.1, ih, QuotedBody.push]
      · intro d ds same
        exact absurd same plain.2

theorem lexeme_quote (text rest : List Char) :
    lexeme '"' ((escapeQuoted text ++ ['"']) ++ rest) =
      ⟨.quoted, '"' :: (escapeQuoted text ++ ['"']), text⟩ := by
  have body := quotedBody_escapeQuoted text rest
  simp [lexeme, isSeparator, isComparisonChar, isQuoteMark, body]

theorem spelling_quote (text : String) (rest : List Char) :
    spelling ((quote text).toList ++ rest) = .spelled .quoted text :: spelling rest := by
  have step := spelling_of_lexeme (by rfl) (lexeme_quote text.toList rest)
  simpa [quote] using step

theorem lexeme_word {c : Char} {cs rest : List Char} (notMark : isQuoteMark c = false)
    (plain : ∀ d ∈ c :: cs, endsWord d = false) (stops : rest.head?.all endsWord = true) :
    lexeme c (cs ++ rest) = ⟨.bareword, c :: cs, c :: cs⟩ := by
  have first := plain c (by simp)
  simp only [endsWord, Bool.or_eq_false_iff] at first
  have taken : (cs ++ rest).takeWhile (!endsWord ·) = cs := by
    apply takeWhile_append_of_head
    · intro d hd
      simp [plain d (List.mem_cons_of_mem _ hd)]
    · simpa using stops
  simp [lexeme, first, notMark, taken]

/-- An unquoted word is one lexeme, where a character follows that ends words, or nothing. -/
theorem lexeme_bareword {word : String} (nonempty : word.toList.isEmpty = false)
    (notMark : word.toList.head?.any isQuoteMark = false)
    (plain : word.toList.any endsWord = false) {rest : List Char}
    (stops : rest.head?.all endsWord = true) :
    ∃ c cs, word.toList = c :: cs ∧ isBlank c = false ∧
      lexeme c (cs ++ rest) = ⟨.bareword, c :: cs, word.toList⟩ := by
  cases chars : word.toList with
  | nil => simp [chars] at nonempty
  | cons c cs =>
    simp only [chars, List.head?_cons, Option.any_some] at notMark
    have plain' : ∀ d ∈ c :: cs, endsWord d = false := by
      intro d hd
      have := List.any_eq_false.mp plain d (chars ▸ hd)
      simpa using this
    exact ⟨c, cs, rfl, isBlank_of_not_endsWord (plain' c (by simp)),
      lexeme_word notMark plain' stops⟩

/-- An unquoted word spells one token, where a character follows that ends words, or nothing. -/
theorem spelling_bareword {word : String} (nonempty : word.toList.isEmpty = false)
    (notMark : word.toList.head?.any isQuoteMark = false)
    (plain : word.toList.any endsWord = false) {rest : List Char}
    (stops : rest.head?.all endsWord = true) :
    spelling (word.toList ++ rest) = .spelled .bareword word :: spelling rest := by
  obtain ⟨c, cs, chars, blank, lexed⟩ := lexeme_bareword nonempty notMark plain stops
  have step := spelling_of_lexeme blank lexed
  rw [String.ofList_toList] at step
  rw [chars, step]

def wordKind (word : String) : TokenKind := if needsQuotes word then .quoted else .bareword

/-- A written word is one lexeme, where a character follows that ends words, or nothing. -/
theorem lexeme_wordText (word : String) {rest : List Char}
    (stops : rest.head?.all endsWord = true) :
    ∃ c cs, (wordText word).toList = c :: cs ∧ isBlank c = false ∧
      lexeme c (cs ++ rest) = ⟨wordKind word, c :: cs, word.toList⟩ := by
  unfold wordText wordKind
  split
  · exact ⟨'"', _, by simp [quote], rfl, lexeme_quote word.toList rest⟩
  · rename_i bare
    simp only [needsQuotes, Bool.or_eq_true, not_or, Bool.not_eq_true] at bare
    obtain ⟨⟨⟨nonempty, notMark⟩, plain⟩, -⟩ := bare
    exact lexeme_bareword nonempty notMark plain stops

/-- A written word spells one token, where a character follows that ends words, or nothing. -/
theorem spelling_word (word : String) {rest : List Char} (stops : rest.head?.all endsWord = true) :
    spelling ((wordText word).toList ++ rest) = .spelled (wordKind word) word :: spelling rest := by
  obtain ⟨c, cs, chars, blank, lexed⟩ := lexeme_wordText word stops
  have step := spelling_of_lexeme blank lexed
  rw [String.ofList_toList] at step
  rw [chars, step]

theorem lexeme_comparison {c : Char} {cs rest : List Char}
    (all : ∀ d ∈ c :: cs, isComparisonChar d = true)
    (stops : rest.head?.all (!isComparisonChar ·) = true) :
    lexeme c (cs ++ rest) = ⟨.comparison, c :: cs, c :: cs⟩ := by
  have first := all c (by simp)
  have separate : isSeparator c = false := by
    simp only [isComparisonChar, Bool.or_eq_true, beq_iff_eq] at first
    obtain (rfl | rfl) | rfl := first <;> rfl
  have taken : (cs ++ rest).takeWhile isComparisonChar = cs :=
    takeWhile_append_of_head (fun d hd => all d (List.mem_cons_of_mem _ hd)) stops
  simp [lexeme, separate, first, taken]

/-- A run of comparison characters spells one comparison, where no further one follows. -/
theorem spelling_symbol {symbol : String} (h : isSymbol symbol = true) {rest : List Char}
    (stops : rest.head?.all (!isComparisonChar ·) = true) :
    spelling (symbol.toList ++ rest) = .spelled .comparison symbol :: spelling rest := by
  simp only [isSymbol, Bool.and_eq_true, Bool.not_eq_true', List.all_eq_true] at h
  cases chars : symbol.toList with
  | nil => simp [chars] at h
  | cons c cs =>
    rw [chars] at h
    have blank : isBlank c = false := by
      have first := h.2 c (by simp)
      simp only [isComparisonChar, Bool.or_eq_true, beq_iff_eq] at first
      obtain (rfl | rfl) | rfl := first <;> rfl
    have step := spelling_of_lexeme blank (lexeme_comparison h.2 stops)
    rw [step, ← chars, String.ofList_toList]

def relationKind (relation : String) : TokenKind :=
  if isSymbol relation then .comparison else wordKind relation

/-- A written relation spells one token, where a character follows that ends words and is no
comparison. -/
theorem spelling_relation (relation : String) {rest : List Char}
    (stops : rest.head?.all endsWord = true)
    (stops' : rest.head?.all (!isComparisonChar ·) = true) :
    spelling ((relationText relation).toList ++ rest) =
      .spelled (relationKind relation) relation :: spelling rest := by
  unfold relationText relationKind
  split
  · rename_i symbol
    exact spelling_symbol symbol stops'
  · exact spelling_word relation stops

/-- A character that is a token by itself spells that token. -/
theorem spelling_separator {c : Char} (h : isSeparator c = true) (rest : List Char) :
    spelling (c :: rest) = .spelled (separatorKind c) (String.ofList [c]) :: spelling rest := by
  have blank : isBlank c = false := by
    simp only [isSeparator, Bool.or_eq_true, beq_iff_eq] at h
    obtain (rfl | rfl) | rfl := h <;> rfl
  rw [spelling_cons blank]
  simp [lexeme, h]

theorem lexeme_comparison_text {c : Char} {cs : List Char}
    (h : (lexeme c cs).kind = .comparison) :
    isSymbol (String.ofList (lexeme c cs).text) = true := by
  revert h
  simp only [lexeme, separatorKind]
  split
  · split
    · simp
    · split <;> simp
  · split
    · rename_i first
      intro _
      simp only [isSymbol, String.toList_ofList, List.isEmpty_cons, Bool.not_false, Bool.true_and,
        List.all_cons, first, List.all_takeWhile]
    · split
      · split <;> simp
      · simp

/-- The text of a comparison token is a run of comparison characters. -/
theorem isSymbol_of_mem_spelling {cs : List Char} {t : Token} (ht : t ∈ spelling cs)
    (h : t.kind = .comparison) : isSymbol t.text = true := by
  cases cs with
  | nil => simp at ht
  | cons c rest =>
    cases blank : isBlank c with
    | true =>
      rw [spelling_blank blank] at ht
      exact isSymbol_of_mem_spelling ht h
    | false =>
      rw [spelling_cons blank, List.mem_cons] at ht
      obtain rfl | ht := ht
      · exact lexeme_comparison_text h
      · have := List.length_pos_iff.mpr (lexeme_raw_ne_nil c rest)
        exact isSymbol_of_mem_spelling ht h
termination_by cs.length
decreasing_by
  all_goals
    simp only [*, List.length_cons, List.length_drop]
    omega

theorem isSymbol_of_mem_tokenize {query : String} {t : Token} (ht : t ∈ tokenize query)
    (h : t.kind = .comparison) : isSymbol t.text = true := by
  have placed : t.placeless ∈ spelling query.toList := by
    rw [← tokenize_placeless]
    exact List.mem_map_of_mem ht
  exact isSymbol_of_mem_spelling (t := t.placeless) placed h

end ContextualQuery
