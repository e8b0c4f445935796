import ContextualQuery.Proofs.Token.Spelling

/-!
# Where tokens stand

The tokens of a text stand one after another, each from one character boundary to another. A text
can be cut before any of them, and what then follows the cut does not change the tokens before it,
if it starts with a character that no token can go on with.

* `tokens_cases`: how the tokens of a place begin;
* `tokens_ordered`, `tokens_boundary`: tokens in order, on character boundaries;
* `tokens_cut`: the characters before a token, and what they spell;
* `spelling_append`: a text without an open quotation spells the same before other text.
-/
namespace ContextualQuery

/-- A byte of a text at which a character starts, or at which the text ends. -/
def Text.IsBoundary (cs : List Char) (p : Nat) : Prop :=
  ∃ before after, cs = before ++ after ∧ Text.byteSize before = p

theorem Text.IsBoundary.le {cs : List Char} {p : Nat} (h : Text.IsBoundary cs p) :
    p ≤ Text.byteSize cs := by
  obtain ⟨before, after, rfl, rfl⟩ := h
  simp

/-- Characters that no lexeme goes on with, an open quotation apart. -/
def isDelimiter (c : Char) : Bool := isSeparator c || isBlank c

theorem endsWord_of_isDelimiter {c : Char} (h : isDelimiter c = true) : endsWord c = true := by
  simp only [isDelimiter, Bool.or_eq_true] at h
  obtain separator | blank := h
  · simp [endsWord, separator]
  · simp [endsWord, blank]

theorem isComparisonChar_of_isDelimiter {c : Char} (h : isDelimiter c = true) :
    isComparisonChar c = false := by
  simp only [isDelimiter, isSeparator, isBlank, Bool.or_eq_true, beq_iff_eq] at h
  obtain ((rfl | rfl) | rfl) | (((rfl | rfl) | rfl) | rfl) := h <;> rfl

theorem quotedBody_raw_prefix (mark : Char) (cs : List Char) :
    (quotedBody mark cs).raw <+: cs := by
  fun_induction quotedBody mark cs with
  | case1 => exact List.prefix_rfl
  | case2 c cs ih => simpa [QuotedBody.push] using ih
  | case3 c cs _ _ => simp
  | case4 c cs _ _ ih => simpa [QuotedBody.push] using ih

theorem lexeme_raw_prefix (c : Char) (cs : List Char) : (lexeme c cs).raw <+: c :: cs := by
  unfold lexeme
  split
  · simp
  · split
    · simpa using List.takeWhile_prefix _
    · split
      · simpa using quotedBody_raw_prefix c cs
      · simpa using List.takeWhile_prefix _

/-- A quotation that is closed does not depend on what follows it. -/
theorem quotedBody_append {mark : Char} (plain : mark ≠ '\\') {cs : List Char}
    (closed : (quotedBody mark cs).closed = true) (more : List Char) :
    quotedBody mark ((quotedBody mark cs).raw ++ more) = quotedBody mark cs := by
  fun_induction quotedBody mark cs with
  | case1 => simp at closed
  | case2 c cs ih =>
    have inner := ih closed
    simp only [QuotedBody.push, List.cons_append, List.nil_append, quotedBody, inner]
  | case3 c cs _ isMark =>
    obtain rfl : c = mark := by simpa using isMark
    rw [List.singleton_append, quotedBody]
    · simp
    · intro d ds escape
      exact absurd escape plain
  | case4 c cs notEscape notMark ih =>
    have inner := ih closed
    have notBackslash : c ≠ '\\' := by
      rintro rfl
      cases cs with
      | nil => simp [QuotedBody.push, quotedBody] at closed
      | cons d ds => exact notEscape d ds rfl rfl
    simp only [QuotedBody.push, List.cons_append, List.nil_append]
    rw [quotedBody, inner]
    · simp [notMark, QuotedBody.push]
    · intro d ds escape
      exact absurd escape notBackslash

/-- What a run of characters is followed by, when all of it is taken. -/
theorem head_of_takeWhile_append {p : Char → Bool} {cs rest : List Char}
    (h : (cs ++ rest).takeWhile p = cs) :
    (∀ c ∈ cs, p c = true) ∧ rest.head?.all (!p ·) = true := by
  have all : ∀ c ∈ cs, p c = true := by
    have taken : ((cs ++ rest).takeWhile p).all p = true := List.all_takeWhile
    rw [h] at taken
    exact List.all_eq_true.mp taken
  refine ⟨all, ?_⟩
  rw [List.takeWhile_append_of_pos all, List.append_right_eq_self] at h
  cases rest with
  | nil => rfl
  | cons d ds =>
    cases pd : p d with
    | false => simp [pd]
    | true => simp [pd] at h

/-- A lexeme stays the same where other text follows it, if that starts alike or with a
delimiter. -/
theorem lexeme_append {c : Char} {cs rest more : List Char}
    (raw : (lexeme c (cs ++ rest)).raw = c :: cs)
    (closed : (lexeme c (cs ++ rest)).kind ≠ .unterminated)
    (follows : more.head? = rest.head? ∨ more.head?.all isDelimiter = true) :
    lexeme c (cs ++ more) = lexeme c (cs ++ rest) := by
  -- What stopped a run before stops it again.
  have stops {p : Char → Bool} (delimits : ∀ d, isDelimiter d = true → p d = false)
      (before : rest.head?.all (!p ·) = true) : more.head?.all (!p ·) = true := by
    obtain same | delimiter := follows
    · rw [same]
      exact before
    · cases more with
      | nil => rfl
      | cons d ds => simpa using delimits d (by simpa using delimiter)
  cases separator : isSeparator c with
  | true => simp [lexeme, separator]
  | false =>
    cases comparison : isComparisonChar c with
    | true =>
      simp only [lexeme, separator, comparison, Bool.false_eq_true, ↓reduceIte,
        List.cons.injEq, true_and] at raw ⊢
      obtain ⟨all, head⟩ := head_of_takeWhile_append raw
      rw [raw, takeWhile_append_of_head all
        (stops (fun _ => isComparisonChar_of_isDelimiter) head)]
    | false =>
      cases mark : isQuoteMark c with
      | true =>
        simp only [lexeme, separator, comparison, mark, Bool.false_eq_true, ↓reduceIte,
          List.cons.injEq, true_and] at raw closed ⊢
        have plain : c ≠ '\\' := by
          rintro rfl
          cases mark
        have isClosed : (quotedBody c (cs ++ rest)).closed = true := by
          cases h : (quotedBody c (cs ++ rest)).closed with
          | true => rfl
          | false => simp [h] at closed
        have same := quotedBody_append plain isClosed more
        rw [raw] at same
        rw [same]
      | false =>
        simp only [lexeme, separator, comparison, mark, Bool.false_eq_true, ↓reduceIte,
          List.cons.injEq, true_and] at raw ⊢
        obtain ⟨all, head⟩ := head_of_takeWhile_append raw
        rw [raw, takeWhile_append_of_head all
          (stops (fun d hd => by simp [endsWord_of_isDelimiter hd]) head)]

/-- A lexeme spells the same token where other text follows it, if that starts alike or with a
delimiter. -/
theorem spelling_lexeme_append {c : Char} {cs rest more : List Char} (first : isBlank c = false)
    (raw : (lexeme c (cs ++ rest)).raw = c :: cs)
    (closed : (lexeme c (cs ++ rest)).kind ≠ .unterminated)
    (follows : more.head? = rest.head? ∨ more.head?.all isDelimiter = true) :
    spelling (c :: cs ++ more) =
      .spelled (lexeme c (cs ++ rest)).kind (String.ofList (lexeme c (cs ++ rest)).text) ::
        spelling more := by
  rw [List.cons_append, spelling_cons first, lexeme_append raw closed follows, raw,
    ← List.cons_append, List.drop_left]

theorem spelling_blanks {blanks : List Char} (h : blanks.all isBlank = true) (cs : List Char) :
    spelling (blanks ++ cs) = spelling cs := by
  induction blanks with
  | nil => rfl
  | cons c blanks ih =>
    simp only [List.all_cons, Bool.and_eq_true] at h
    rw [List.cons_append, spelling_blank h.1, ih h.2]

/-- Tokens that are not empty and stand one after another. -/
def InOrder (ts : List Token) : Prop :=
  (∀ t ∈ ts, t.start < t.stop) ∧ ts.Pairwise (fun t u => t.stop ≤ u.start)

theorem InOrder.cons_iff {t : Token} {ts : List Token} :
    InOrder (t :: ts) ↔ t.start < t.stop ∧ (∀ u ∈ ts, t.stop ≤ u.start) ∧ InOrder ts := by
  simp only [InOrder, List.forall_mem_cons, List.pairwise_cons]
  constructor
  · rintro ⟨⟨proper, all⟩, before, ordered⟩
    exact ⟨proper, before, all, ordered⟩
  · rintro ⟨proper, before, all, ordered⟩
    exact ⟨⟨proper, all⟩, before, ordered⟩

theorem InOrder.append_iff {ts us : List Token} :
    InOrder (ts ++ us) ↔ InOrder ts ∧ InOrder us ∧ ∀ t ∈ ts, ∀ u ∈ us, t.stop ≤ u.start := by
  simp only [InOrder, List.forall_mem_append, List.pairwise_append]
  constructor
  · rintro ⟨⟨all, all'⟩, ordered, ordered', before⟩
    exact ⟨⟨all, ordered⟩, ⟨all', ordered'⟩, before⟩
  · rintro ⟨⟨all, ordered⟩, ⟨all', ordered'⟩, before⟩
    exact ⟨⟨all, all'⟩, ordered, ordered', before⟩

namespace Cursor

theorem skipBlanks_eq (cur : Cursor) :
    cur.skipBlanks = ⟨cur.offset + Text.byteSize (cur.rest.takeWhile isBlank),
      cur.rest.dropWhile isBlank⟩ := by
  have taken : cur.rest.take (cur.rest.takeWhile isBlank).length = cur.rest.takeWhile isBlank :=
    (List.prefix_iff_eq_take.mp (List.takeWhile_prefix _)).symm
  rw [← skipBlanks_rest]
  simp only [skipBlanks, advance, taken]

/-- A lexeme after some blanks is the next token, and leaves the place right after itself. -/
theorem next_of_lexeme {cur : Cursor} {c : Char} {cs rest : List Char}
    (left : cur.rest.dropWhile isBlank = c :: (cs ++ rest))
    (raw : (lexeme c (cs ++ rest)).raw = c :: cs) :
    cur.next.1.start = cur.offset + Text.byteSize (cur.rest.takeWhile isBlank) ∧
      cur.next.1.stop = cur.next.1.start + Text.byteSize (c :: cs) ∧
      cur.next.2 = ⟨cur.next.1.stop, rest⟩ := by
  have taken : (c :: (cs ++ rest)).take (c :: cs).length = c :: cs := List.take_left
  have dropped : (c :: (cs ++ rest)).drop (c :: cs).length = rest := List.drop_left
  simp only [next, skipBlanks_eq, left, raw, advance, taken, dropped, and_self]

/-- Either only blanks are left, or a lexeme follows some blanks, is the first token, and leaves the
place right after itself. -/
theorem tokens_cases (cur : Cursor) :
    (cur.tokens = [] ∧ cur.rest.all isBlank = true) ∨
    ∃ (blanks cs rest : List Char) (c : Char) (t : Token),
      cur.rest = blanks ++ (c :: cs ++ rest) ∧ blanks.all isBlank = true ∧ isBlank c = false ∧
      (lexeme c (cs ++ rest)).raw = c :: cs ∧
      t.placeless = .spelled (lexeme c (cs ++ rest)).kind
        (String.ofList (lexeme c (cs ++ rest)).text) ∧
      t.start = cur.offset + Text.byteSize blanks ∧
      t.stop = t.start + Text.byteSize (c :: cs) ∧
      cur.tokens = t :: (Cursor.mk t.stop rest).tokens := by
  have split : cur.rest.takeWhile isBlank ++ cur.rest.dropWhile isBlank = cur.rest :=
    List.takeWhile_append_dropWhile
  have blanks : (cur.rest.takeWhile isBlank).all isBlank = true := List.all_takeWhile
  cases left : cur.rest.dropWhile isBlank with
  | nil =>
    rw [left, List.append_nil] at split
    exact .inl ⟨tokens_of_blank left, split ▸ blanks⟩
  | cons c ds =>
    obtain ⟨cs, rest, raw, rfl⟩ : ∃ cs rest, (lexeme c ds).raw = c :: cs ∧ ds = cs ++ rest := by
      obtain ⟨rest, same⟩ := lexeme_raw_prefix c ds
      cases raw : (lexeme c ds).raw with
      | nil => exact absurd raw (lexeme_raw_ne_nil c ds)
      | cons d cs =>
        rw [raw, List.cons_append, List.cons.injEq] at same
        exact ⟨cs, rest, by rw [same.1], same.2.symm⟩
    have first : isBlank c = false := by
      have notBlank := List.head?_dropWhile_not isBlank cur.rest
      simpa [left] using notBlank
    obtain ⟨unfolded, head, -⟩ := tokens_of_lexeme left
    obtain ⟨start, stop, after⟩ := next_of_lexeme left raw
    refine .inr ⟨_, cs, rest, c, cur.next.1, ?_, blanks, first, raw, head, start, stop, ?_⟩
    · rw [List.cons_append, ← left, split]
    · rw [← after, unfolded]

/-- Each token of a place starts where the one before it has stopped, or later. -/
theorem tokens_ordered (cur : Cursor) :
    InOrder cur.tokens ∧ ∀ t ∈ cur.tokens, cur.offset ≤ t.start := by
  obtain ⟨none, -⟩ | ⟨blanks, cs, rest, c, t, chars, -, -, -, -, start, stop, tokens⟩ :=
    cur.tokens_cases
  · simp [none, InOrder]
  · obtain ⟨ordered, bounds⟩ := (Cursor.mk t.stop rest).tokens_ordered
    have positive : 0 < Text.byteSize (c :: cs) := by
      have := c.utf8Size_pos
      simp only [Text.byteSize]
      omega
    rw [tokens]
    refine ⟨InOrder.cons_iff.mpr ⟨by omega, bounds, ordered⟩, ?_⟩
    intro u hu
    obtain rfl | hu := List.mem_cons.mp hu
    · omega
    · have := bounds u hu
      simp only at this
      omega
termination_by cur.rest.length
decreasing_by
  simp only [chars, List.length_append, List.length_cons]
  omega

/-- A character boundary at a place or after it. -/
def Ahead (cur : Cursor) (p : Nat) : Prop :=
  ∃ before after, cur.rest = before ++ after ∧ p = cur.offset + Text.byteSize before

theorem Ahead.of_after {cur : Cursor} {front rest : List Char} {stop p : Nat}
    (chars : cur.rest = front ++ rest) (offset : stop = cur.offset + Text.byteSize front)
    (h : (Cursor.mk stop rest).Ahead p) : cur.Ahead p := by
  obtain ⟨before, after, split, place⟩ := h
  simp only at split place
  refine ⟨front ++ before, after, by rw [chars, split, List.append_assoc], ?_⟩
  rw [place, offset, Text.byteSize_append, Nat.add_assoc]

/-- The tokens of a place start and stop between characters. -/
theorem tokens_boundary (cur : Cursor) {t : Token} (ht : t ∈ cur.tokens) :
    cur.Ahead t.start ∧ cur.Ahead t.stop := by
  obtain ⟨none, -⟩ | ⟨blanks, cs, rest, c, u, chars, -, -, -, -, start, stop, tokens⟩ :=
    cur.tokens_cases
  · simp [none] at ht
  · have split : cur.rest = (blanks ++ c :: cs) ++ rest := by rw [chars, List.append_assoc]
    have place : u.stop = cur.offset + Text.byteSize (blanks ++ c :: cs) := by
      rw [stop, start, Text.byteSize_append, Nat.add_assoc]
    rw [tokens] at ht
    obtain rfl | ht := List.mem_cons.mp ht
    · exact ⟨⟨blanks, _, chars, start⟩, ⟨blanks ++ c :: cs, rest, split, place⟩⟩
    · obtain ⟨starts, stops⟩ := (Cursor.mk u.stop rest).tokens_boundary ht
      exact ⟨.of_after split place starts, .of_after split place stops⟩
termination_by cur.rest.length
decreasing_by
  simp only [chars, List.length_append, List.length_cons]
  omega

/-- The characters before the tokens `rest` spell the tokens before them, also where they are
followed by other text. -/
theorem tokens_cut {cur : Cursor} {read rest : List Token} (h : cur.tokens = read ++ rest)
    (closed : ∀ t ∈ read, t.kind ≠ .unterminated) :
    ∃ before after, cur.rest = before ++ after ∧ (rest = [] → after = []) ∧
      (∀ t ∈ rest.head?, t.start = cur.offset + Text.byteSize before) ∧
      ∀ more : List Char, more.head?.all isDelimiter = true →
        spelling (before ++ more) = read.map Token.placeless ++ spelling more := by
  induction read generalizing cur with
  | nil =>
    obtain ⟨none, blank⟩ | ⟨blanks, cs, after, c, t, chars, blank, -, -, -, start, stop, tokens⟩ :=
      cur.tokens_cases
    · refine ⟨cur.rest, [], (List.append_nil _).symm, fun _ => rfl, ?_, ?_⟩
      · rw [List.nil_append, none] at h
        simp [← h]
      · intro more _
        exact spelling_blanks blank more
    · refine ⟨blanks, c :: cs ++ after, chars, ?_, ?_, ?_⟩
      · rintro rfl
        simp [tokens] at h
      · rw [List.nil_append, tokens] at h
        simp [← h, start]
      · intro more _
        exact spelling_blanks blank more
  | cons u read ih =>
    obtain ⟨none, -⟩ | ⟨blanks, cs, left, c, t, chars, blank, first, raw, spelled, start, stop,
      tokens⟩ := cur.tokens_cases
    · simp [none] at h
    · rw [tokens, List.cons_append, List.cons.injEq] at h
      obtain ⟨rfl, h⟩ := h
      obtain ⟨before, after, split, ends, place, spells⟩ :=
        ih h fun t ht => closed t (List.mem_cons_of_mem _ ht)
      simp only at split place
      refine ⟨blanks ++ (c :: cs ++ before), after, ?_, ends, ?_, ?_⟩
      · rw [chars, split]
        simp
      · intro t' ht'
        rw [place t' ht', stop, start]
        simp only [Text.byteSize_append]
        omega
      · intro more delimits
        have follows : (before ++ more).head? = left.head? ∨
            (before ++ more).head?.all isDelimiter = true := by
          cases before with
          | nil => exact .inr delimits
          | cons d ds => exact .inl (by simp [split])
        have kind : (lexeme c (cs ++ left)).kind ≠ .unterminated := by
          have := closed t (by simp)
          have kinds := congrArg Token.kind spelled
          simp only [Token.placeless, Token.spelled] at kinds
          rwa [kinds] at this
        rw [List.append_assoc, spelling_blanks blank, List.append_assoc,
          spelling_lexeme_append first raw kind follows, ← spelled, spells more delimits,
          List.map_cons, List.cons_append]

end Cursor

/-- A text without an open quotation spells the same tokens where other text follows it, if that
starts with a delimiter. -/
theorem spelling_append {cs more : List Char} (closed : ∀ t ∈ spelling cs, t.kind ≠ .unterminated)
    (delimits : more.head?.all isDelimiter = true) :
    spelling (cs ++ more) = spelling cs ++ spelling more := by
  have all : (Cursor.mk 0 cs).tokens = (Cursor.mk 0 cs).tokens ++ [] := (List.append_nil _).symm
  obtain ⟨before, after, split, ends, -, spells⟩ :=
    Cursor.tokens_cut all fun t ht => closed t.placeless (List.mem_map_of_mem ht)
  obtain rfl := ends rfl
  simp only [List.append_nil] at split
  rw [split, spells more delimits, ← split]
  rfl

theorem tokenize_ordered (query : String) : InOrder (tokenize query) :=
  (Cursor.ofQuery query).tokens_ordered.1

theorem tokenize_boundary {query : String} {t : Token} (ht : t ∈ tokenize query) :
    Text.IsBoundary query.toList t.start ∧ Text.IsBoundary query.toList t.stop := by
  have boundary {p : Nat} (h : (Cursor.ofQuery query).Ahead p) :
      Text.IsBoundary query.toList p := by
    obtain ⟨before, after, split, place⟩ := h
    exact ⟨before, after, split, by simpa [Cursor.ofQuery] using place.symm⟩
  obtain ⟨starts, stops⟩ := (Cursor.ofQuery query).tokens_boundary ht
  exact ⟨boundary starts, boundary stops⟩

end ContextualQuery
