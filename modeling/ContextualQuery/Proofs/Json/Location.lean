import ContextualQuery.Fq.Reader

/-!
# From lines and columns back to bytes

A fault in JSON text is reported by line and column, both counted in bytes: the line feeds before
the fault, and the bytes since the last of them. An error of the query wants the byte. The way back
goes over the lines of the text, each with the line feed that ends it.

* `Text.lineFeeds`, `Text.lineStart`: the line feeds before a byte, and where its line starts;
* `byteSize_take_lines`: as many lines as there are line feeds before a byte end where its line
  starts;
* `placeOf_eq`: the reader reports lines and columns in just this way;
* `jsonError_position_inverts`: the byte of the error is the one before the reported column.
-/
namespace ContextualQuery

namespace Text

def lineFeed : UInt8 := 10

def bytes (text : String) : List UInt8 := text.toByteArray.data.toList

/-- The number of line feeds before byte `i`. -/
def lineFeeds (bs : List UInt8) (i : Nat) : Nat := (bs.take i).count lineFeed

/-- The byte just after the last line feed before byte `i`, or the first of all. -/
def lineStart (bs : List UInt8) : Nat → Nat
  | 0 => 0
  | i + 1 => if bs[i]? = some lineFeed then i + 1 else lineStart bs i

theorem lineStart_succ (bs : List UInt8) (i : Nat) :
    lineStart bs (i + 1) = if bs[i]? = some lineFeed then i + 1 else lineStart bs i := rfl

@[simp]
theorem lineFeeds_zero (bs : List UInt8) : lineFeeds bs 0 = 0 := rfl

@[simp]
theorem lineFeeds_nil (i : Nat) : lineFeeds [] i = 0 := by simp [lineFeeds]

theorem lineFeeds_succ (bs : List UInt8) (i : Nat) :
    lineFeeds bs (i + 1) = lineFeeds bs i + if bs[i]? = some lineFeed then 1 else 0 := by
  rw [lineFeeds, List.take_add_one, List.count_append, lineFeeds]
  cases bs[i]? with
  | none => simp
  | some b => simp [List.count_singleton]

theorem lineFeeds_cons (b : UInt8) (bs : List UInt8) (i : Nat) :
    lineFeeds (b :: bs) (i + 1) = (if b = lineFeed then 1 else 0) + lineFeeds bs i := by
  simp only [lineFeeds, List.take_succ_cons, List.count_cons, beq_iff_eq]
  omega

theorem lineStart_le (bs : List UInt8) (i : Nat) : lineStart bs i ≤ i := by
  induction i with
  | zero => exact Nat.le_refl _
  | succ i ih =>
    rw [lineStart_succ]
    split
    · exact Nat.le_refl _
    · omega

/-- A byte before which no line has ended is on the first line. -/
theorem lineStart_of_lineFeeds {bs : List UInt8} {i : Nat} (h : lineFeeds bs i = 0) :
    lineStart bs i = 0 := by
  induction i with
  | zero => rfl
  | succ i ih =>
    rw [lineFeeds_succ] at h
    by_cases feed : bs[i]? = some lineFeed
    · simp [feed] at h
    · rw [lineStart_succ, if_neg feed]
      apply ih
      omega

/-- With one more byte in front, lines start one byte later, except the first. -/
theorem lineStart_cons (b : UInt8) (bs : List UInt8) (i : Nat) :
    lineStart (b :: bs) (i + 1) =
      if b = lineFeed ∨ lineFeeds bs i ≠ 0 then 1 + lineStart bs i else 0 := by
  induction i with
  | zero => by_cases feed : b = lineFeed <;> simp [lineStart, feed]
  | succ i ih =>
    rw [lineStart_succ _ (i + 1), List.getElem?_cons_succ, lineFeeds_succ, ih, lineStart_succ _ i]
    by_cases feed : bs[i]? = some lineFeed
    · simp only [feed, ↓reduceIte]
      rw [if_pos (by omega)]
      omega
    · simp only [feed, ↓reduceIte, Nat.add_zero]

/-- Bytes without a line feed end no line. -/
theorem lineFeeds_append {front : List UInt8} (plain : lineFeed ∉ front) (bs : List UInt8)
    (i : Nat) : lineFeeds (front ++ bs) i = lineFeeds bs (i - front.length) := by
  rw [lineFeeds, List.take_append, List.count_append, lineFeeds]
  have none : (front.take i).count lineFeed = 0 := by
    apply List.count_eq_zero.mpr
    intro feed
    exact plain (List.mem_of_mem_take feed)
  omega

/-- Bytes without a line feed belong to the first line of what follows. -/
theorem lineStart_append {front : List UInt8} (plain : lineFeed ∉ front) (bs : List UInt8)
    (i : Nat) : lineStart (front ++ bs) i =
      if lineFeeds bs (i - front.length) = 0 then 0
      else front.length + lineStart bs (i - front.length) := by
  induction front generalizing i with
  | nil =>
    by_cases first : lineFeeds bs i = 0
    · simp [first, lineStart_of_lineFeeds first]
    · simp [first]
  | cons b front ih =>
    simp only [List.mem_cons, not_or] at plain
    cases i with
    | zero => simp [lineStart]
    | succ i =>
      rw [List.cons_append, lineStart_cons, ih plain.2, lineFeeds_append plain.2,
        List.length_cons, Nat.add_sub_add_right]
      have notFeed : b ≠ lineFeed := fun same => plain.1 same.symm
      by_cases first : lineFeeds bs (i - front.length) = 0
      · simp [first, notFeed]
      · simp only [first, notFeed, ne_eq, not_false_eq_true, or_true, ↓reduceIte]
        omega

def encoded (cs : List Char) : List UInt8 := cs.flatMap String.utf8EncodeChar

theorem bytes_eq (text : String) : bytes text = encoded text.toList := by
  rw [bytes, ← String.utf8Encode_toList]
  exact List.toList_data_toByteArray

@[simp]
theorem length_encoded (cs : List Char) : (encoded cs).length = byteSize cs := by
  induction cs with
  | nil => rfl
  | cons c cs ih =>
    rw [encoded, List.flatMap_cons, List.length_append, String.length_utf8EncodeChar, byteSize, ← ih]
    rfl

theorem encoded_cons (c : Char) (cs : List Char) :
    encoded (c :: cs) = String.utf8EncodeChar c ++ encoded cs := List.flatMap_cons

theorem encoded_feed (cs : List Char) : encoded ('\n' :: cs) = lineFeed :: encoded cs := rfl

/-- Only the line feed has its byte. -/
theorem lineFeed_not_mem {c : Char} (h : c ≠ '\n') : lineFeed ∉ String.utf8EncodeChar c := by
  have code : c.val.toNat ≠ 10 := by
    intro same
    exact h (Char.ext (UInt32.toNat_inj.mp same))
  unfold String.utf8EncodeChar
  generalize c.val.toNat = v at code
  dsimp only
  -- One byte is the code point itself; of several, each is at least 128.
  repeat' split
  all_goals
    simp only [lineFeed, List.mem_cons, List.not_mem_nil, or_false, ← UInt8.toNat_inj,
      UInt8.toNat_ofNat, UInt8.toNat_ofNat']
    omega

end Text

namespace Json

open Text

theorem lines_feed (cs : List Char) : lines ('\n' :: cs) = ['\n'] :: lines cs := by
  simp [lines]

theorem lines_ne_nil {cs : List Char} (h : cs ≠ []) : lines cs ≠ [] := by
  cases cs with
  | nil => exact absurd rfl h
  | cons c cs =>
    unfold lines
    split
    · simp
    · split <;> simp

/-- A character that ends no line belongs to the first line of what follows. -/
theorem flatten_take_lines {c : Char} (plain : c ≠ '\n') {cs : List Char} (more : cs ≠ []) (k : Nat) :
    ((lines (c :: cs)).take (k + 1)).flatten = c :: ((lines cs).take (k + 1)).flatten := by
  rw [lines, if_neg plain]
  cases rest : lines cs with
  | nil => exact absurd rest (lines_ne_nil more)
  | cons line others => simp

/-- As many lines as there are line feeds before a byte take the bytes up to where its line
starts. -/
theorem byteSize_take_lines (cs : List Char) (i : Nat) :
    byteSize ((lines cs).take (lineFeeds (encoded cs) i)).flatten = lineStart (encoded cs) i := by
  induction cs generalizing i with
  | nil =>
    have none : lineFeeds (encoded []) i = 0 := lineFeeds_nil i
    rw [none, lineStart_of_lineFeeds none]
    rfl
  | cons c cs ih =>
    by_cases feed : c = '\n'
    · subst feed
      cases i with
      | zero => rfl
      | succ i =>
        rw [encoded_feed, lineFeeds_cons, if_pos rfl, lineStart_cons, if_pos (.inl rfl), lines_feed,
          Nat.add_comm, List.take_succ_cons, List.flatten_cons, byteSize_append, ih]
        rfl
    · have plain := lineFeed_not_mem feed
      rw [encoded_cons, lineFeeds_append plain, lineStart_append plain, String.length_utf8EncodeChar]
      cases count : lineFeeds (encoded cs) (i - c.utf8Size) with
      | zero => rfl
      | succ k =>
        have more : cs ≠ [] := by
          rintro rfl
          rw [encoded, List.flatMap_nil, lineFeeds_nil] at count
          cases count
        rw [flatten_take_lines feed more, byteSize, if_neg (by omega), ← count, ih]

/-- The place of byte `i`: the line feeds before it, and the bytes since the last of them. -/
def Place.ofByte (bs : List UInt8) (i : Nat) : Place := ⟨1 + lineFeeds bs i, i - lineStart bs i⟩

/-- Moving over characters counts line feeds, and bytes since the last of them. -/
theorem advance_eq (p : Place) (cs : List Char) {n : Nat} (inside : n ≤ byteSize cs) :
    p.advance cs n = ⟨p.line + lineFeeds (encoded cs) n,
      (if lineFeeds (encoded cs) n = 0 then p.column else 0) +
        (n - lineStart (encoded cs) n)⟩ := by
  induction cs generalizing p n with
  | nil =>
    obtain rfl : n = 0 := Nat.le_zero.mp inside
    rfl
  | cons c cs ih =>
    cases n with
    | zero => rfl
    | succ n =>
      rw [Place.advance, if_neg (Nat.succ_ne_zero n)]
      simp only [byteSize] at inside
      by_cases feed : c = '\n'
      · subst feed
        have one : Char.utf8Size '\n' = 1 := rfl
        rw [if_pos rfl, Nat.add_sub_cancel, ih _ (by omega), encoded_feed, lineFeeds_cons,
          if_pos rfl, lineStart_cons]
        simp only [true_or, ↓reduceIte, ite_self, Place.mk.injEq]
        rw [if_neg (by omega)]
        omega
      · have plain := lineFeed_not_mem feed
        rw [if_neg feed, ih _ (by omega), encoded_cons, lineFeeds_append plain,
          lineStart_append plain, String.length_utf8EncodeChar]
        simp only [Place.mk.injEq, true_and]
        by_cases first : lineFeeds (encoded cs) (n + 1 - c.utf8Size) = 0
        · rw [if_pos first, if_pos first, if_pos first, lineStart_of_lineFeeds first]
          omega
        · rw [if_neg first, if_neg first, if_neg first]
          omega

/-- The place that the reader reports for a byte. -/
theorem placeOf_eq (text : String) {i : Nat} (inside : i ≤ (bytes text).length) :
    placeOf text.toList i = .ofByte (bytes text) i := by
  rw [bytes_eq, length_encoded] at inside
  rw [placeOf, advance_eq _ _ inside, bytes_eq, Place.ofByte, ite_self, Nat.zero_add]

/-- What the place of a byte is turned back into: the byte before it, or the first of its line. -/
theorem byteAt_ofByte (text : String) {i : Nat} (inside : i ≤ (bytes text).length) :
    byteAt text.toList (.ofByte (bytes text) i) =
      if i = lineStart (bytes text) i then i else i - 1 := by
  have before := lineStart_le (bytes text) i
  rw [bytes_eq, length_encoded] at inside
  rw [byteAt, Place.ofByte]
  dsimp only
  rw [Nat.add_sub_cancel_left, bytes_eq, byteSize_take_lines]
  rw [bytes_eq] at before
  split
  · omega
  · omega

/-- The byte before one that starts no line is on the same line. -/
theorem lineFeeds_pred {bs : List UInt8} {i : Nat} (h : i ≠ lineStart bs i) :
    lineFeeds bs (i - 1) = lineFeeds bs i := by
  cases i with
  | zero => rfl
  | succ i =>
    have plain : bs[i]? ≠ some lineFeed := by
      intro feed
      rw [lineStart_succ, if_pos feed] at h
      exact h rfl
    rw [Nat.add_sub_cancel, lineFeeds_succ, if_neg plain, Nat.add_zero]

/-- A fault that the reader finds is reported as the place of some byte of the text, or of its
end. -/
theorem place_of_parse {depth : Nat} {text : String} {fault : SyntaxFault}
    (h : parse depth text = .error fault) :
    ∃ i ≤ (bytes text).length, fault.place = .ofByte (bytes text) i := by
  unfold parse at h
  cases read : readAll depth text.toList with
  | ok value =>
    rw [read] at h
    cases h
  | error stop =>
    rw [read] at h
    cases h
    have inside : byteSize text.toList - stop.unread ≤ (bytes text).length := by
      rw [bytes_eq, length_encoded]
      omega
    exact ⟨_, inside, placeOf_eq text inside⟩

end Json

/-- A fault that is reported at the place of a byte `i` of a text, or of its end, makes an error at
the byte before `i`, or at `i` if a line starts there. That is within the text, and on the reported
line. Every fault that the reader finds in the text is reported at such a place. -/
theorem jsonError_position_inverts (text : String) :
    (∀ i ≤ (Text.bytes text).length, ∀ fault : Json.SyntaxFault,
      fault.place = .ofByte (Text.bytes text) i →
        (Fq.jsonError text fault).position =
            (if i = Text.lineStart (Text.bytes text) i then i else i - 1) ∧
          (Fq.jsonError text fault).position ≤ (Text.bytes text).length ∧
          1 + Text.lineFeeds (Text.bytes text) (Fq.jsonError text fault).position =
            fault.place.line) ∧
      ∀ (depth : Nat) (fault : Json.SyntaxFault), Json.parse depth text = .error fault →
        ∃ i ≤ (Text.bytes text).length, fault.place = .ofByte (Text.bytes text) i := by
  refine ⟨?_, fun depth fault => Json.place_of_parse⟩
  intro i inside fault place
  have position : (Fq.jsonError text fault).position =
      if i = Text.lineStart (Text.bytes text) i then i else i - 1 := by
    rw [Fq.jsonError, place]
    exact Json.byteAt_ofByte text inside
  rw [position, place, Json.Place.ofByte]
  refine ⟨rfl, ?_, ?_⟩
  · split
    · exact inside
    · omega
  · split
    · rfl
    · rename_i within
      rw [Json.lineFeeds_pred within]

/-- An empty line after one that ends in two characters, a byte after a letter of two, and the end
of the text after a final line feed. -/
theorem jsonError_position_inverts_empty_line :
    (Fq.jsonError "\r\n\né[\n" ⟨.expectedValue, ⟨2, 0⟩⟩).position = 2 ∧
      (Fq.jsonError "\r\n\né[\n" ⟨.expectedValue, ⟨3, 2⟩⟩).position = 4 ∧
      (Fq.jsonError "\r\n\né[\n" ⟨.endInObject, ⟨4, 0⟩⟩).position = 7 := by
  have inverts := (jsonError_position_inverts "\r\n\né[\n").1
  refine ⟨?_, ?_, ?_⟩
  · exact (inverts 2 (by decide +kernel) _ (by decide +kernel)).1
  · exact (inverts 5 (by decide +kernel) _ (by decide +kernel)).1
  · exact (inverts 7 (by decide +kernel) _ (by decide +kernel)).1

end ContextualQuery
