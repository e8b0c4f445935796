import ContextualQuery.Json.Value
import ContextualQuery.Proofs.Json.Reading

namespace ContextualQuery.Json

/-- A control character without a letter of its own is read back from its code. -/
theorem readEscape_code {c : Char} (control : c.toNat < 0x20) (rest : List Char) :
    readEscape ('u' :: Text.hexCode false c.toNat ++ rest) = .ok (c, rest) := by
  have low : isLowSurrogate c.toNat = false := by
    simp only [isLowSurrogate, Bool.and_eq_false_iff, decide_eq_false_iff_not]
    omega
  have high : isHighSurrogate c.toNat = false := by
    simp only [isHighSurrogate, Bool.and_eq_false_iff, decide_eq_false_iff_not]
    omega
  have value := Text.hexValue?_hexCode false (n := c.toNat) (by omega)
  simp only [Text.hexCode] at value
  simp [readEscape, unitEscape, hexQuad, Text.hexCode, value, low, high, bind, Except.bind]

theorem readString_escape {e c : Char} {code tail text rest : List Char}
    (escape : readEscape (e :: code ++ tail) = .ok (c, tail))
    (read : readString tail = .ok (text, rest)) :
    readString ('\\' :: e :: code ++ tail) = .ok (c :: text, rest) := by
  simp only [List.cons_append] at escape ⊢
  rw [readString]
  simp only [Char.reduceEq, ↓reduceIte]
  split
  · simp_all
  · rename_i read'
    obtain ⟨rfl, rfl⟩ : _ = c ∧ _ = tail := by simpa [read'] using escape
    simp only [read]

theorem readString_escapeChar (c : Char) {tail text rest : List Char}
    (read : readString tail = .ok (text, rest)) :
    readString (escapeChar c ++ tail) = .ok (c :: text, rest) := by
  unfold escapeChar
  split
  iterate 7 exact readString_escape rfl read
  rename_i notMark notBackslash _ _ _ _ _
  split
  · rename_i control
    exact readString_escape (readEscape_code control tail) read
  · rename_i printable
    simp only [List.cons_append, List.nil_append]
    rw [readString]
    rw [if_neg notMark, if_neg notBackslash, if_neg printable, read]

/-- An escaped text before its closing mark is read as the text. -/
theorem readString_escaped (text rest : List Char) :
    readString (text.flatMap escapeChar ++ '"' :: rest) = .ok (text, rest) := by
  induction text with
  | nil =>
    rw [List.flatMap_nil, List.nil_append, readString]
    rfl
  | cons c cs ih =>
    rw [List.flatMap_cons, List.append_assoc]
    exact readString_escapeChar c ih

/-- Whether a character after digits goes on with a number. -/
def continuesNumber (c : Char) : Bool := isDigit c || c == '.' || c == 'e' || c == 'E'

def EndsNumber (rest : List Char) : Prop := rest.head?.all (!continuesNumber ·) = true

theorem digit?_of_isDigit {c : Char} (h : c.isDigit = true) :
    digit? c = some (c.toNat - '0'.toNat) := by
  simp only [Char.isDigit, Bool.and_eq_true, decide_eq_true_eq] at h
  exact if_pos h

theorem le_ofDigitChars (ds : List Char) (init : Nat) : init ≤ Nat.ofDigitChars 10 ds init := by
  rw [Nat.ofDigitChars_eq_ofDigitChars_zero]
  have grows := Nat.le_mul_of_pos_left init (Nat.pow_pos (n := ds.length) (show 0 < 10 by decide))
  omega

/-- Digits are taken one by one, as long as their number stays within the limit. -/
theorem takeDigits_append {limit value taken : Nat} {ds rest : List Char}
    (digits : ∀ c ∈ ds, c.isDigit = true) (fits : Nat.ofDigitChars 10 ds value ≤ limit)
    (ends : rest.head?.all (!isDigit ·) = true) :
    takeDigits limit value taken (ds ++ rest) =
      ⟨Nat.ofDigitChars 10 ds value, taken + ds.length, rest⟩ := by
  induction ds generalizing value taken with
  | nil =>
    cases rest with
    | nil => simp [takeDigits]
    | cons c cs =>
      have stops : digit? c = none := by simpa [isDigit] using ends
      simp [takeDigits, stops]
  | cons c cs ih =>
    have digit := digit?_of_isDigit (digits c (by simp))
    rw [Nat.ofDigitChars_cons, Nat.mul_comm 10 value] at fits ⊢
    have within : ¬ limit < value * 10 + (c.toNat - '0'.toNat) := by
      have := le_ofDigitChars cs (value * 10 + (c.toNat - '0'.toNat))
      omega
    rw [List.cons_append, takeDigits]
    simp only [digit, if_neg within]
    rw [ih (fun d hd => digits d (List.mem_cons_of_mem _ hd)) fits, List.length_cons]
    congr 1
    omega

theorem afterInteger_of_ends (negative : Bool) (value taken : Nat) {rest : List Char}
    (ends : EndsNumber rest) :
    afterInteger negative ⟨value, taken, rest⟩ = .ok (integerNumber negative value, rest) := by
  cases rest with
  | nil => rfl
  | cons c cs =>
    simp only [EndsNumber, continuesNumber, List.head?_cons, Option.all_some, Bool.not_eq_true',
      Bool.or_eq_false_iff, beq_eq_false_iff_ne] at ends
    obtain ⟨⟨⟨notDigit, notPoint⟩, notLower⟩, notUpper⟩ := ends
    simp [afterInteger, notDigit, notPoint, notLower, notUpper]

theorem toDigits_head {n : Nat} (positive : 0 < n) :
    ∃ c cs, Nat.toDigits 10 n = c :: cs ∧ c.toNat - '0'.toNat ≠ 0 := by
  induction n using Nat.strongRecOn with
  | ind n ih =>
    by_cases small : n < 10
    · refine ⟨n.digitChar, [], Nat.toDigits_of_lt_base small, ?_⟩
      have code := Nat.toNat_digitChar_sub_48_of_lt_ten small
      simp only [Char.reduceToNat, code]
      omega
    · obtain ⟨c, cs, tens, nonzero⟩ := ih (n / 10) (by omega) (by omega)
      rw [Nat.toDigits_of_base_le (by decide) (by omega), tens]
      exact ⟨c, _, rfl, nonzero⟩

/-- The digits of a word are read as the integer with that sign. -/
theorem readNumber_toDigits (negative : Bool) {n : Nat} (fits : n ≤ maxWord) {rest : List Char}
    (ends : EndsNumber rest) :
    readNumber negative (Nat.toDigits 10 n ++ rest) = .ok (integerNumber negative n, rest) := by
  have notDigit : rest.head?.all (!isDigit ·) = true := by
    cases rest with
    | nil => rfl
    | cons c cs =>
      simp only [EndsNumber, continuesNumber, List.head?_cons, Option.all_some,
        Bool.not_eq_true', Bool.or_eq_false_iff] at ends
      simp [ends.1.1.1]
  obtain rfl | positive := Nat.eq_zero_or_pos n
  · have stops : rest.head?.any isDigit = false := by
      cases rest with
      | nil => rfl
      | cons c cs => simpa using notDigit
    rw [Nat.toDigits_zero]
    simp only [List.cons_append, List.nil_append, readNumber]
    rw [digit?_of_isDigit rfl]
    simp only [stops, Bool.false_eq_true, ↓reduceIte]
    exact afterInteger_of_ends negative 0 1 ends
  · obtain ⟨c, cs, digits, nonzero⟩ := toDigits_head positive
    have all : ∀ d ∈ c :: cs, d.isDigit = true := by
      intro d hd
      exact Nat.isDigit_of_mem_toDigits (by decide) (by decide) (digits ▸ hd)
    have total : Nat.ofDigitChars 10 cs (c.toNat - '0'.toNat) = n := by
      have whole := Nat.ofDigitChars_ten_toDigits (n := n)
      rwa [digits, Nat.ofDigitChars_cons, Nat.mul_zero, Nat.zero_add] at whole
    rw [digits, List.cons_append, readNumber]
    simp only [digit?_of_isDigit (all c (by simp)), if_neg nonzero]
    rw [takeDigits_append (fun d hd => all d (List.mem_cons_of_mem _ hd)) (total ▸ fits) notDigit,
      total]
    exact afterInteger_of_ends negative n _ ends

end ContextualQuery.Json
