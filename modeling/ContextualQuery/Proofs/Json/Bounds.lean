import ContextualQuery.Proofs.Json.Members
import ContextualQuery.Proofs.Json.Reading
import ContextualQuery.Proofs.Query.Reading

/-!
# What a reader gives

A reader that allows fewer than `depth` levels gives values of fewer levels, and its integers fit
64 bits.

* `readNumber_fits`: an integer that is read as one fits;
* `value_cases`: a value is a scalar, or an array or object of what was read inside it;
* `value_within`, `parse_within`: the values that are read nest no deeper than the reader allows.
-/
namespace ContextualQuery.Json

def NumberFits : JsonNumber → Prop
  | .natural n => n ≤ maxWord
  | .negative _ | .binary _ => True

theorem takeDigits_le {limit value taken : Nat} {cs : List Char} (h : value ≤ limit) :
    (takeDigits limit value taken cs).value ≤ limit := by
  fun_induction takeDigits limit value taken cs with
  | case1 | case2 | case3 => exact h
  | case4 _ _ _ _ _ _ within ih => exact ih (Nat.le_of_not_lt within)

theorem scaledNumber_fits {negative : Bool} {significand : Nat} {exponent : Int}
    {cs rest : List Char} {n : JsonNumber}
    (h : scaledNumber negative significand exponent cs = .ok (n, rest)) : NumberFits n := by
  unfold scaledNumber at h
  split at h
  · cases h
  · cases h
    trivial

theorem exponentDigits_fits {negative : Bool} {significand : Nat} {exponent : Int} {down : Bool}
    {written : Nat} {cs rest : List Char} {n : JsonNumber}
    (h : exponentDigits negative significand exponent down written cs = .ok (n, rest)) :
    NumberFits n := by
  fun_induction exponentDigits negative significand exponent down written cs with
  | case1 => exact scaledNumber_fits h
  | case2 => exact scaledNumber_fits h
  | case3 => cases h
  | case4 =>
    cases h
    trivial
  | case5 _ _ _ _ _ _ ih => exact ih h

theorem exponentPart_fits {negative : Bool} {significand : Nat} {exponent : Int}
    {cs rest : List Char} {n : JsonNumber}
    (h : exponentPart negative significand exponent cs = .ok (n, rest)) : NumberFits n := by
  simp only [exponentPart] at h
  split at h
  · cases h
  · split at h
    · cases h
    · exact exponentDigits_fits h

theorem fractionPart_fits {negative : Bool} {significand : Nat} {exponent : Int}
    {cs rest : List Char} {n : JsonNumber}
    (h : fractionPart negative significand exponent cs = .ok (n, rest)) : NumberFits n := by
  simp only [fractionPart] at h
  split at h
  · cases h
  · unfold exponentOrEnd at h
    split at h
    · exact scaledNumber_fits h
    · split at h
      · exact exponentPart_fits h
      · exact scaledNumber_fits h

theorem integerNumber_fits {negative : Bool} {significand : Nat} (h : significand ≤ maxWord) :
    NumberFits (integerNumber negative significand) := by
  unfold integerNumber
  split
  · exact h
  · split <;> trivial

theorem afterInteger_fits {negative : Bool} {whole : Significand} (small : whole.value ≤ maxWord)
    {rest : List Char} {n : JsonNumber} (h : afterInteger negative whole = .ok (n, rest)) :
    NumberFits n := by
  simp only [afterInteger] at h
  split at h
  · split at h
    · exact fractionPart_fits h
    · split at h
      · exact exponentPart_fits h
      · split at h
        · cases h
          exact integerNumber_fits small
        · exact scaledNumber_fits h
  · split at h
    · cases h
      exact integerNumber_fits small
    · exact scaledNumber_fits h

theorem digit?_le {c : Char} {d : Nat} (h : digit? c = some d) : d ≤ maxWord := by
  unfold digit? at h
  split at h
  · rename_i digit
    cases h
    have upper : c.toNat ≤ '9'.toNat := digit.2
    have limit : '9'.toNat ≤ maxWord := by decide
    omega
  · cases h

theorem readNumber_fits {negative : Bool} {cs rest : List Char} {n : JsonNumber}
    (h : readNumber negative cs = .ok (n, rest)) : NumberFits n := by
  unfold readNumber at h
  split at h
  · cases h
  · split at h
    · cases h
    · rename_i d digit
      split at h
      · split at h
        · cases h
        · exact afterInteger_fits (Nat.zero_le _) h
      · exact afterInteger_fits (takeDigits_le (digit?_le digit)) h

/-- At most `levels` arrays and objects nest in a value, and its natural numbers fit 64 bits. -/
inductive Within : Nat → Json → Prop
  | null {levels : Nat} : Within levels .null
  | bool {levels : Nat} (b : Bool) : Within levels (.bool b)
  | number {levels : Nat} {n : JsonNumber} (fits : NumberFits n) : Within levels (.number n)
  | string {levels : Nat} (s : String) : Within levels (.string s)
  | array {levels : Nat} {items : List Json} (inside : ∀ v ∈ items, Within levels v) :
      Within (levels + 1) (.array items)
  | object {levels : Nat} {members : List (String × Json)}
      (inside : ∀ m ∈ members, Within levels m.2) : Within (levels + 1) (.object members)

theorem namedValue?_within {c : Char} {letters : List Char} {v : Json}
    (h : namedValue? c = some (letters, v)) (levels : Nat) : Within levels v := by
  unfold namedValue? at h
  split at h
  · cases h
    exact .null
  · cases h
    exact .bool true
  · cases h
    exact .bool false
  · cases h

theorem value_length {depth : Nat} {cs rest : List Char} {v : Json}
    (h : value depth cs = .ok (v, rest)) : rest.length < cs.length := by
  unfold value at h
  cases read : readValue depth cs with
  | error stop => simp [read, Except.map] at h
  | ok r =>
    simp only [read, Except.map, Read.pair, Except.ok.injEq, Prod.mk.injEq] at h
    rw [← h.2]
    exact r.shorter

/-- A value that starts with neither bracket nor brace holds no other value. -/
theorem value_scalar {depth : Nat} {cs tail rest : List Char} {c : Char} {v : Json}
    (start : skipSpace cs = c :: tail) (notArray : c ≠ '[') (notObject : c ≠ '\x7b')
    (h : value depth cs = .ok (v, rest)) (levels : Nat) : Within levels v := by
  unfold value at h
  rw [readValue] at h
  split at h
  · cases h
  · rename_i d more here
    obtain ⟨rfl, rfl⟩ : d = c ∧ more = tail := by simpa [here] using start
    rw [if_neg notArray, if_neg notObject] at h
    split at h
    · split at h
      · cases h
      · cases h
        exact .string _
    · split at h
      · split at h
        · cases h
        · rename_i read
          cases h
          exact .number (readNumber_fits read)
      · split at h
        · split at h
          · cases h
          · rename_i read
            cases h
            exact .number (readNumber_fits read)
        · split at h
          · cases h
          · rename_i named
            split at h
            · cases h
            · cases h
              exact namedValue?_within named levels

/-- What is read is a scalar, or an array or object of what was read inside it. -/
theorem value_cases {depth : Nat} {cs rest : List Char} {v : Json}
    (h : value depth cs = .ok (v, rest)) :
    (∀ levels, Within levels v) ∨
    (∃ tail vs, tail.length < cs.length ∧ 1 < depth ∧
      items (depth - 1) true tail = .ok (vs, rest) ∧ v = .array vs) ∨
    ∃ tail ms, tail.length < cs.length ∧ 1 < depth ∧
      members (depth - 1) true tail = .ok (ms, rest) ∧ v = .object (assignAll ms) := by
  cases start : skipSpace cs with
  | nil =>
    unfold value at h
    rw [readValue] at h
    split at h
    · cases h
    · simp_all
  | cons c tail =>
    have shorter : tail.length < cs.length := by
      have skipped := skipSpace_length cs
      rw [start, List.length_cons] at skipped
      omega
    by_cases array : c = '['
    · subst array
      rw [value_array depth start] at h
      split at h
      · cases h
      · rename_i deep
        obtain ⟨⟨vs, left⟩, read, ended⟩ := Except.bind_eq_ok_iff.mp h
        cases ended
        exact .inr (.inl ⟨tail, vs, shorter, by omega, read, rfl⟩)
    · by_cases object : c = '\x7b'
      · subst object
        rw [value_object depth start] at h
        split at h
        · cases h
        · rename_i deep
          obtain ⟨⟨ms, left⟩, read, ended⟩ := Except.bind_eq_ok_iff.mp h
          cases ended
          exact .inr (.inr ⟨tail, ms, shorter, by omega, read, rfl⟩)
      · exact .inl (value_scalar start array object h)

mutual

/-- The values that are read nest less than the reader allows. -/
theorem value_within {depth : Nat} {cs rest : List Char} {v : Json}
    (h : value depth cs = .ok (v, rest)) : Within (depth - 1) v := by
  obtain scalar | ⟨tail, vs, shorter, deep, read, rfl⟩ | ⟨tail, ms, shorter, deep, read, rfl⟩ :=
    value_cases h
  · exact scalar _
  · have inside := items_within read
    obtain ⟨levels, rfl⟩ : ∃ levels, depth = levels + 2 := ⟨depth - 2, by omega⟩
    exact .array inside
  · have inside := members_within read
    obtain ⟨levels, rfl⟩ : ∃ levels, depth = levels + 2 := ⟨depth - 2, by omega⟩
    refine .object fun m hm => inside m ?_
    rw [assignAll_eq_lastOfEach] at hm
    exact mem_of_mem_lastOfEach _ hm
termination_by 2 * cs.length

theorem items_within {depth : Nat} {first : Bool} {cs rest : List Char} {vs : List Json}
    (h : items depth first cs = .ok (vs, rest)) : ∀ v ∈ vs, Within (depth - 1) v := by
  rw [items_eq] at h
  obtain ⟨step, stepped, h⟩ := Except.bind_eq_ok_iff.mp h
  have moves := itemStep_length stepped
  cases step with
  | finished left =>
    cases h
    simp
  | entry start =>
    obtain ⟨⟨v, after⟩, read, h⟩ := Except.bind_eq_ok_iff.mp h
    obtain ⟨⟨more, left⟩, others, h⟩ := Except.bind_eq_ok_iff.mp h
    cases h
    have shorter := value_length read
    intro w hw
    obtain rfl | hw := List.mem_cons.mp hw
    · exact value_within read
    · exact items_within others w hw
termination_by 2 * cs.length + 1

theorem members_within {depth : Nat} {first : Bool} {cs rest : List Char}
    {ms : List (String × Json)} (h : members depth first cs = .ok (ms, rest)) :
    ∀ m ∈ ms, Within (depth - 1) m.2 := by
  rw [members_eq] at h
  obtain ⟨step, stepped, h⟩ := Except.bind_eq_ok_iff.mp h
  have moves := memberStep_length stepped
  cases step with
  | finished left =>
    cases h
    simp
  | entry start =>
    obtain ⟨⟨key, colon⟩, keyed, h⟩ := Except.bind_eq_ok_iff.mp h
    obtain ⟨⟨v, after⟩, read, h⟩ := Except.bind_eq_ok_iff.mp h
    obtain ⟨⟨more, left⟩, others, h⟩ := Except.bind_eq_ok_iff.mp h
    cases h
    have keyShorter := readKey_length keyed
    have shorter := value_length read
    intro m hm
    obtain rfl | hm := List.mem_cons.mp hm
    · exact value_within read
    · exact members_within others m hm
termination_by 2 * cs.length + 1

end

/-- The value of a text nests less than the limit. -/
theorem parse_within {limit : Nat} {text : String} {v : Json} (h : parse limit text = .ok v) :
    Within (limit - 1) v := by
  unfold parse at h
  cases read : readAll limit text.toList with
  | error stop => simp [read] at h
  | ok w =>
    obtain rfl : w = v := by simpa [read] using h
    rw [readAll_eq] at read
    obtain ⟨⟨u, rest⟩, first, ended⟩ := Except.bind_eq_ok_iff.mp read
    cases left : skipSpace rest with
    | nil =>
      simp only [left, Except.ok.injEq] at ended
      exact ended ▸ value_within first
    | cons c cs => simp [left] at ended

end ContextualQuery.Json
