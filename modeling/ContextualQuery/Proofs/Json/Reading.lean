import ContextualQuery.Json.Reader

namespace ContextualQuery.Json

/-- What was read and what is left. The bound that makes reading end is dropped here, and each way
of going on gets one equation. -/
def Read.pair {α : Type} {bound : Nat} (r : Read α bound) : α × List Char := (r.value, r.rest)

/-- Reads a value, after any blanks. -/
def value (depth : Nat) (cs : List Char) : Except Stop (Json × List Char) :=
  (readValue depth cs).map Read.pair

def items (depth : Nat) (first : Bool) (cs : List Char) : Except Stop (List Json × List Char) :=
  (readItems depth first cs).map Read.pair

def members (depth : Nat) (first : Bool) (cs : List Char) :
    Except Stop (List (String × Json) × List Char) :=
  (readMembers depth first cs).map Read.pair

theorem value_array (depth : Nat) {cs rest : List Char} (h : skipSpace cs = '[' :: rest) :
    value depth cs =
      if depth ≤ 1 then .error (.on .tooDeep ('[' :: rest))
      else (items (depth - 1) true rest).bind fun (vs, rest) => .ok (.array vs, rest) := by
  unfold value items
  rw [readValue]
  split
  · simp_all
  · rename_i c tail hc
    obtain ⟨rfl, rfl⟩ : c = '[' ∧ tail = rest := by simpa [hc] using h
    simp only [↓reduceIte]
    split
    · rfl
    · cases readItems (depth - 1) true tail <;> rfl

theorem value_object (depth : Nat) {cs rest : List Char} (h : skipSpace cs = '\x7b' :: rest) :
    value depth cs =
      if depth ≤ 1 then .error (.on .tooDeep ('\x7b' :: rest))
      else (members (depth - 1) true rest).bind fun (ms, rest) =>
        .ok (.object (assignAll ms), rest) := by
  unfold value members
  rw [readValue]
  split
  · simp_all
  · rename_i c tail hc
    obtain ⟨rfl, rfl⟩ : c = '\x7b' ∧ tail = rest := by simpa [hc] using h
    simp only [Char.reduceEq, ↓reduceIte]
    split
    · rfl
    · cases readMembers (depth - 1) true tail <;> rfl

theorem value_string (depth : Nat) {cs rest : List Char} (h : skipSpace cs = '"' :: rest) :
    value depth cs =
      (readString rest).bind fun (text, rest) => .ok (.string (String.ofList text), rest) := by
  unfold value
  rw [readValue]
  split
  · simp_all
  · rename_i c tail hc
    obtain ⟨rfl, rfl⟩ : c = '"' ∧ tail = rest := by simpa [hc] using h
    simp only [Char.reduceEq, ↓reduceIte]
    split <;> simp_all [Except.map, Except.bind, Read.pair]

theorem value_digit (depth : Nat) {cs rest : List Char} {c : Char} (h : skipSpace cs = c :: rest)
    (digit : isDigit c = true) :
    value depth cs =
      (readNumber false (c :: rest)).bind fun (n, rest) => .ok (.number n, rest) := by
  have notArray : c ≠ '[' := by rintro rfl; cases digit
  have notObject : c ≠ '\x7b' := by rintro rfl; cases digit
  have notString : c ≠ '"' := by rintro rfl; cases digit
  have notMinus : c ≠ '-' := by rintro rfl; cases digit
  unfold value
  rw [readValue]
  split
  · simp_all
  · rename_i d tail hc
    obtain ⟨rfl, rfl⟩ : d = c ∧ tail = rest := by simpa [hc] using h
    simp only [notArray, notObject, notString, notMinus, digit, ↓reduceIte]
    split <;> simp_all [Except.map, Except.bind, Read.pair]

theorem value_minus (depth : Nat) {cs rest : List Char} (h : skipSpace cs = '-' :: rest) :
    value depth cs = (readNumber true rest).bind fun (n, rest) => .ok (.number n, rest) := by
  unfold value
  rw [readValue]
  split
  · simp_all
  · rename_i c tail hc
    obtain ⟨rfl, rfl⟩ : c = '-' ∧ tail = rest := by simpa [hc] using h
    simp only [Char.reduceEq, ↓reduceIte]
    split <;> simp_all [Except.map, Except.bind, Read.pair]

theorem literal_append (letters rest : List Char) :
    literal letters (letters ++ rest) = .ok rest := by
  induction letters with
  | nil => rfl
  | cons c letters ih => rw [List.cons_append, literal, if_pos rfl, ih]

theorem value_named (depth : Nat) {cs letters rest : List Char} {c : Char} {v : Json}
    (named : namedValue? c = some (letters, v)) (h : skipSpace cs = c :: (letters ++ rest)) :
    value depth cs = .ok (v, rest) := by
  have spelled := literal_append letters rest
  have other : c ≠ '[' ∧ c ≠ '\x7b' ∧ c ≠ '"' ∧ c ≠ '-' ∧ isDigit c = false := by
    unfold namedValue? at named
    split at named
    case h_4 => cases named
    all_goals decide
  obtain ⟨array, object, string, minus, digit⟩ := other
  unfold value
  rw [readValue]
  split
  · simp_all
  · rename_i d tail hc
    obtain ⟨rfl, rfl⟩ : d = c ∧ tail = letters ++ rest := by simpa [hc] using h
    simp only [array, object, string, minus, digit, Bool.false_eq_true, ↓reduceIte]
    split
    · simp_all
    · rename_i letters' v' named'
      obtain ⟨rfl, rfl⟩ : letters' = letters ∧ v' = v := by simpa [named'] using named
      split <;> simp_all [Except.map, Read.pair]

theorem items_eq (depth : Nat) (first : Bool) (cs : List Char) :
    items depth first cs =
      (itemStep first cs).bind fun step =>
        match step with
        | .finished rest => .ok ([], rest)
        | .entry start =>
          (value depth start).bind fun (v, rest) =>
            (items depth false rest).bind fun (vs, rest) => .ok (v :: vs, rest) := by
  unfold items value
  rw [readItems]
  split
  · rename_i stop failed
    simp [failed, Except.map, Except.bind]
  · rename_i rest finished
    simp [finished, Except.map, Except.bind, Read.pair]
  · rename_i start entry
    simp only [entry, Except.bind]
    cases readValue depth start with
    | error stop => rfl
    | ok item =>
      simp only [Except.map, Read.pair]
      cases readItems depth false item.rest <;> rfl

theorem members_eq (depth : Nat) (first : Bool) (cs : List Char) :
    members depth first cs =
      (memberStep first cs).bind fun step =>
        match step with
        | .finished rest => .ok ([], rest)
        | .entry start =>
          (readKey start).bind fun (key, rest) =>
            (value depth rest).bind fun (v, rest) =>
              (members depth false rest).bind fun (ms, rest) => .ok ((key, v) :: ms, rest) := by
  unfold members value
  rw [readMembers]
  split
  · rename_i stop failed
    simp [failed, Except.map, Except.bind]
  · rename_i rest finished
    simp [finished, Except.map, Except.bind, Read.pair]
  · rename_i start entry
    simp only [entry, Except.bind]
    split
    · rename_i stop failed
      simp [failed, Except.map]
    · rename_i key rest read
      simp only [read]
      cases readValue depth rest with
      | error stop => rfl
      | ok v =>
        simp only [Except.map, Read.pair]
        cases readMembers depth false v.rest <;> rfl

theorem readAll_eq (depth : Nat) (cs : List Char) :
    readAll depth cs =
      (value depth cs).bind fun (v, rest) =>
        match skipSpace rest with
        | [] => .ok v
        | c :: rest => .error (.on .trailingCharacters (c :: rest)) := by
  unfold readAll value
  cases readValue depth cs <;> rfl

end ContextualQuery.Json
