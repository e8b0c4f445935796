import ContextualQuery.Json.Error
import ContextualQuery.Json.Value

/-!
# Reading JSON numbers

A number is read as a significand of 64 bits and a power of ten. Digits that no longer fit the
significand only count for the power.
-/
namespace ContextualQuery.Json

def digit? (c : Char) : Option Nat :=
  if '0' ≤ c ∧ c ≤ '9' then some (c.toNat - '0'.toNat) else none

def isDigit (c : Char) : Bool := (digit? c).isSome

/-- A significand after as many digits as it can take. -/
structure Significand where
  value : Nat
  taken : Nat
  rest : List Char
deriving DecidableEq

/-- Takes digits as long as the significand stays within `limit`. -/
def takeDigits (limit : Nat) (value taken : Nat) : List Char → Significand
  | [] => ⟨value, taken, []⟩
  | c :: cs =>
    match digit? c with
    | none => ⟨value, taken, c :: cs⟩
    | some d =>
      if limit < value * 10 + d then ⟨value, taken, c :: cs⟩
      else takeDigits limit (value * 10 + d) (taken + 1) cs

def scaledNumber (negative : Bool) (significand : Nat) (exponent : Int) (rest : List Char) :
    Except Stop (JsonNumber × List Char) :=
  match (Magnitude.ofRatio? significand 1).bind (·.scaleTen? exponent) with
  | none => .error (.before .numberOutOfRange rest)
  | some magnitude => .ok (.binary ⟨negative, magnitude⟩, rest)

/-- The greatest exponent that can be written. -/
def maxExponent : Nat := Nat.pow 2 31 - 1

/-- The exponent after one written with or without a minus is added. -/
def shiftedBy (exponent : Int) (down : Bool) (written : Nat) : Int :=
  if down then exponent - written else exponent + written

/-- Reads the digits of an exponent after the first. One digit too many decides the number: it is
zero, or out of range. -/
def exponentDigits (negative : Bool) (significand : Nat) (exponent : Int) (down : Bool)
    (written : Nat) : List Char → Except Stop (JsonNumber × List Char)
  | [] => scaledNumber negative significand (shiftedBy exponent down written) []
  | c :: cs =>
    match digit? c with
    | none => scaledNumber negative significand (shiftedBy exponent down written) (c :: cs)
    | some d =>
      if maxExponent < written * 10 + d then
        if significand ≠ 0 ∧ !down then .error (.before .numberOutOfRange cs)
        else .ok (.binary ⟨negative, .zero⟩, cs.dropWhile isDigit)
      else exponentDigits negative significand exponent down (written * 10 + d) cs

def exponentSign : List Char → Bool × List Char
  | [] => (false, [])
  | c :: cs => if c = '+' then (false, cs) else if c = '-' then (true, cs) else (false, c :: cs)

def exponentPart (negative : Bool) (significand : Nat) (exponent : Int) (cs : List Char) :
    Except Stop (JsonNumber × List Char) :=
  let signed := exponentSign cs
  match signed.2 with
  | [] => .error (.on .endInValue [])
  | c :: rest =>
    match digit? c with
    | none => .error (.on .invalidNumber (c :: rest))
    | some d => exponentDigits negative significand exponent signed.1 d rest

def exponentOrEnd (negative : Bool) (significand : Nat) (exponent : Int) (cs : List Char) :
    Except Stop (JsonNumber × List Char) :=
  match cs with
  | [] => scaledNumber negative significand exponent []
  | c :: rest =>
    if c = 'e' ∨ c = 'E' then exponentPart negative significand exponent rest
    else scaledNumber negative significand exponent (c :: rest)

def digitDue (cs : List Char) : Stop := .on (if cs.isEmpty then .endInValue else .invalidNumber) cs

def fractionPart (negative : Bool) (significand : Nat) (exponent : Int) (cs : List Char) :
    Except Stop (JsonNumber × List Char) :=
  if !cs.head?.any isDigit then .error (digitDue cs)
  else
    let fraction := takeDigits maxWord significand 0 cs
    exponentOrEnd negative fraction.value (exponent - fraction.taken)
      (fraction.rest.dropWhile isDigit)

def integerNumber (negative : Bool) (significand : Nat) : JsonNumber :=
  if !negative then .natural significand
  else if significand = 0 ∨ Nat.pow 2 63 < significand then
    .binary ⟨true, (Magnitude.ofRatio? significand 1).getD .zero⟩
  else .negative significand

/-- Reads a number after its sign and the digits of its integer part that fit. -/
def afterInteger (negative : Bool) (whole : Significand) :
    Except Stop (JsonNumber × List Char) :=
  let rest := whole.rest.dropWhile isDigit
  let dropped := (whole.rest.takeWhile isDigit).length
  match rest with
  | c :: cs =>
    if c = '.' then fractionPart negative whole.value dropped cs
    else if c = 'e' ∨ c = 'E' then exponentPart negative whole.value dropped cs
    else if dropped = 0 then .ok (integerNumber negative whole.value, c :: cs)
    else scaledNumber negative whole.value dropped (c :: cs)
  | [] =>
    if dropped = 0 then .ok (integerNumber negative whole.value, [])
    else scaledNumber negative whole.value dropped []

def readNumber (negative : Bool) (cs : List Char) : Except Stop (JsonNumber × List Char) :=
  match cs with
  | [] => .error (.on .endInValue [])
  | c :: rest =>
    match digit? c with
    | none => .error (.on .invalidNumber (c :: rest))
    | some d =>
      if d = 0 then
        if rest.head?.any isDigit then .error (.on .invalidNumber rest)
        else afterInteger negative ⟨0, 1, rest⟩
      else afterInteger negative (takeDigits maxWord d 1 rest)

theorem length_dropWhile_le (p : Char → Bool) (cs : List Char) :
    (cs.dropWhile p).length ≤ cs.length :=
  (List.dropWhile_sublist p).length_le

theorem takeDigits_length (limit value taken : Nat) (cs : List Char) :
    (takeDigits limit value taken cs).rest.length ≤ cs.length := by
  fun_induction takeDigits limit value taken cs with
  | case1 | case2 | case3 => simp
  | case4 _ _ c cs d _ _ ih => simp only [List.length_cons]; omega

theorem scaledNumber_rest {negative : Bool} {significand : Nat} {exponent : Int}
    {cs rest : List Char} {n : JsonNumber}
    (h : scaledNumber negative significand exponent cs = .ok (n, rest)) : rest = cs := by
  unfold scaledNumber at h
  split at h <;> simp_all

theorem exponentDigits_length {negative : Bool} {significand : Nat} {exponent : Int} {down : Bool}
    {written : Nat} {cs rest : List Char} {n : JsonNumber}
    (h : exponentDigits negative significand exponent down written cs = .ok (n, rest)) :
    rest.length ≤ cs.length := by
  fun_induction exponentDigits negative significand exponent down written cs with
  | case1 => simp [scaledNumber_rest h]
  | case2 => simp [scaledNumber_rest h]
  | case3 => simp at h
  | case4 written c cs d _ _ _ =>
    simp only [Except.ok.injEq, Prod.mk.injEq] at h
    have := length_dropWhile_le isDigit cs
    simp only [← h.2, List.length_cons]
    omega
  | case5 written c cs d _ _ ih =>
    have := ih h
    simp only [List.length_cons]
    omega

theorem exponentSign_length (cs : List Char) : (exponentSign cs).2.length ≤ cs.length := by
  fun_cases exponentSign cs <;> simp

theorem exponentPart_length {negative : Bool} {significand : Nat} {exponent : Int}
    {cs rest : List Char} {n : JsonNumber}
    (h : exponentPart negative significand exponent cs = .ok (n, rest)) :
    rest.length ≤ cs.length := by
  have signed := exponentSign_length cs
  simp only [exponentPart] at h
  split at h
  · simp at h
  · rename_i c tail hc
    split at h
    · simp at h
    · have := exponentDigits_length h
      simp only [hc, List.length_cons] at signed
      omega

theorem exponentOrEnd_length {negative : Bool} {significand : Nat} {exponent : Int}
    {cs rest : List Char} {n : JsonNumber}
    (h : exponentOrEnd negative significand exponent cs = .ok (n, rest)) :
    rest.length ≤ cs.length := by
  unfold exponentOrEnd at h
  split at h
  · simp [scaledNumber_rest h]
  · split at h
    · have := exponentPart_length h
      simp only [List.length_cons]
      omega
    · simp [scaledNumber_rest h]

theorem fractionPart_length {negative : Bool} {significand : Nat} {exponent : Int}
    {cs rest : List Char} {n : JsonNumber}
    (h : fractionPart negative significand exponent cs = .ok (n, rest)) :
    rest.length ≤ cs.length := by
  simp only [fractionPart] at h
  split at h
  · simp at h
  · have := exponentOrEnd_length h
    have := length_dropWhile_le isDigit (takeDigits maxWord significand 0 cs).rest
    have := takeDigits_length maxWord significand 0 cs
    omega

theorem afterInteger_length {negative : Bool} {whole : Significand} {rest : List Char}
    {n : JsonNumber} (h : afterInteger negative whole = .ok (n, rest)) :
    rest.length ≤ whole.rest.length := by
  have shrinks := length_dropWhile_le isDigit whole.rest
  simp only [afterInteger] at h
  split at h
  · rename_i c cs hr
    simp only [hr, List.length_cons] at shrinks
    split at h
    · have := fractionPart_length h
      omega
    · split at h
      · have := exponentPart_length h
        omega
      · split at h
        · simp only [Except.ok.injEq, Prod.mk.injEq] at h
          simpa [← h.2] using shrinks
        · simpa [scaledNumber_rest h] using shrinks
  · split at h
    · simp only [Except.ok.injEq, Prod.mk.injEq] at h
      simp [← h.2]
    · simp [scaledNumber_rest h]

theorem readNumber_length {negative : Bool} {cs rest : List Char} {n : JsonNumber}
    (h : readNumber negative cs = .ok (n, rest)) : rest.length < cs.length := by
  unfold readNumber at h
  split at h
  · simp at h
  · rename_i c tail
    split at h
    · simp at h
    · rename_i d _
      split at h
      · split at h
        · simp at h
        · have := afterInteger_length h
          simp only [List.length_cons] at this ⊢
          omega
      · have := afterInteger_length h
        have := takeDigits_length maxWord d 1 tail
        simp only [List.length_cons]
        omega

end ContextualQuery.Json
