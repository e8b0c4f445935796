import ContextualQuery.Json.Error
import ContextualQuery.Text.Hex

/-!
# Reading JSON strings

A string after its opening mark. Characters outside the basic plane may be escaped as a pair of
surrogates; a surrogate alone stands for nothing and is a fault.
-/
namespace ContextualQuery.Json

/-- The fault of four bytes that are not digits, or of fewer than four. -/
def badQuad (cs : List Char) : Stop :=
  if Text.byteSize cs < 4 then ⟨.endInString, 0⟩ else ⟨.invalidEscape, Text.byteSize cs - 4⟩

/-- Reads four hexadecimal digits, which have to be the next four bytes. -/
def hexQuad (cs : List Char) : Except Stop (Nat × List Char) :=
  match cs with
  | a :: b :: c :: d :: rest =>
    match Text.hexValue? [a, b, c, d] with
    | some n => .ok (n, rest)
    | none => .error (badQuad cs)
  | _ => .error (badQuad cs)

def pairChar (due : Char) : List Char → Except Stop (List Char)
  | [] => .error (.before .endInString [])
  | c :: cs => if c = due then .ok cs else .error (.on .endOfHexEscape (c :: cs))

/-- Whether a unit is the second of a pair. -/
def isLowSurrogate (n : Nat) : Bool := 0xdc00 ≤ n && n ≤ 0xdfff

/-- Whether a unit is the first of a pair. -/
def isHighSurrogate (n : Nat) : Bool := 0xd800 ≤ n && n ≤ 0xdbff

/-- Reads an escape by code unit, after its `u`. -/
def unitEscape (cs : List Char) : Except Stop (Char × List Char) := do
  let (first, rest) ← hexQuad cs
  if isLowSurrogate first then .error (.before .loneSurrogate rest)
  else if isHighSurrogate first then
    let rest ← pairChar '\\' rest
    let rest ← pairChar 'u' rest
    let (second, rest) ← hexQuad rest
    if isLowSurrogate second then
      .ok (Char.ofNat ((first - 0xd800) * 0x400 + (second - 0xdc00) + 0x10000), rest)
    else .error (.before .loneSurrogate rest)
  else .ok (Char.ofNat first, rest)

def escapeLetter? (c : Char) : Option Char :=
  match c with
  | '"' => some '"'
  | '\\' => some '\\'
  | '/' => some '/'
  | 'b' => some '\x08'
  | 'f' => some '\x0c'
  | 'n' => some '\n'
  | 'r' => some '\r'
  | 't' => some '\t'
  | _ => none

def readEscape (cs : List Char) : Except Stop (Char × List Char) :=
  match cs with
  | [] => .error (.before .endInString [])
  | c :: rest =>
    if c = 'u' then unitEscape rest
    else match escapeLetter? c with
      | some e => .ok (e, rest)
      | none => .error (.on .invalidEscape (c :: rest))

theorem hexQuad_length {cs rest : List Char} {n : Nat} (h : hexQuad cs = .ok (n, rest)) :
    rest.length < cs.length := by
  unfold hexQuad at h
  split at h
  · split at h
    · simp only [Except.ok.injEq, Prod.mk.injEq] at h
      simp only [← h.2, List.length_cons]
      omega
    · simp at h
  · simp at h

theorem pairChar_length {due : Char} {cs rest : List Char} (h : pairChar due cs = .ok rest) :
    rest.length < cs.length := by
  unfold pairChar at h
  split at h
  · simp at h
  · split at h
    · simp only [Except.ok.injEq] at h
      simp [← h]
    · simp at h

theorem unitEscape_length {cs rest : List Char} {c : Char} (h : unitEscape cs = .ok (c, rest)) :
    rest.length < cs.length := by
  simp only [unitEscape, bind, Except.bind] at h
  split at h
  · simp at h
  · rename_i first hfirst
    have one := hexQuad_length hfirst
    split at h
    · simp at h
    · split at h
      · split at h
        · simp at h
        · rename_i hslash
          have two := pairChar_length hslash
          split at h
          · simp at h
          · rename_i hu
            have three := pairChar_length hu
            split at h
            · simp at h
            · rename_i second hsecond
              have four := hexQuad_length hsecond
              split at h
              · simp only [Except.ok.injEq, Prod.mk.injEq] at h
                simp only [← h.2]
                omega
              · simp at h
      · simp only [Except.ok.injEq, Prod.mk.injEq] at h
        simpa [← h.2] using one

theorem readEscape_length {cs rest : List Char} {c : Char} (h : readEscape cs = .ok (c, rest)) :
    rest.length < cs.length := by
  unfold readEscape at h
  split at h
  · simp at h
  · split at h
    · have := unitEscape_length h
      simp only [List.length_cons]
      omega
    · split at h
      · simp only [Except.ok.injEq, Prod.mk.injEq] at h
        simp [← h.2]
      · simp at h

/-- Reads a string after its opening mark. -/
def readString (cs : List Char) : Except Stop (List Char × List Char) :=
  match cs with
  | [] => .error (.before .endInString [])
  | c :: rest =>
    if c = '"' then .ok ([], rest)
    else if c = '\\' then
      match _h : readEscape rest with
      | .error stop => .error stop
      | .ok (e, rest) =>
        match readString rest with
        | .error stop => .error stop
        | .ok (text, rest) => .ok (e :: text, rest)
    else if c.toNat < 0x20 then .error (.on .controlCharacter (c :: rest))
    else
      match readString rest with
      | .error stop => .error stop
      | .ok (text, rest) => .ok (c :: text, rest)
termination_by cs.length
decreasing_by
  · have := readEscape_length _h
    simp only [List.length_cons]
    omega
  · simp

theorem readString_length {cs text rest : List Char} (h : readString cs = .ok (text, rest)) :
    rest.length < cs.length := by
  fun_induction readString cs generalizing text rest with
  | case1 => simp at h
  | case2 => simp_all
  | case3 => simp at h
  | case4 => simp at h
  | case5 tail e after he text' rest' hr _ ih =>
    have := readEscape_length he
    have := ih hr
    simp only [Except.ok.injEq, Prod.mk.injEq] at h
    simp only [← h.2, List.length_cons]
    omega
  | case6 => simp at h
  | case7 => simp at h
  | case8 c tail _ _ _ text' rest' hr ih =>
    have := ih hr
    simp only [Except.ok.injEq, Prod.mk.injEq] at h
    simp only [← h.2, List.length_cons]
    omega

end ContextualQuery.Json
