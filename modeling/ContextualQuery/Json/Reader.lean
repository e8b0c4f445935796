import ContextualQuery.Json.Number
import ContextualQuery.Json.Text

/-!
# Reading JSON

A text is one value between blanks. Values may nest only so deep, a limit that the caller sets. Of
a repeated key, the first place and the last value count.
-/
namespace ContextualQuery.Json

def isSpace (c : Char) : Bool := c == ' ' || c == '\n' || c == '\t' || c == '\r'

def skipSpace (cs : List Char) : List Char := cs.dropWhile isSpace

def literal : List Char → List Char → Except Stop (List Char)
  | [], cs => .ok cs
  | _ :: _, [] => .error (.on .endInValue [])
  | due :: more, c :: cs =>
    if c = due then literal more cs else .error (.on .expectedIdent (c :: cs))

/-- The value that a literal with this first letter stands for, and its other letters. -/
def namedValue? (c : Char) : Option (List Char × Json) :=
  match c with
  | 'n' => some (['u', 'l', 'l'], .null)
  | 't' => some (['r', 'u', 'e'], .bool true)
  | 'f' => some (['a', 'l', 's', 'e'], .bool false)
  | _ => none

/-- What comes next in an array or object: its end, or an entry. -/
inductive Step where
  | finished (rest : List Char)
  | entry (start : List Char)

/-- Finds the next item of an array, or its end. -/
def itemStep (first : Bool) (cs : List Char) : Except Stop Step :=
  match skipSpace cs with
  | [] => .error (.on .endInList [])
  | c :: rest =>
    if c = ']' then .ok (.finished rest)
    else if first then .ok (.entry (c :: rest))
    else if c = ',' then
      match skipSpace rest with
      | [] => .error (.on .endInValue [])
      | d :: more =>
        if d = ']' then .error (.on .trailingComma (d :: more)) else .ok (.entry (d :: more))
    else .error (.on .expectedListComma (c :: rest))

/-- Finds the opening mark of the next key of an object, or the end of the object. -/
def memberStep (first : Bool) (cs : List Char) : Except Stop Step :=
  match skipSpace cs with
  | [] => .error (.on .endInObject [])
  | c :: rest =>
    if c = '\x7d' then .ok (.finished rest)
    else if first then
      if c = '"' then .ok (.entry rest) else .error (.on .keyNotString (c :: rest))
    else if c = ',' then
      match skipSpace rest with
      | [] => .error (.on .endInValue [])
      | d :: more =>
        if d = '"' then .ok (.entry more)
        else if d = '\x7d' then .error (.on .trailingComma (d :: more))
        else .error (.on .keyNotString (d :: more))
    else .error (.on .expectedObjectComma (c :: rest))

def colon (cs : List Char) : Except Stop (List Char) :=
  match skipSpace cs with
  | [] => .error (.on .endInObject [])
  | c :: rest => if c = ':' then .ok rest else .error (.on .expectedColon (c :: rest))

def readKey (cs : List Char) : Except Stop (String × List Char) :=
  match readString cs with
  | .error stop => .error stop
  | .ok (key, rest) =>
    match colon rest with
    | .error stop => .error stop
    | .ok rest => .ok (String.ofList key, rest)

theorem skipSpace_length (cs : List Char) : (skipSpace cs).length ≤ cs.length :=
  length_dropWhile_le isSpace cs

theorem literal_length {due cs rest : List Char} (h : literal due cs = .ok rest) :
    rest.length ≤ cs.length := by
  fun_induction literal due cs with
  | case1 => simp_all
  | case2 => simp at h
  | case3 due more cs ih =>
    have := ih h
    simp only [List.length_cons]
    omega
  | case4 => simp at h

/-- A step does not go back: what it leaves is not longer than what it found, and shorter at the
end of an array. -/
theorem itemStep_length {first : Bool} {cs : List Char} {step : Step}
    (h : itemStep first cs = .ok step) :
    match step with
    | .finished rest => rest.length < cs.length
    | .entry start => start.length ≤ cs.length := by
  have outer := skipSpace_length cs
  unfold itemStep at h
  split at h
  · simp at h
  · rename_i c rest hc
    simp only [hc, List.length_cons] at outer
    split at h
    · simp only [Except.ok.injEq] at h
      subst h
      simp only
      omega
    · split at h
      · simp only [Except.ok.injEq] at h
        subst h
        simpa using outer
      · split at h
        · have inner := skipSpace_length rest
          split at h
          · simp at h
          · rename_i d more hd
            simp only [hd, List.length_cons] at inner
            split at h
            · simp at h
            · simp only [Except.ok.injEq] at h
              subst h
              simp only [List.length_cons]
              omega
        · simp at h

theorem memberStep_length {first : Bool} {cs : List Char} {step : Step}
    (h : memberStep first cs = .ok step) :
    match step with
    | .finished rest => rest.length < cs.length
    | .entry start => start.length < cs.length := by
  have outer := skipSpace_length cs
  unfold memberStep at h
  split at h
  · simp at h
  · rename_i c rest hc
    simp only [hc, List.length_cons] at outer
    split at h
    · simp only [Except.ok.injEq] at h
      subst h
      simp only
      omega
    · split at h
      · split at h
        · simp only [Except.ok.injEq] at h
          subst h
          simp only
          omega
        · simp at h
      · split at h
        · have inner := skipSpace_length rest
          split at h
          · simp at h
          · rename_i d more hd
            simp only [hd, List.length_cons] at inner
            split at h
            · simp only [Except.ok.injEq] at h
              subst h
              simp only
              omega
            · split at h <;> simp at h
        · simp at h

theorem colon_length {cs rest : List Char} (h : colon cs = .ok rest) :
    rest.length < cs.length := by
  have outer := skipSpace_length cs
  unfold colon at h
  split at h
  · simp at h
  · rename_i c tail hc
    simp only [hc, List.length_cons] at outer
    split at h
    · simp only [Except.ok.injEq] at h
      rw [← h]
      omega
    · simp at h

theorem readKey_length {cs rest : List Char} {key : String} (h : readKey cs = .ok (key, rest)) :
    rest.length < cs.length := by
  unfold readKey at h
  split at h
  · simp at h
  · rename_i hs
    have := readString_length hs
    split at h
    · simp at h
    · rename_i hc
      have := colon_length hc
      simp only [Except.ok.injEq, Prod.mk.injEq] at h
      rw [← h.2]
      omega

/-- A part of a text that was read, with what is left, shorter than `bound`. -/
structure Read (α : Type) (bound : Nat) where
  value : α
  rest : List Char
  shorter : rest.length < bound

mutual

/-- Reads a value, after any blanks, with at most `depth - 1` levels of nesting. -/
def readValue (depth : Nat) (cs : List Char) : Except Stop (Read Json cs.length) :=
  match _hc : skipSpace cs with
  | [] => .error (.on .endInValue [])
  | c :: rest =>
    if c = '[' then
      if depth ≤ 1 then .error (.on .tooDeep (c :: rest))
      else match readItems (depth - 1) true rest with
        | .error stop => .error stop
        | .ok items => .ok ⟨.array items.value, items.rest, by
            have := skipSpace_length cs
            have := items.shorter
            simp only [_hc, List.length_cons] at *
            omega⟩
    else if c = '\x7b' then
      if depth ≤ 1 then .error (.on .tooDeep (c :: rest))
      else match readMembers (depth - 1) true rest with
        | .error stop => .error stop
        | .ok members => .ok ⟨.object (assignAll members.value), members.rest, by
            have := skipSpace_length cs
            have := members.shorter
            simp only [_hc, List.length_cons] at *
            omega⟩
    else if c = '"' then
      match _hs : readString rest with
      | .error stop => .error stop
      | .ok (text, rest) => .ok ⟨.string (String.ofList text), rest, by
          have := skipSpace_length cs
          have := readString_length _hs
          simp only [_hc, List.length_cons] at *
          omega⟩
    else if c = '-' then
      match _hn : readNumber true rest with
      | .error stop => .error stop
      | .ok (n, rest) => .ok ⟨.number n, rest, by
          have := skipSpace_length cs
          have := readNumber_length _hn
          simp only [_hc, List.length_cons] at *
          omega⟩
    else if isDigit c then
      match _hn : readNumber false (c :: rest) with
      | .error stop => .error stop
      | .ok (n, rest) => .ok ⟨.number n, rest, by
          have := skipSpace_length cs
          have := readNumber_length _hn
          simp only [_hc, List.length_cons] at *
          omega⟩
    else
      match namedValue? c with
      | none => .error (.on .expectedValue (c :: rest))
      | some (letters, v) =>
        match _hl : literal letters rest with
        | .error stop => .error stop
        | .ok rest => .ok ⟨v, rest, by
            have := skipSpace_length cs
            have := literal_length _hl
            simp only [_hc, List.length_cons] at *
            omega⟩
termination_by 2 * cs.length
decreasing_by
  all_goals
    have := skipSpace_length cs
    simp only [_hc, List.length_cons] at this
    omega

def readItems (depth : Nat) (first : Bool) (cs : List Char) :
    Except Stop (Read (List Json) cs.length) :=
  match _hs : itemStep first cs with
  | .error stop => .error stop
  | .ok (.finished rest) => .ok ⟨[], rest, itemStep_length _hs⟩
  | .ok (.entry start) =>
    match readValue depth start with
    | .error stop => .error stop
    | .ok item =>
      match readItems depth false item.rest with
      | .error stop => .error stop
      | .ok items => .ok ⟨item.value :: items.value, items.rest, by
          have := itemStep_length _hs
          have := item.shorter
          have := items.shorter
          simp only at *
          omega⟩
termination_by 2 * cs.length + 1
decreasing_by
  all_goals
    have := itemStep_length _hs
    simp only at this
  · omega
  · have := item.shorter
    omega

def readMembers (depth : Nat) (first : Bool) (cs : List Char) :
    Except Stop (Read (List (String × Json)) cs.length) :=
  match _hs : memberStep first cs with
  | .error stop => .error stop
  | .ok (.finished rest) => .ok ⟨[], rest, memberStep_length _hs⟩
  | .ok (.entry start) =>
    match _hk : readKey start with
    | .error stop => .error stop
    | .ok (key, rest) =>
      match readValue depth rest with
      | .error stop => .error stop
      | .ok value =>
        match readMembers depth false value.rest with
        | .error stop => .error stop
        | .ok members => .ok ⟨(key, value.value) :: members.value, members.rest, by
            have := memberStep_length _hs
            have := readKey_length _hk
            have := value.shorter
            have := members.shorter
            simp only at *
            omega⟩
termination_by 2 * cs.length + 1
decreasing_by
  all_goals
    have := readKey_length _hk
    have := memberStep_length _hs
    simp only at this
  · omega
  · have := value.shorter
    omega

end

def readAll (depth : Nat) (cs : List Char) : Except Stop Json :=
  match readValue depth cs with
  | .error stop => .error stop
  | .ok read =>
    match skipSpace read.rest with
    | [] => .ok read.value
    | c :: rest => .error (.on .trailingCharacters (c :: rest))

/-- Reads a text in which fewer than `depth` arrays and objects nest. -/
def parse (depth : Nat) (text : String) : Except SyntaxFault Json :=
  match readAll depth text.toList with
  | .ok v => .ok v
  | .error stop => .error (stop.locate text.toList)

end ContextualQuery.Json
