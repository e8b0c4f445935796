import ContextualQuery.Text.Hex
import ContextualQuery.Toml.Value

/-!
# TOML strings

Four kinds of strings: with escapes or literal, on one line or on several. Each is read after its
opening marks.
-/
namespace ContextualQuery.Toml

def isSpace (c : Char) : Bool := c == ' ' || c == '\t'

/-- Characters that stand in no text: all controls but the tab. -/
def isControl (c : Char) : Bool := (c.toNat < 0x20 && c != '\t') || c == '\x7f'

def newline? : List Char → Option (List Char)
  | '\n' :: cs => some cs
  | '\r' :: '\n' :: cs => some cs
  | _ => none

theorem newline?_length {cs rest : List Char} (h : newline? cs = some rest) :
    rest.length < cs.length := by
  unfold newline? at h
  split at h
  · simp only [Option.some.injEq] at h
    simp only [← h, List.length_cons]
    omega
  · simp only [Option.some.injEq] at h
    simp only [← h, List.length_cons]
    omega
  · simp at h

def escapeLetter? (c : Char) : Option Char :=
  match c with
  | 'b' => some '\x08'
  | 't' => some '\t'
  | 'n' => some '\n'
  | 'f' => some '\x0c'
  | 'r' => some '\r'
  | 'e' => some '\x1b'
  | '"' => some '"'
  | '\\' => some '\\'
  | _ => none

/-- The character with a code point of exactly `width` hexadecimal digits. -/
def codePoint? (width : Nat) (digits : List Char) : Option Char :=
  if digits.length = width then
    (Text.hexValue? digits).bind fun n => if n.isValidChar then some (Char.ofNat n) else none
  else none

def readEscape (cs : List Char) : Except Fault (Char × List Char) :=
  match cs with
  | [] => .error (.here .invalidEscape [])
  | c :: rest =>
    match escapeLetter? c, Text.hexWidth? c with
    | some e, _ => .ok (e, rest)
    | none, some width =>
      match codePoint? width (rest.take width) with
      | some e => .ok (e, rest.drop width)
      | none => .error (.here .invalidEscape cs)
    | none, none => .error (.here .invalidEscape cs)

theorem readEscape_length {cs rest : List Char} {c : Char} (h : readEscape cs = .ok (c, rest)) :
    rest.length < cs.length := by
  unfold readEscape at h
  split at h
  · simp at h
  · split at h
    · simp only [Except.ok.injEq, Prod.mk.injEq] at h
      simp [← h.2]
    · split at h
      · simp only [Except.ok.injEq, Prod.mk.injEq] at h
        simp only [← h.2, List.length_drop, List.length_cons]
        omega
      · simp at h
    · simp at h

def readBasic (cs : List Char) : Except Fault (List Char × List Char) :=
  match cs with
  | [] => .error (.here (.expected "`\"`") [])
  | c :: rest =>
    if c = '"' then .ok ([], rest)
    else if c = '\\' then
      match _h : readEscape rest with
      | .error f => .error f
      | .ok (e, rest) =>
        match readBasic rest with
        | .error f => .error f
        | .ok (text, rest) => .ok (e :: text, rest)
    else if isControl c then .error (.here .controlCharacter cs)
    else
      match readBasic rest with
      | .error f => .error f
      | .ok (text, rest) => .ok (c :: text, rest)
termination_by cs.length
decreasing_by
  · have := readEscape_length _h
    simp only [List.length_cons]
    omega
  · simp

def readLiteral : List Char → Except Fault (List Char × List Char)
  | [] => .error (.here (.expected "`'`") [])
  | c :: rest =>
    if c = '\'' then .ok ([], rest)
    else if isControl c then .error (.here .controlCharacter (c :: rest))
    else
      match readLiteral rest with
      | .error f => .error f
      | .ok (text, rest) => .ok (c :: text, rest)

def markRun (mark : Char) (cs : List Char) : Nat := (cs.takeWhile (· == mark)).length

/-- The end of a string on several lines: three marks, before which one or two more may stand that
belong to the string. Gives those and what is left. -/
def closing? (mark : Char) (cs : List Char) : Option (List Char × List Char) :=
  let run := markRun mark cs
  if run < 3 then none
  else some (List.replicate (min (run - 3) 2) mark, cs.drop (min run 5))

def skipLines : List Char → List Char
  | '\r' :: '\n' :: cs => skipLines cs
  | c :: cs => if c = '\n' || isSpace c then skipLines cs else c :: cs
  | [] => []

/-- A text after the end of its line and the blanks that follow, if only blanks come before it. -/
def joinedLine? (cs : List Char) : Option (List Char) :=
  (newline? (cs.dropWhile isSpace)).map skipLines

theorem skipLines_length (cs : List Char) : (skipLines cs).length ≤ cs.length := by
  fun_induction skipLines cs with
  | case1 cs ih => simp only [List.length_cons]; omega
  | case2 c cs _ _ ih => simp only [List.length_cons]; omega
  | case3 | case4 => simp

theorem joinedLine?_length {cs rest : List Char} (h : joinedLine? cs = some rest) :
    rest.length < cs.length := by
  simp only [joinedLine?, Option.map_eq_some_iff] at h
  obtain ⟨after, hn, rfl⟩ := h
  have := newline?_length hn
  have := skipLines_length after
  have := (List.dropWhile_sublist isSpace (l := cs)).length_le
  omega

/-- Reads a string with escapes on several lines up to its closing marks. A backslash at the end of
a line joins it with the next. -/
def readBasicLines (cs : List Char) : Except Fault (List Char × List Char) :=
  match closing? '"' cs with
  | some (text, rest) => .ok (text, rest)
  | none =>
    match cs with
    | [] => .error (.here (.expected "`\"\"\"`") [])
    | c :: rest =>
      if c = '\\' then
        match _hj : joinedLine? rest with
        | some rest => readBasicLines rest
        | none =>
          match _he : readEscape rest with
          | .error f => .error f
          | .ok (e, rest) =>
            match readBasicLines rest with
            | .error f => .error f
            | .ok (text, rest) => .ok (e :: text, rest)
      else if isControl c && (newline? (c :: rest)).isNone then
        .error (.here .controlCharacter cs)
      else
        match readBasicLines rest with
        | .error f => .error f
        | .ok (text, rest) => .ok (c :: text, rest)
termination_by cs.length
decreasing_by
  · have := joinedLine?_length _hj
    simp only [List.length_cons]
    omega
  · have := readEscape_length _he
    simp only [List.length_cons]
    omega
  · simp

def readLiteralLines (cs : List Char) : Except Fault (List Char × List Char) :=
  match closing? '\'' cs with
  | some (text, rest) => .ok (text, rest)
  | none =>
    match cs with
    | [] => .error (.here (.expected "`'''`") [])
    | c :: rest =>
      if isControl c && (newline? (c :: rest)).isNone then .error (.here .controlCharacter cs)
      else
        match readLiteralLines rest with
        | .error f => .error f
        | .ok (text, rest) => .ok (c :: text, rest)
termination_by cs.length

/-- A text without the end of the line that follows opening marks directly. -/
def dropFirstNewline (cs : List Char) : List Char := (newline? cs).getD cs

def startsTriple (mark : Char) (cs : List Char) : Bool := 3 ≤ markRun mark cs

def readLine? : List Char → Option (Except Fault (List Char × List Char))
  | '"' :: cs => some (readBasic cs)
  | '\'' :: cs => some (readLiteral cs)
  | _ => none

def readString? (cs : List Char) : Option (Except Fault (List Char × List Char)) :=
  if startsTriple '"' cs then some (readBasicLines (dropFirstNewline (cs.drop 3)))
  else if startsTriple '\'' cs then some (readLiteralLines (dropFirstNewline (cs.drop 3)))
  else readLine? cs

end ContextualQuery.Toml
