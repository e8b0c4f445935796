import ContextualQuery.Toml.Scalar
import ContextualQuery.Toml.Table
import ContextualQuery.Toml.Text

/-!
# Reading TOML

A document is read line by line into statements, from which the tables are then built. Arrays and
inline tables may run over several lines, hold comments and end with a comma. Numbers are read
without a look at their size.
-/
namespace ContextualQuery.Toml

def skipSpace (cs : List Char) : List Char := cs.dropWhile isSpace

def skipBlank (inComment : Bool) : List Char → Except Fault (List Char)
  | [] => .ok []
  | '\r' :: '\n' :: cs => skipBlank false cs
  | c :: cs =>
    if c = '\n' then skipBlank false cs
    else if inComment then
      if isControl c then .error (.here .controlCharacter (c :: cs)) else skipBlank true cs
    else if isSpace c then skipBlank false cs
    else if c = '#' then skipBlank true cs
    else .ok (c :: cs)

/-- A text from the end of the comment that it starts with. -/
def commentEnd : List Char → Except Fault (List Char)
  | [] => .ok []
  | c :: cs =>
    if (newline? (c :: cs)).isSome then .ok (c :: cs)
    else if isControl c then .error (.here .controlCharacter (c :: cs))
    else commentEnd cs

/-- Skips what may follow a statement: blanks, a comment and the end of the line. -/
def endLine (cs : List Char) : Except Fault (List Char) := do
  let cs := skipSpace cs
  let cs ← if cs.head? = some '#' then commentEnd cs else pure cs
  match cs, newline? cs with
  | [], _ => return []
  | _, some rest => return rest
  | _, none => .error (.here (.expected "newline, `#`") cs)

def isBareKeyChar (c : Char) : Bool := c.isAlphanum || c == '-' || c == '_'

def readKey (cs : List Char) : Except Fault (Key × List Char) :=
  if startsTriple '"' cs || startsTriple '\'' cs then .error (.here (.expected "key") cs)
  else match readLine? cs with
    | some (.error f) => .error f
    | some (.ok (name, rest)) => .ok (⟨String.ofList name, .between cs rest⟩, rest)
    | none =>
      match cs.span isBareKeyChar with
      | ([], _) => .error (.here (.expected "key") cs)
      | (name, rest) => .ok (⟨String.ofList name, .between cs rest⟩, rest)

/-- Reads keys with dots between them. There are fewer keys than `fuel`. -/
def readPath : Nat → List Char → Except Fault (List Key × List Char)
  | 0, cs => .error (.here (.expected "key") cs)
  | fuel + 1, cs => do
    let (key, rest) ← readKey cs
    match skipSpace rest with
    | '.' :: more => do
      let (keys, rest) ← readPath fuel (skipSpace more)
      return (key :: keys, rest)
    | _ => return ([key], rest)

/-- The greatest number of parts of a dotted key, and of arrays and inline tables that nest. -/
def depthLimit : Nat := 80

def readDottedKey (cs : List Char) : Except Fault ((List Key × Key) × List Char) := do
  let (keys, rest) ← readPath (cs.length + 1) cs
  if depthLimit < keys.length then .error ⟨.tooDeep, .between cs rest⟩
  else match keys.getLast? with
  | some key => return ((keys.dropLast, key), rest)
  | none => .error (.here (.expected "key") cs)

/-- Reads entries with commas between them up to a closing bracket. There are fewer entries than
`fuel`. -/
def readEntries {α : Type} (read : List Char → Except Fault (α × List Char)) (close : Char) :
    Nat → List Char → Except Fault (List α × List Char)
  | 0, cs => .error (.here (.expected "entry") cs)
  | fuel + 1, cs => do
    let cs ← skipBlank false cs
    match after? close cs with
    | some rest => return ([], rest)
    | none =>
      let (entry, rest) ← read cs
      let rest ← skipBlank false rest
      match after? close rest, after? ',' rest with
      | some rest, _ => return ([entry], rest)
      | none, some rest => do
        let (entries, rest) ← readEntries read close fuel rest
        return (entry :: entries, rest)
      | none, none => .error (.here (.expected "`,`") rest)

def located (read : List Char → Except Fault (Value × List Char)) (cs : List Char) :
    Except Fault ((Extent × Value) × List Char) := do
  let (value, rest) ← read cs
  return ((.between cs rest, value), rest)

/-- Skips what may stand around an equals sign: blanks, and between braces also ends of lines and
comments. -/
def skipGap (inBraces : Bool) (cs : List Char) : Except Fault (List Char) :=
  if inBraces then skipBlank false cs else .ok (skipSpace cs)

def readAssignment (inBraces : Bool) (read : List Char → Except Fault (Value × List Char))
    (cs : List Char) : Except Fault (Assignment × List Char) := do
  let ((path, key), rest) ← readDottedKey cs
  match after? '=' (← skipGap inBraces rest) with
  | none => .error (.here (.expected "`.`, `=`") rest)
  | some rest =>
    let ((extent, value), rest) ← located read (← skipGap inBraces rest)
    return (⟨path, key, extent, value⟩, rest)

/-- Reads a value in which at most `depth` arrays and inline tables nest. -/
def readValue (depth : Nat) (cs : List Char) : Except Fault (Value × List Char) :=
  match readString? cs, after? '[' cs, after? '\x7b' cs with
  | some reading, _, _ => do
    let (text, rest) ← reading
    return (.string (String.ofList text), rest)
  | none, some inner, _ =>
    match depth with
    | 0 => .error (.here .tooDeep cs)
    | depth + 1 => do
      let (items, rest) ← readEntries (located (readValue depth)) ']' (cs.length + 1) inner
      return (.array false items, rest)
  | none, none, some inner =>
    match depth with
    | 0 => .error (.here .tooDeep cs)
    | depth + 1 => do
      let (assignments, rest) ←
        readEntries (readAssignment true (readValue depth)) '\x7d' (cs.length + 1) inner
      return (← inlineTable assignments, rest)
  | none, none, none => readScalar cs

def readHeader (cs : List Char) : Except Fault (Header × List Char) := do
  let ofArray := 2 ≤ markRun '[' cs
  let opened := cs.drop (if ofArray then 2 else 1)
  let ((path, key), rest) ← readDottedKey (skipSpace opened)
  let closed := skipSpace rest
  let close := if ofArray then 2 else 1
  if markRun ']' closed < close then .error (.here (.expected "`.`, `]`") closed)
  else
    let rest := closed.drop close
    return (⟨ofArray, path, key, .between cs rest⟩, rest)

def readStatements : Nat → List Char → Except Fault (List Statement)
  | 0, cs => .error (.here (.expected "statement") cs)
  | fuel + 1, cs => do
    match ← skipBlank false cs with
    | [] => return []
    | c :: rest =>
      let (statement, rest) ←
        if c = '[' then do
          let (h, rest) ← readHeader (c :: rest)
          pure (Statement.header h, rest)
        else do
          let (a, rest) ← readAssignment false (readValue depthLimit) (c :: rest)
          pure (Statement.assignment a, rest)
      let statements ← readStatements fuel (← endLine rest)
      return statement :: statements

/-- A text without the byte order mark that may come before it. -/
def dropByteOrderMark : List Char → List Char
  | '\ufeff' :: cs => cs
  | cs => cs

def parse (text : String) : Except Fault Entries := do
  assemble (← readStatements (text.toList.length + 1) (dropByteOrderMark text.toList))

/-- Whether a text is TOML all of whose numbers fit their types. -/
def wellFormed (text : String) : Bool :=
  match parse text with
  | .ok entries => entriesFit entries
  | .error _ => false

/-- The line of a byte, counted from `0`, and its column in characters. A byte after the end of the
text counts as a further column of the last character's line. -/
def lineColumn (cs : List Char) (byte : Nat) : Nat × Nat :=
  let size := Text.byteSize cs
  let inside := min byte (size - 1)
  let before := cs.take (Text.column cs inside)
  (before.count '\n', (before.reverse.takeWhile (· != '\n')).length + (byte - inside))

def spaces (n : Nat) : String := String.ofList (List.replicate n ' ')

def excerpt (text : String) (span : Span) (message : String) : String :=
  let (line, column) := lineColumn text.toList span.start
  let content := (Text.pieces '\n' text.toList).getD line []
  let number := toString (line + 1)
  let gutter := spaces (number.length + 1) ++ "|"
  let carets := max 1 (min (span.stop - span.start) (Text.byteSize content - column))
  "TOML parse error at line " ++ number ++ ", column " ++ toString (column + 1) ++ "\n" ++
    gutter ++ "\n" ++
    number ++ " | " ++ String.ofList content ++ "\n" ++
    gutter ++ spaces (column + 1) ++ String.ofList (List.replicate carets '^') ++ "\n" ++
    message ++ "\n"

end ContextualQuery.Toml
