import ContextualQuery.Text.Basic

/-!
# Faults in JSON text

What is wrong with a text that is not JSON, and where. A reader knows only what is left of the
text, so a fault first says how many bytes were left when it was found; the line and the column
follow once the whole text is at hand.
-/
namespace ContextualQuery.Json

inductive Fault where
  | endInValue
  | endInString
  | endInList
  | endInObject
  | expectedValue
  | expectedIdent
  | invalidNumber
  | numberOutOfRange
  | controlCharacter
  | invalidEscape
  | loneSurrogate
  | endOfHexEscape
  | trailingComma
  | expectedListComma
  | expectedObjectComma
  | keyNotString
  | expectedColon
  | trailingCharacters
  | tooDeep
deriving DecidableEq, Inhabited

def Fault.message : Fault → String
  | .endInValue => "EOF while parsing a value"
  | .endInString => "EOF while parsing a string"
  | .endInList => "EOF while parsing a list"
  | .endInObject => "EOF while parsing an object"
  | .expectedValue => "expected value"
  | .expectedIdent => "expected ident"
  | .invalidNumber => "invalid number"
  | .numberOutOfRange => "number out of range"
  | .controlCharacter => "control character (\\u0000-\\u001F) found while parsing a string"
  | .invalidEscape => "invalid escape"
  | .loneSurrogate => "lone leading surrogate in hex escape"
  | .endOfHexEscape => "unexpected end of hex escape"
  | .trailingComma => "trailing comma"
  | .expectedListComma => "expected `,` or `]`"
  | .expectedObjectComma => "expected `,` or `\x7d`"
  | .keyNotString => "key must be a string"
  | .expectedColon => "expected `:`"
  | .trailingCharacters => "trailing characters"
  | .tooDeep => "recursion limit exceeded"

/-- A fault and the number of bytes after the place where it was found. -/
structure Stop where
  fault : Fault
  unread : Nat
deriving DecidableEq, Inhabited

/-- The fault found just before `cs`. -/
def Stop.before (fault : Fault) (cs : List Char) : Stop := ⟨fault, Text.byteSize cs⟩

/-- The fault found one byte into `cs`, or at its end if it is empty. -/
def Stop.on (fault : Fault) (cs : List Char) : Stop := ⟨fault, Text.byteSize cs - 1⟩

/-- A place in a text: its line from `1` and its column, the bytes since the line began. -/
structure Place where
  line : Nat
  column : Nat
deriving DecidableEq, Inhabited

/-- Moves a place over the characters that start before byte `n`; a character that byte `n` cuts
counts only the bytes before it. -/
def Place.advance (p : Place) : List Char → Nat → Place
  | [], _ => p
  | c :: cs, n =>
    if n = 0 then p
    else if c = '\n' then advance ⟨p.line + 1, 0⟩ cs (n - 1)
    else advance ⟨p.line, p.column + min c.utf8Size n⟩ cs (n - c.utf8Size)

def placeOf (cs : List Char) (n : Nat) : Place := Place.advance ⟨1, 0⟩ cs n

/-- The lines of a text, each with the line feed that ends it. -/
def lines : List Char → List (List Char)
  | [] => []
  | c :: cs =>
    if c = '\n' then [c] :: lines cs
    else match lines cs with
      | [] => [[c]]
      | line :: rest => (c :: line) :: rest

/-- The byte of a text that a place points at: the one before its column, or the first of its
line. -/
def byteAt (cs : List Char) (p : Place) : Nat :=
  let start := Text.byteSize ((lines cs).take (p.line - 1)).flatten
  min (start + (p.column - 1)) (Text.byteSize cs)

structure SyntaxFault where
  fault : Fault
  place : Place
deriving DecidableEq, Inhabited

def Stop.locate (stop : Stop) (cs : List Char) : SyntaxFault :=
  ⟨stop.fault, placeOf cs (Text.byteSize cs - stop.unread)⟩

def SyntaxFault.message (f : SyntaxFault) : String :=
  f.fault.message ++ " at line " ++ toString f.place.line ++ " column " ++
    toString f.place.column

end ContextualQuery.Json
