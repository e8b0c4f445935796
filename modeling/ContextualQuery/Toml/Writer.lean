import ContextualQuery.Text.Hex

/-!
# Writing TOML strings

A string takes the first of its forms that shows it as it is: between double quotes, between single
quotes, then on several lines between three of either. If none does, it is written with escapes.
-/
namespace ContextualQuery.Toml

/-- Characters that only an escape can write: controls other than the tab and the line feed. -/
def needsEscape (c : Char) : Bool :=
  (c.toNat < 0x20 && c != '\t' && c != '\n') || c == '\x7f'

/-- Whether a mark occurs three times in a row. -/
def hasTriple (mark : Char) : List Char → Bool
  | a :: b :: c :: cs => (a == mark && b == mark && c == mark) || hasTriple mark (b :: c :: cs)
  | _ => false

inductive Form where
  | basic
  | literal
  | basicLines
  | literalLines
deriving DecidableEq, Inhabited

def formOf (cs : List Char) : Form :=
  let plain := !cs.any needsEscape
  if plain && !cs.contains '\\' && !cs.contains '"' && !cs.contains '\n' then .basic
  else if plain && !cs.contains '\'' && !cs.contains '\n' then .literal
  else if plain && !cs.contains '\\' && !hasTriple '"' cs then .basicLines
  else if plain && !hasTriple '\'' cs then .literalLines
  else if cs.contains '\n' then .basicLines
  else .basic

/-- One character between double quotes, apart from the quotes and the line feed. -/
def escapeChar (c : Char) : List Char :=
  match c with
  | '\x08' => ['\\', 'b']
  | '\t' => ['\\', 't']
  | '\x0c' => ['\\', 'f']
  | '\r' => ['\\', 'r']
  | '\\' => ['\\', '\\']
  | c => if needsEscape c then '\\' :: 'u' :: Text.hexCode true c.toNat else [c]

def escapeBasic : List Char → List Char
  | [] => []
  | c :: cs =>
    (if c = '"' then ['\\', '"'] else if c = '\n' then ['\\', 'n'] else escapeChar c) ++
      escapeBasic cs

/-- The characters of a string between three double quotes, after `run` quotes in a row. Every
third quote of a row is escaped. -/
def escapeLines (run : Nat) : List Char → List Char
  | [] => []
  | c :: cs =>
    if c = '"' then
      if run = 2 then '\\' :: '"' :: escapeLines 0 cs else '"' :: escapeLines (run + 1) cs
    else if c = '\n' then '\n' :: escapeLines 0 cs
    else escapeChar c ++ escapeLines 0 cs

/-- The line feed after opening marks of a string on several lines. -/
def firstLine (cs : List Char) : List Char := if cs.contains '\n' then ['\n'] else []

def Form.write (form : Form) (cs : List Char) : List Char :=
  match form with
  | .basic => ['"'] ++ escapeBasic cs ++ ['"']
  | .literal => ['\''] ++ cs ++ ['\'']
  | .basicLines => ['"', '"', '"'] ++ firstLine cs ++ escapeLines 0 cs ++ ['"', '"', '"']
  | .literalLines => ['\'', '\'', '\''] ++ firstLine cs ++ cs ++ ['\'', '\'', '\'']

def stringText (s : String) : String := String.ofList ((formOf s.toList).write s.toList)

def assignmentText (key value : String) : String := key ++ " = " ++ stringText value ++ "\n"

end ContextualQuery.Toml
