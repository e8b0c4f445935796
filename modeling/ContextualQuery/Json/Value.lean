import ContextualQuery.Decimal.Shortest
import ContextualQuery.Text.Hex

/-!
# JSON values and their text

Objects keep their members in order, each key once. Integers that fit 64 bits are exact; all other
numbers are binary floating-point numbers. A value is written compactly without blanks, or indented
with one member or item a line.
-/
namespace ContextualQuery

inductive JsonNumber where
  | natural (n : Nat)
  /-- The integer `-n`. -/
  | negative (n : Nat)
  | binary (b : Binary64)
deriving DecidableEq, Inhabited

inductive Json where
  | null
  | bool (b : Bool)
  | number (n : JsonNumber)
  | string (s : String)
  | array (items : List Json)
  | object (members : List (String × Json))
deriving Inhabited

def maxWord : Nat := Nat.pow 2 64 - 1

namespace Json

def ofNat (n : Nat) : Json := .number (.natural n)

/-- The members with `value` under `key`, in its first place if the key occurs already and at
the end if not. -/
def assign (key : String) (value : Json) : List (String × Json) → List (String × Json)
  | [] => [(key, value)]
  | (k, v) :: rest => if k == key then (k, value) :: rest else (k, v) :: assign key value rest

/-- Members read one after another: of a repeated key, the first place and the last value. -/
def assignAll (members : List (String × Json)) : List (String × Json) :=
  members.foldl (fun bound (k, v) => assign k v bound) []

def get? (members : List (String × Json)) (key : String) : Option Json := members.lookup key

def string? : Json → Option String
  | .string s => some s
  | _ => none

def word? : Json → Option Nat
  | .number (.natural n) => some n
  | _ => none

end Json

/-- Floating-point numbers are written plainly for exponents from `-5` to `15`. -/
def JsonNumber.text : JsonNumber → String
  | .natural n => toString n
  | .negative n => "-" ++ toString n
  | .binary b => b.text (Decimal.between (-5) 16)

namespace Json

def escapeChar (c : Char) : List Char :=
  match c with
  | '"' => ['\\', '"']
  | '\\' => ['\\', '\\']
  | '\x08' => ['\\', 'b']
  | '\x0c' => ['\\', 'f']
  | '\n' => ['\\', 'n']
  | '\r' => ['\\', 'r']
  | '\t' => ['\\', 't']
  | c => if c.toNat < 0x20 then '\\' :: 'u' :: Text.hexCode false c.toNat else [c]

def stringText (s : String) : String :=
  String.ofList ('"' :: s.toList.flatMap escapeChar ++ ['"'])

mutual

def compact : Json → String
  | .null => "null"
  | .bool b => if b then "true" else "false"
  | .number n => n.text
  | .string s => stringText s
  | .array items => "[" ++ String.intercalate "," (compactItems items) ++ "]"
  | .object members => "\x7b" ++ String.intercalate "," (compactMembers members) ++ "\x7d"

def compactItems : List Json → List String
  | [] => []
  | v :: rest => v.compact :: compactItems rest

def compactMembers : List (String × Json) → List String
  | [] => []
  | (k, v) :: rest => (stringText k ++ ":" ++ v.compact) :: compactMembers rest

end

/-- The start of a line inside `level` brackets. -/
def newline (level : Nat) : String := "\n" ++ String.ofList (List.replicate (2 * level) ' ')

/-- Entries a line each between brackets at `level`, or the bare brackets. -/
def block (level : Nat) (opening closing : String) (entries : List String) : String :=
  if entries.isEmpty then opening ++ closing
  else opening ++ newline (level + 1) ++
    String.intercalate ("," ++ newline (level + 1)) entries ++ newline level ++ closing

mutual

/-- The indented text of a value inside `level` brackets. -/
def indented (level : Nat) : Json → String
  | .null => "null"
  | .bool b => if b then "true" else "false"
  | .number n => n.text
  | .string s => stringText s
  | .array items => block level "[" "]" (indentedItems (level + 1) items)
  | .object members => block level "\x7b" "\x7d" (indentedMembers (level + 1) members)

def indentedItems (level : Nat) : List Json → List String
  | [] => []
  | v :: rest => v.indented level :: indentedItems level rest

def indentedMembers (level : Nat) : List (String × Json) → List String
  | [] => []
  | (k, v) :: rest => (stringText k ++ ": " ++ v.indented level) :: indentedMembers level rest

end

end Json

end ContextualQuery
