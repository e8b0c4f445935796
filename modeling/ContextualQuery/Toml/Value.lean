import ContextualQuery.Decimal.Binary64
import ContextualQuery.Query.Basic
import ContextualQuery.Text.Basic

/-!
# TOML values

The values of a TOML document with the places where they were written. A reader knows only what is
left of the text, so a place is kept as the bytes left at its start and at its end.
-/
namespace ContextualQuery.Toml

/-- A stretch of a text, by the number of bytes left at its two ends. -/
structure Extent where
  leftAtStart : Nat
  leftAtStop : Nat
deriving DecidableEq, Inhabited

def Extent.between (cs rest : List Char) : Extent := ⟨Text.byteSize cs, Text.byteSize rest⟩

def Extent.toSpan (e : Extent) (size : Nat) : Span :=
  ⟨size - e.leftAtStart, size - e.leftAtStop⟩

structure Key where
  name : String
  extent : Extent
deriving DecidableEq, Inhabited

/-- How a table came about, which decides what may still be added to it. -/
inductive TableKind where
  /-- By a header of its own, or as the whole document. -/
  | declared
  /-- By the header of a table inside it. -/
  | implied
  /-- By a dotted key. -/
  | dotted
  | inline
deriving DecidableEq, Inhabited

inductive Floating where
  | finite (b : Binary64)
  | infinite (negative : Bool)
  | nan
  /-- A number greater than any of double precision. -/
  | tooLarge
deriving DecidableEq, Inhabited

inductive Value where
  | string (s : String)
  /-- A numeral, and the integer that it spells, if it does. -/
  | integer (n : Option Int)
  | float (f : Floating)
  | boolean (b : Bool)
  | datetime
  | array (ofTables : Bool) (items : List (Extent × Value))
  | table (kind : TableKind) (entries : List (Key × Extent × Value))
deriving Inhabited

/-- The entries of a table, in the order they were written. -/
abbrev Entries := List (Key × Extent × Value)

mutual

/-- Whether every number of a value fits its type: 64 bits with a sign, or double precision. -/
def Value.fits : Value → Bool
  | .integer n => n.any fun n => -9223372036854775808 ≤ n && n ≤ 9223372036854775807
  | .float f => f != .tooLarge
  | .array _ items => itemsFit items
  | .table _ entries => entriesFit entries
  | .string _ | .boolean _ | .datetime => true

def itemsFit : List (Extent × Value) → Bool
  | [] => true
  | (_, v) :: rest => v.fits && itemsFit rest

def entriesFit : List (Key × Extent × Value) → Bool
  | [] => true
  | (_, _, v) :: rest => v.fits && entriesFit rest

end

inductive Cause where
  | expected (what : String)
  | controlCharacter
  | invalidEscape
  | invalidScalar
  | duplicateKey (name : String)
  | tooDeep
deriving DecidableEq, Inhabited

def Cause.message : Cause → String
  | .expected what => "expected " ++ what
  | .controlCharacter => "invalid control character"
  | .invalidEscape => "invalid escape sequence"
  | .invalidScalar => "invalid value"
  | .duplicateKey name => "duplicate key `" ++ name ++ "`"
  | .tooDeep => "recursion limit"

structure Fault where
  cause : Cause
  extent : Extent
deriving DecidableEq, Inhabited

def Fault.here (cause : Cause) (cs : List Char) : Fault := ⟨cause, .between cs cs⟩

end ContextualQuery.Toml
