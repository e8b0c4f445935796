import ContextualQuery.Decimal.Shortest
import ContextualQuery.Settings.Basic
import ContextualQuery.Text.Visible
import ContextualQuery.Toml.Reader

/-!
# Settings files

What one file sets. Tables are checked key by key in ascending order, and the first thing wrong is
reported where it stands: a key that is not known, or a value of the wrong type.
-/
namespace ContextualQuery

structure ParserSection where
  field : Option String := none
  relation : Option String := none
deriving DecidableEq, Inhabited

structure OutputSection where
  format : Option OutputFormat := none
  indent : Option String := none
  newline : Option String := none
  xmlIndent : Option String := none
deriving DecidableEq, Inhabited

/-- What a settings file sets. A file that is a root ends the search for further files. -/
structure SettingsFile where
  root : Option Bool := none
  parser : Option ParserSection := none
  output : Option OutputSection := none
deriving DecidableEq, Inhabited

namespace SettingsFile

open Toml (Extent Entries Value)

inductive Cause where
  | unknownField (name : String) (known : List String)
  | unknownVariant (name : String) (known : List String)
  | wrongType (found due : String)
  | notStringOrTable
  | noElement
  | severalElements
  | notEmptyTable
  | notEmptyArray
  | notTable (found : String)
  | integerTooLarge
  | floatTooLarge
  | malformed (cause : Toml.Cause)
deriving DecidableEq, Inhabited

def ticked (name : String) : String := "`" ++ name ++ "`"

def oneOf : List String → String
  | [a] => ticked a
  | [a, b] => ticked a ++ " or " ++ ticked b
  | names => "one of " ++ String.intercalate ", " (names.map ticked)

def Cause.message : Cause → String
  | .unknownField name known => "unknown field " ++ ticked name ++ ", expected " ++ oneOf known
  | .unknownVariant name known => "unknown variant " ++ ticked name ++ ", expected " ++ oneOf known
  | .wrongType found due => "invalid type: " ++ found ++ ", expected " ++ due
  | .notStringOrTable => "wanted string or table"
  | .noElement => "wanted exactly 1 element, found 0 elements"
  | .severalElements => "wanted exactly 1 element, more than 1 element"
  | .notEmptyTable => "expected empty table"
  | .notEmptyArray => "expected empty array"
  | .notTable found => "expected table, found " ++ found
  | .integerTooLarge => "integer number overflowed"
  | .floatTooLarge => "floating-point number overflowed"
  | .malformed cause => cause.message

structure Fault where
  cause : Cause
  extent : Extent
deriving DecidableEq, Inhabited

def floatText : Toml.Floating → String
  | .finite b => b.text Decimal.plain
  | .infinite negative => if negative then "-inf" else "inf"
  | .nan => "NaN"
  | .tooLarge => "inf"

/-- An integer in words: plain up to 64 bits with or without a sign, with the name of its width up
to 128 bits. -/
def integerText? (n : Int) : Option String :=
  let below (bits : Nat) : Bool := n < Int.ofNat (Nat.pow 2 bits)
  let signed (bits : Nat) : Bool := -Int.ofNat (Nat.pow 2 (bits - 1)) ≤ n && below (bits - 1)
  let plain := "integer " ++ ticked (toString n)
  if signed 64 || (0 ≤ n && below 64) then some plain
  else if signed 128 then some (plain ++ " as i128")
  else if 0 ≤ n && below 128 then some (plain ++ " as u128")
  else none

def found : Value → Except Cause String
  | .string s => .ok ("string " ++ Text.visible s)
  | .integer n =>
    match n.bind integerText? with
    | some text => .ok text
    | none => .error .integerTooLarge
  | .float .tooLarge => .error .floatTooLarge
  | .float f => .ok ("floating point " ++ ticked (floatText f))
  | .boolean b => .ok ("boolean " ++ ticked (if b then "true" else "false"))
  | .datetime => .ok "map"
  | .array _ _ => .ok "sequence"
  | .table _ _ => .ok "map"

def typeName : Value → String
  | .string _ => "string"
  | .integer _ => "integer"
  | .float _ => "float"
  | .boolean _ => "boolean"
  | .datetime => "datetime"
  | .array _ _ => "array"
  | .table _ _ => "table"

/-- The fault of a value that has another type than is due. A number is read only here, so that one
that is too large shows first. -/
def wrongType (due : String) (v : Extent × Value) : Fault :=
  match found v.2 with
  | .ok text => ⟨.wrongType text due, v.1⟩
  | .error cause => ⟨cause, v.1⟩

def boolean (v : Extent × Value) : Except Fault Bool :=
  match v.2 with
  | .boolean b => .ok b
  | _ => .error (wrongType "a boolean" v)

def string (v : Extent × Value) : Except Fault String :=
  match v.2 with
  | .string s => .ok s
  | _ => .error (wrongType "a string" v)

def formatNamed (name : String) (extent : Extent) : Except Fault OutputFormat :=
  match OutputFormat.ofName? name with
  | some format => .ok format
  | none => .error ⟨.unknownVariant name (OutputFormat.all.map OutputFormat.name), extent⟩

/-- A value that has to be an empty table or array. -/
def emptyValue (v : Extent × Value) : Except Fault Unit :=
  match v.2 with
  | .table _ [] | .array _ [] => .ok ()
  | .table _ _ => .error ⟨.notEmptyTable, v.1⟩
  | .array _ _ => .error ⟨.notEmptyArray, v.1⟩
  | other => .error ⟨.notTable (typeName other), v.1⟩

/-- A format: its name, or a table with its name as the only key and nothing under it. -/
def format (v : Extent × Value) : Except Fault OutputFormat :=
  match v.2 with
  | .string s => formatNamed s v.1
  | .table _ [] => .error ⟨.noElement, v.1⟩
  | .table _ [(key, inner)] => do
    let format ← formatNamed key.name key.extent
    emptyValue inner
    return format
  | .table _ _ => .error ⟨.severalElements, v.1⟩
  | _ => .error ⟨.notStringOrTable, v.1⟩

/-- How the value of one key changes what was read so far. -/
abbrev Field (α : Type) := String × (α → Extent × Value → Except Fault α)

def sorted (entries : Entries) : Entries :=
  entries.mergeSort fun a b => decide (a.1.name ≤ b.1.name)

/-- Reads a table key by key. -/
def readTable {α : Type} (fields : List (Field α)) (start : α) (entries : Entries) :
    Except Fault α :=
  (sorted entries).foldlM (fun soFar (key, value) =>
    match fields.lookup key.name with
    | some read => read soFar value
    | none => .error ⟨.unknownField key.name (fields.map (·.1)), key.extent⟩) start

/-- The key under which a date shows its text where a table is due. -/
def datetimeKey : String := "$__toml_private_datetime"

/-- Reads a section: a table, or an array of its values in the order of its fields. -/
def readSection {α : Type} (title : String) (fields : List (Field α)) (start : α)
    (v : Extent × Value) : Except Fault α :=
  match v.2 with
  | .table _ entries => readTable fields start entries
  | .array _ items =>
    (fields.zip items).foldlM (fun soFar (field, item) => field.2 soFar item) start
  | .datetime => .error ⟨.unknownField datetimeKey (fields.map (·.1)), v.1⟩
  | _ => .error (wrongType ("struct " ++ title) v)

def parserFields : List (Field ParserSection) := [
  ("server_choice_field", fun s v => do return { s with field := some (← string v) }),
  ("server_choice_relation", fun s v => do return { s with relation := some (← string v) })]

def outputFields : List (Field OutputSection) := [
  ("format", fun s v => do return { s with format := some (← format v) }),
  ("indent", fun s v => do return { s with indent := some (← string v) }),
  ("newline", fun s v => do return { s with newline := some (← string v) }),
  ("xml_indent_char", fun s v => do return { s with xmlIndent := some (← string v) })]

def fileFields : List (Field SettingsFile) := [
  ("root", fun s v => do return { s with root := some (← boolean v) }),
  ("parser", fun s v => do
    return { s with parser := some (← readSection "RawParserSettings" parserFields {} v) }),
  ("output", fun s v => do
    return { s with output := some (← readSection "RawOutputSettings" outputFields {} v) })]

def parse (text : String) : Except Fault SettingsFile :=
  match Toml.parse text with
  | .error f => .error ⟨.malformed f.cause, f.extent⟩
  | .ok entries => readTable fileFields {} entries

def Fault.display (f : Fault) (text : String) : String :=
  Toml.excerpt text (f.extent.toSpan (Text.byteSize text.toList)) f.cause.message

end SettingsFile
end ContextualQuery
