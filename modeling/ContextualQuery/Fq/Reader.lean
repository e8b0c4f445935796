import ContextualQuery.Fq.Writer
import ContextualQuery.Json.Reader
import ContextualQuery.Query.Error
import ContextualQuery.Text.Basic

/-!
# Reading FQ

An object with all of `op`, `s1` and `s2` is a boolean node; any other with a `term` is a clause.
Keys that neither uses and that hold no position are modifiers. A position that is no number is as
good as none.
-/
namespace ContextualQuery.Fq

inductive Fault where
  | notObject (value : Json)
  | unknownOperator (value : Json)
  | notScalar (what : String) (value : Json)
  | notString (what : String) (value : Json)
  | noShape

def Fault.message : Fault → String
  | .notObject v => "expected an object, got " ++ v.compact
  | .unknownOperator v => "unknown operator " ++ v.compact
  | .notScalar what v => what ++ " must be a scalar, got " ++ v.compact
  | .notString what v => what ++ " must be a string, got " ++ v.compact
  | .noShape => "object has neither op/s1/s2 nor term"

def Fault.error (f : Fault) : QueryError :=
  { kind := .malformedFq, position := 0
    message := ErrorKind.malformedFq.message ++ ": " ++ f.message }

abbrev Members := List (String × Json)

def clauseKeys : List String := ["term", "field", "relation"]

def booleanKeys : List String := ["op", "s1", "s2"]

/-- A string, number or truth value as text. -/
def scalar (what : String) (value : Json) : Except Fault String :=
  match value with
  | .string s => .ok s
  | .number n => .ok n.text
  | .bool b => .ok (if b then "true" else "false")
  | .null | .array _ | .object _ => .error (.notScalar what value)

def string (what : String) (value : Json) : Except Fault String :=
  match value.string? with
  | some s => .ok s
  | none => .error (.notString what value)

/-- A member read by `read`, or `absent` if the object does not have it. -/
def memberOr {α : Type} (members : Members) (key : String) (absent : α)
    (read : Json → Except Fault α) : Except Fault α :=
  match Json.get? members key with
  | none => .ok absent
  | some v => read v

/-- The position under a key, if it is a number. -/
def position? (members : Members) (key : String) : Option Nat :=
  (Json.get? members key).bind Json.word?

/-- The range, if it is a pair of numbers. -/
def range? (members : Members) : Option Span :=
  match Json.get? members "@range" with
  | some (.array [start, stop]) => do return ⟨← start.word?, ← stop.word?⟩
  | _ => none

def modifier (name : String) (value : Json) : Except Fault Modifier :=
  match value with
  | .bool true => .ok (.ofFlag name)
  | .object members => do
    let relation ← memberOr members "relation" "=" (string "modifier relation")
    let text ← memberOr members "value" "" (scalar "modifier value")
    return .ofValue name (Relation.toSymbol relation) text
  | value => do return .ofValue name "=" (← scalar name value)

/-- Whether a key names a modifier, given the keys used otherwise. -/
def isModifierKey (used : List String) (key : String) : Bool :=
  !used.contains key && !isPositionKey key

def modifiers (used : List String) (members : Members) : Except Fault (List Modifier) :=
  (members.filter (isModifierKey used ·.1)).mapM fun (key, value) => modifier key value

def operator (value : Json) : Except Fault BooleanOp :=
  match value.string?.bind BooleanOp.ofKeyword? with
  | some op => .ok op
  | none => .error (.unknownOperator value)

def connective (op : BooleanOp) (members : Members) : Except Fault Connective := do
  return { op, modifiers := ← modifiers booleanKeys members
           pos := position? members "@pos", range := range? members }

def clause (choice : ServerChoice) (members : Members) (term : Json) :
    Except Fault SearchClause := do
  let plain := SearchClause.ofTerm (← scalar "term" term) choice
  let field ← memberOr members "field" plain.field (string "field")
  let relation ← memberOr members "relation" plain.relation fun v =>
    (string "relation" v).map Relation.toSymbol
  let ms ← modifiers clauseKeys members
  return { plain with
    field, relation, modifiers := ms
    pos := position? members "@pos"
    range := range? members
    relationPos := position? members "relation@pos" }

theorem sizeOf_get?_lt {members : Members} {key : String} {value : Json}
    (h : Json.get? members key = some value) : sizeOf value < sizeOf members := by
  induction members with
  | nil => simp [Json.get?] at h
  | cons m rest ih =>
    obtain ⟨k, v⟩ := m
    simp only [Json.get?, List.lookup_cons] at h
    split at h
    · simp only [Option.some.injEq] at h
      subst h
      simp only [List.cons.sizeOf_spec, Prod.mk.sizeOf_spec]
      omega
    · have := ih h
      simp only [List.cons.sizeOf_spec]
      omega

def node (choice : ServerChoice) (value : Json) : Except Fault Node :=
  match value with
  | .object members =>
    match Json.get? members "op", _hl : Json.get? members "s1", _hr : Json.get? members "s2" with
    | some op, some s1, some s2 => do
      let op ← operator op
      let left ← node choice s1
      let right ← node choice s2
      return .boolean (← connective op members) left right
    | _, _, _ =>
      match Json.get? members "term" with
      | some term => return .clause (← clause choice members term)
      | none => .error .noShape
  | value => .error (.notObject value)
termination_by sizeOf value
decreasing_by
  · have := sizeOf_get?_lt _hl
    simp only [Json.object.sizeOf_spec]
    omega
  · have := sizeOf_get?_lt _hr
    simp only [Json.object.sizeOf_spec]
    omega

/-- The greatest number of arrays and objects that may nest in an FQ text, and one. -/
def depthLimit : Nat := 128

def jsonError (text : String) (f : Json.SyntaxFault) : QueryError :=
  { kind := .invalidFqJson, position := Json.byteAt text.toList f.place
    message := ErrorKind.invalidFqJson.message ++ ": " ++ f.message }

end ContextualQuery.Fq

namespace ContextualQuery

def Node.ofJson (value : Json) (choice : ServerChoice) : Except QueryError Node :=
  match value with
  | .null => .error { kind := .emptyInput, position := 0 }
  | value => (Fq.node choice value).mapError Fq.Fault.error

def Node.ofFq (text : String) (choice : ServerChoice) : Except QueryError Node :=
  if Text.isBlankText text then .error { kind := .emptyInput, position := 0 }
  else match Json.parse Fq.depthLimit text with
    | .error fault => .error (Fq.jsonError text fault)
    | .ok value => Node.ofJson value choice

end ContextualQuery
