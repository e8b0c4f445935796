import ContextualQuery.Text.Lowercase

/-!
# Query trees

A query is a binary tree: search clauses at its leaves, boolean operators inside. Nodes that were
read from a text remember where they stood in it.
-/
namespace ContextualQuery

/-- The bytes from `start` up to `stop`. -/
structure Span where
  start : Nat
  stop : Nat
deriving DecidableEq, Inhabited

/-- The index and relation that the server chooses for a clause that names none. -/
structure ServerChoice where
  field : String := "cql.serverChoice"
  relation : String := "scr"
deriving DecidableEq, Inhabited

inductive BooleanOp where
  | and
  | or
  | not
  | prox
deriving DecidableEq, Inhabited

namespace BooleanOp

/-- All operators, in the order they are tried. -/
def all : List BooleanOp := [.and, .or, .not, .prox]

def keyword : BooleanOp → String
  | .and => "and"
  | .or => "or"
  | .not => "not"
  | .prox => "prox"

def capitals : BooleanOp → String
  | .and => "AND"
  | .or => "OR"
  | .not => "NOT"
  | .prox => "PROX"

/-- The operator that a word spells, ASCII case apart. -/
def ofKeyword? (word : String) : Option BooleanOp :=
  all.find? fun op => Text.asciiLowercase word == op.keyword

end BooleanOp

/-- A qualifier of a relation or an operator. Without a relation it is a flag. -/
structure Modifier where
  name : String
  relation : String := ""
  value : String := ""
  /-- The byte where the name starts. -/
  pos : Option Nat := none
  /-- From the slash to the end of the name or value. -/
  range : Option Span := none
deriving DecidableEq, Inhabited

namespace Modifier

def ofValue (name relation value : String) : Modifier :=
  { name := Text.lowercase name, relation, value }

def ofFlag (name : String) : Modifier := ofValue name "" ""

def isFlag (m : Modifier) : Bool := m.relation.isEmpty

end Modifier

structure SearchClause where
  field : String
  fieldUri : String := ""
  relation : String
  relationUri : String := ""
  modifiers : List Modifier := []
  term : String
  /-- The server's choice that the clause was read against. -/
  choice : ServerChoice
  /-- The byte where the clause starts. -/
  pos : Option Nat := none
  range : Option Span := none
  /-- The byte where the relation starts, if one was written. -/
  relationPos : Option Nat := none
deriving DecidableEq, Inhabited

namespace SearchClause

def ofTerm (term : String) (choice : ServerChoice) : SearchClause :=
  { field := choice.field, relation := choice.relation, term, choice }

def withIndex (c : SearchClause) (field relation : String) : SearchClause :=
  { c with field, relation }

def withModifier (c : SearchClause) (m : Modifier) : SearchClause :=
  { c with modifiers := c.modifiers ++ [m] }

def hasExplicitField (c : SearchClause) : Bool := c.field != c.choice.field

def hasExplicitRelation (c : SearchClause) : Bool := c.relation != c.choice.relation

end SearchClause

structure Connective where
  op : BooleanOp
  modifiers : List Modifier := []
  /-- The byte where the operator starts. -/
  pos : Option Nat := none
  /-- From the operator to the end of its modifiers. -/
  range : Option Span := none
deriving DecidableEq, Inhabited

def Connective.withModifier (k : Connective) (m : Modifier) : Connective :=
  { k with modifiers := k.modifiers ++ [m] }

inductive Node where
  | clause (clause : SearchClause)
  | boolean (connective : Connective) (left right : Node)
deriving DecidableEq, Inhabited

namespace Node

def isBoolean : Node → Bool
  | .clause _ => false
  | .boolean .. => true

/-- Where the node was read: the start of a clause, or of an operator. -/
def pos : Node → Option Nat
  | .clause c => c.pos
  | .boolean k _ _ => k.pos

def withModifier (m : Modifier) : Node → Node
  | .clause c => .clause (c.withModifier m)
  | .boolean k left right => .boolean (k.withModifier m) left right

end Node
end ContextualQuery
