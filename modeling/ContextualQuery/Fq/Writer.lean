import ContextualQuery.Json.Value
import ContextualQuery.Query.Basic

/-!
# Writing FQ

FQ is the compact JSON form of a query tree. A clause is an object with a `term`, and with a `field`
and a `relation` where they are not the server's choice; a boolean node is an object with `op`, `s1`
and `s2`. Each modifier is a member of its own, and positions travel in `@pos`, `@range` and
`relation@pos`. The left operands are followed in a loop, so that a long chain of operators takes
no depth.

The six comparisons have two spellings: a symbol in a query, a word in an FQ value. All other
relations have one spelling, which both conversions leave alone.
-/
namespace ContextualQuery

namespace Relation

def spellings : List (String × String) :=
  [("<", "lt"), (">", "gt"), ("=", "eq"), ("<>", "ne"), (">=", "ge"), ("<=", "le")]

def wordOf? (symbol : String) : Option String :=
  (spellings.find? (·.1 == symbol)).map (·.2)

/-- The symbol for a comparison word. Only the lowercase words count. -/
def symbolOf? (word : String) : Option String :=
  (spellings.find? (·.2 == word)).map (·.1)

def toWord (relation : String) : String := (wordOf? relation).getD relation

def toSymbol (relation : String) : String := (symbolOf? relation).getD relation

end Relation

namespace Fq

/-- Keys that a clause never uses for a modifier: its own and those of a boolean node, so that it
is never read as one. -/
def clauseReserved : List String := ["term", "field", "relation", "op", "s1", "s2"]

def booleanReserved : List String := ["op", "s1", "s2"]

def endsWith (text ending : String) : Bool := ending.toList.reverse.isPrefixOf text.toList.reverse

def isPositionKey (key : String) : Bool := endsWith key "@pos" || endsWith key "@range"

/-- How a tree is laid out: what indents a line once, and what ends one. -/
structure Layout where
  indent : String := "  "
  newline : String := "\n"
deriving DecidableEq, Inhabited

def Layout.line (layout : Layout) (level : Nat) : String :=
  layout.newline ++ String.join (List.replicate level layout.indent)

def memberText (key value : String) : String := ", " ++ Json.stringText key ++ ": " ++ value

/-- The value of a modifier: `true` for a flag, a string for equality, else an object with the word
for the relation. -/
def modifierValue (m : Modifier) : String :=
  if m.isFlag then "true"
  else if m.relation = "=" then Json.stringText m.value
  else "\x7b\"relation\": " ++ Json.stringText (Relation.toWord m.relation) ++
    memberText "value" (Json.stringText m.value) ++ "\x7d"

/-- Whether a modifier is written, given the keys reserved for other uses. -/
def isWritten (reserved : List String) (m : Modifier) : Bool :=
  !reserved.contains m.name && !isPositionKey m.name

def modifierMembers (reserved : List String) (ms : List Modifier) : String :=
  String.join ((ms.filter (isWritten reserved)).map fun m => memberText m.name (modifierValue m))

def posMember (key : String) : Option Nat → String
  | none => ""
  | some n => memberText key (toString n)

def rangeMember : Option Span → String
  | none => ""
  | some r => memberText "@range" ("[" ++ toString r.start ++ ", " ++ toString r.stop ++ "]")

def clauseText (c : SearchClause) : String :=
  "\x7b\"term\": " ++ Json.stringText c.term ++
    (if c.hasExplicitField then memberText "field" (Json.stringText c.field) else "") ++
    (if c.hasExplicitRelation then
      memberText "relation" (Json.stringText (Relation.toWord c.relation)) else "") ++
    modifierMembers clauseReserved c.modifiers ++
    posMember "@pos" c.pos ++ rangeMember c.range ++ posMember "relation@pos" c.relationPos ++
    "\x7d"

/-- The object for a boolean node up to its left operand, which stands at `level`. -/
def openBoolean (layout : Layout) (level : Nat) (k : Connective) : String :=
  "\x7b\"op\": " ++ Json.stringText k.op.keyword ++ modifierMembers booleanReserved k.modifiers ++
    posMember "@pos" k.pos ++ rangeMember k.range ++ "," ++ layout.line level ++ "\"s1\": "

/-- The object for a boolean node after its left operand; both operands stand at `level`. -/
def closeBoolean (layout : Layout) (level : Nat) (right : String) : String :=
  "," ++ layout.line level ++ "\"s2\": " ++ right ++ "\x7d"

/-- Writes a node at a level after the text `opened`, before the texts `pending`. -/
def textOnto (layout : Layout) : Node → Nat → String → List String → String
  | .clause c, _, opened, pending => opened ++ clauseText c ++ String.join pending
  | .boolean k left right, level, opened, pending =>
    textOnto layout left (level + 1) (opened ++ openBoolean layout (level + 1) k)
      (closeBoolean layout (level + 1) (textOnto layout right (level + 1) "" []) :: pending)

end Fq
end ContextualQuery

namespace ContextualQuery

def Node.toFq (n : Node) (layout : Fq.Layout) : String := Fq.textOnto layout n 0 "" []

end ContextualQuery
