import ContextualQuery.Query.Basic

namespace ContextualQuery

def Modifier.withoutPositions (m : Modifier) : Modifier := { m with pos := none, range := none }

def SearchClause.withoutPositions (c : SearchClause) : SearchClause :=
  { c with
    modifiers := c.modifiers.map Modifier.withoutPositions
    pos := none
    range := none
    relationPos := none }

def Connective.withoutPositions (k : Connective) : Connective :=
  { k with modifiers := k.modifiers.map Modifier.withoutPositions, pos := none, range := none }

namespace Node

/-- A tree with further operands to its right, innermost first. -/
def joinAll (left : Node) : List (Connective × Node) → Node
  | [] => left
  | (k, right) :: rest => joinAll (.boolean k left right) rest

/-- Strips a node that `pending` joins with stripped right operands, innermost first. -/
def stripOnto : Node → List (Connective × Node) → Node
  | .clause c, pending => joinAll (.clause c.withoutPositions) pending
  | .boolean k left right, pending =>
    stripOnto left ((k.withoutPositions, stripOnto right []) :: pending)

def withoutPositions (n : Node) : Node := n.stripOnto []

end Node
end ContextualQuery
