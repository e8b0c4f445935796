import ContextualQuery.Query.Positions

namespace ContextualQuery

def SearchClause.withoutUris (c : SearchClause) : SearchClause :=
  { c with fieldUri := "", relationUri := "" }

namespace Node

def clauses : Node → List SearchClause
  | .clause c => [c]
  | .boolean _ left right => left.clauses ++ right.clauses

/-- The modifiers of all clauses and connectives of a tree. -/
def modifiers : Node → List Modifier
  | .clause c => c.modifiers
  | .boolean k left right => k.modifiers ++ left.modifiers ++ right.modifiers

def withoutUris : Node → Node
  | .clause c => .clause c.withoutUris
  | .boolean k left right => .boolean k left.withoutUris right.withoutUris

theorem withoutUris_eq_self {n : Node}
    (h : ∀ c ∈ n.clauses, c.withoutUris = c) : n.withoutUris = n := by
  induction n with
  | clause c => exact congrArg Node.clause (h c (List.mem_singleton_self c))
  | boolean k left right ihl ihr =>
    rw [withoutUris, ihl fun c hc => h c (List.mem_append_left _ hc),
      ihr fun c hc => h c (List.mem_append_right _ hc)]

/-- What is stripped first and joined afterwards can be joined node by node. -/
theorem stripOnto_eq_joinAll (n : Node) (pending : List (Connective × Node)) :
    n.stripOnto pending = joinAll n.withoutPositions pending := by
  induction n generalizing pending with
  | clause c => rfl
  | boolean k left right ihl ihr =>
    rw [withoutPositions, stripOnto, stripOnto, ihl, ihl]
    rfl

/-- A boolean node is stripped by stripping its connective and its operands. -/
theorem withoutPositions_boolean (k : Connective) (left right : Node) :
    (Node.boolean k left right).withoutPositions =
      .boolean k.withoutPositions left.withoutPositions right.withoutPositions := by
  rw [withoutPositions, stripOnto, stripOnto_eq_joinAll]
  rfl

theorem clauses_withoutPositions (n : Node) :
    n.withoutPositions.clauses = n.clauses.map SearchClause.withoutPositions := by
  induction n with
  | clause c => rfl
  | boolean k left right ihl ihr =>
    rw [withoutPositions_boolean, clauses, clauses, ihl, ihr, List.map_append]

theorem modifiers_withoutPositions (n : Node) :
    n.withoutPositions.modifiers = n.modifiers.map Modifier.withoutPositions := by
  induction n with
  | clause c => rfl
  | boolean k left right ihl ihr =>
    simp only [withoutPositions_boolean, modifiers, ihl, ihr, List.map_append,
      Connective.withoutPositions]

end Node
end ContextualQuery
