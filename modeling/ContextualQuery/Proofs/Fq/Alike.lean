import ContextualQuery.Proofs.Fq.Shape

/-!
# What the order of keys and positions leave alone

An FQ object says what is searched for by the values under its keys and by the order of those that
are modifiers. Here two JSON values are compared that differ in nothing else.

* `Fq.Rearranged`: objects with the same members, positions and order apart;
* `Fq.Alike`: values whose nodes are, at any depth, such objects;
* `Fq.Rearranged.get?`, `Fq.Rearranged.modifiers`: what a node reads of such objects is the same;
* `Fq.Alike.placelessNode`: so is the tree, positions apart;
* `ofJson_alike`: both values are read alike, or both are refused for the same reason.
-/
namespace ContextualQuery

namespace Fq

/-- Two objects, each key standing once, whose members are the same in some order, but for those
that hold positions. Those that stand for modifiers, whose keys are not `used` otherwise, come in
the same order. -/
structure Rearranged (used : List String) (members members' : Members) : Prop where
  distinct : (members.map Prod.fst).Nodup
  distinct' : (members'.map Prod.fst).Nodup
  same : (members.filter (!isPositionKey ·.1)).Perm (members'.filter (!isPositionKey ·.1))
  order : (members.filter (isModifierKey used ·.1)).map Prod.fst =
    (members'.filter (isModifierKey used ·.1)).map Prod.fst

/-- The members of a boolean node that are not its operands. -/
def besideOperands (members : Members) : Members :=
  members.filter fun m => m.1 != "s1" && m.1 != "s2"

/-- Values that differ in their node objects only, and there only in the members that hold
positions and in the order of the others. An object with all of `op`, `s1` and `s2` has further
node objects under `s1` and `s2`; any other object has none. -/
inductive Alike : Json → Json → Prop where
  | same (value : Json) : Alike value value
  | clause {members members' : Members}
      (incomplete : ∃ key ∈ ["op", "s1", "s2"], Json.get? members key = none)
      (rearranged : Rearranged ["term", "field", "relation"] members members') :
      Alike (.object members) (.object members')
  | boolean {members members' : Members} {op s1 s1' s2 s2' : Json}
      (operator : Json.get? members "op" = some op)
      (left : Json.get? members "s1" = some s1) (left' : Json.get? members' "s1" = some s1')
      (right : Json.get? members "s2" = some s2) (right' : Json.get? members' "s2" = some s2')
      (leftAlike : Alike s1 s1') (rightAlike : Alike s2 s2')
      (rearranged : Rearranged ["op", "s1", "s2"] (besideOperands members)
        (besideOperands members')) :
      Alike (.object members) (.object members')

section Rearranged

variable {used : List String} {members members' : Members}

theorem Rearranged.get? (h : Rearranged used members members') {key : String}
    (placeless : isPositionKey key = false) :
    Json.get? members key = Json.get? members' key := by
  have kept : (!isPositionKey key) = true := by rw [placeless]; rfl
  have distinct : ((members.filter (!isPositionKey ·.1)).map Prod.fst).Nodup :=
    h.distinct.sublist (List.filter_sublist.map Prod.fst)
  calc Json.get? members key
    _ = Json.get? (members.filter (!isPositionKey ·.1)) key :=
      (Json.get?_filter (!isPositionKey ·) members kept).symm
    _ = Json.get? (members'.filter (!isPositionKey ·.1)) key := Json.get?_perm h.same distinct key
    _ = Json.get? members' key := Json.get?_filter (!isPositionKey ·) members' kept

theorem Rearranged.memberOr (h : Rearranged used members members') {key : String}
    (placeless : isPositionKey key = false) {α : Type} (absent : α)
    (read : Json → Except Fault α) :
    Fq.memberOr members key absent read = Fq.memberOr members' key absent read := by
  unfold Fq.memberOr
  rw [h.get? placeless]

/-- The modifiers are the same, in the same order. -/
theorem Rearranged.modifiers (h : Rearranged used members members') :
    members.filter (isModifierKey used ·.1) = members'.filter (isModifierKey used ·.1) := by
  have narrow (ms : Members) : (ms.filter (!isPositionKey ·.1)).filter (isModifierKey used ·.1) =
      ms.filter (isModifierKey used ·.1) := by
    rw [List.filter_filter]
    apply List.filter_congr
    intro m _
    cases position : isPositionKey m.1 <;> simp [isModifierKey, position]
  have perm := h.same.filter (isModifierKey used ·.1)
  rw [narrow, narrow] at perm
  exact eq_of_perm_of_map_eq perm (h.distinct.sublist (List.filter_sublist.map Prod.fst)) h.order

end Rearranged

/-- The tree that a value is read as, if it is read, without its positions. -/
def placelessNode (choice : ServerChoice) (value : Json) : Option Node :=
  (node choice value).toOption.map Node.withoutPositions

/-- The clause that an object with a term is read as, if it is read, without its positions. -/
def placelessClause (choice : ServerChoice) (members : Members) (term : Json) :
    Option SearchClause :=
  (clause choice members term).toOption.map SearchClause.withoutPositions

theorem placelessNode_boolean (choice : ServerChoice) {members : Members} {op s1 s2 : Json}
    (hop : Json.get? members "op" = some op) (h1 : Json.get? members "s1" = some s1)
    (h2 : Json.get? members "s2" = some s2) :
    placelessNode choice (.object members) =
      (operator op).toOption.bind fun op => (placelessNode choice s1).bind fun left =>
        (placelessNode choice s2).bind fun right =>
          ((connective op members).toOption.map Connective.withoutPositions).map fun k =>
            .boolean k left right := by
  simp only [placelessNode, node_boolean choice hop h1 h2]
  cases operator op with
  | error fault => rfl
  | ok op =>
    cases node choice s1 with
    | error fault => rfl
    | ok left =>
      cases node choice s2 with
      | error fault => rfl
      | ok right =>
        cases joined : connective op members with
        | error fault => simp [Except.bind, joined]
        | ok k => simp [Except.bind, joined, Node.withoutPositions_boolean]

theorem placelessNode_incomplete (choice : ServerChoice) {members : Members}
    (incomplete : ∃ key ∈ booleanKeys, Json.get? members key = none) :
    placelessNode choice (.object members) =
      (Json.get? members "term").bind fun term =>
        (placelessClause choice members term).map .clause := by
  rw [placelessNode, node_incomplete choice incomplete]
  cases Json.get? members "term" with
  | none => rfl
  | some term =>
    simp only [Option.bind_some, placelessClause]
    cases clause choice members term <;> rfl

section Alike

variable {members members' : Members}

theorem Rearranged.placelessClause
    (h : Rearranged ["term", "field", "relation"] members members') (choice : ServerChoice)
    (term : Json) :
    Fq.placelessClause choice members term = Fq.placelessClause choice members' term := by
  have field := h.memberOr (show isPositionKey "field" = false by decide) choice.field
  have relation := h.memberOr (show isPositionKey "relation" = false by decide) choice.relation
  have modifiers : Fq.modifiers clauseKeys members = Fq.modifiers clauseKeys members' := by
    rw [Fq.modifiers, Fq.modifiers]
    exact congrArg _ h.modifiers
  simp only [Fq.placelessClause, clause, SearchClause.ofTerm, field, relation, modifiers]
  -- What is left to differ are the positions, which come after all that may fail.
  cases scalar "term" term with
  | error fault => rfl
  | ok text =>
    cases Fq.memberOr members' "field" choice.field (string "field") with
    | error fault => rfl
    | ok field =>
      cases Fq.memberOr members' "relation" choice.relation
          (fun v => (string "relation" v).map Relation.toSymbol) with
      | error fault => rfl
      | ok relation => cases Fq.modifiers clauseKeys members' <;> rfl

theorem get?_besideOperands (members : Members) {key : String} (left : key ≠ "s1")
    (right : key ≠ "s2") : Json.get? (besideOperands members) key = Json.get? members key :=
  Json.get?_filter (fun k => k != "s1" && k != "s2") members (by simp [left, right])

theorem modifiers_besideOperands (members : Members) :
    (besideOperands members).filter (isModifierKey booleanKeys ·.1) =
      members.filter (isModifierKey booleanKeys ·.1) := by
  rw [besideOperands, List.filter_filter]
  apply List.filter_congr
  intro m _
  cases key : isModifierKey booleanKeys m.1 with
  | false => rfl
  | true =>
    have free := (isModifierKey_iff.mp key).1
    simp only [booleanKeys, List.mem_cons, not_or] at free
    simp [free]

theorem Rearranged.connective (op : BooleanOp)
    (h : Rearranged ["op", "s1", "s2"] (besideOperands members) (besideOperands members')) :
    (Fq.connective op members).toOption.map Connective.withoutPositions =
      (Fq.connective op members').toOption.map Connective.withoutPositions := by
  have modifiers : Fq.modifiers booleanKeys members = Fq.modifiers booleanKeys members' := by
    rw [Fq.modifiers, Fq.modifiers, ← modifiers_besideOperands members,
      ← modifiers_besideOperands members']
    exact congrArg _ h.modifiers
  unfold Fq.connective
  rw [modifiers]
  cases Fq.modifiers booleanKeys members' <;> rfl

/-- Alike values are read as the same tree, positions apart, if they are read. -/
theorem Alike.placelessNode {value value' : Json} (h : Alike value value')
    (choice : ServerChoice) : Fq.placelessNode choice value = Fq.placelessNode choice value' := by
  induction h with
  | same value => rfl
  | @clause members members' incomplete rearranged =>
    have placeless : ∀ key ∈ ["op", "s1", "s2"], isPositionKey key = false := by decide
    have term : Json.get? members "term" = Json.get? members' "term" :=
      rearranged.get? (by decide)
    have incomplete' : ∃ key ∈ booleanKeys, Json.get? members' key = none := by
      obtain ⟨key, listed, missing⟩ := incomplete
      exact ⟨key, listed, rearranged.get? (placeless key listed) ▸ missing⟩
    simp only [placelessNode_incomplete choice incomplete,
      placelessNode_incomplete choice incomplete', term, rearranged.placelessClause]
  | @boolean members members' op _ _ _ _ operator left left' right right' _ _ rearranged ihl ihr =>
    have operator' : Json.get? members' "op" = some op := by
      have same := rearranged.get? (show isPositionKey "op" = false by decide)
      rw [get?_besideOperands _ (by decide) (by decide),
        get?_besideOperands _ (by decide) (by decide)] at same
      rw [← same, operator]
    simp only [placelessNode_boolean choice operator left right,
      placelessNode_boolean choice operator' left' right', ihl, ihr, rearranged.connective]

theorem Alike.null_iff {value value' : Json} (h : Alike value value') :
    value = .null ↔ value' = .null := by
  cases h with
  | same => rfl
  | clause => simp
  | boolean => simp

end Alike

end Fq

theorem Fq.placelessNode_eq_some_iff {value : Json} {choice : ServerChoice} {n : Node} :
    Fq.placelessNode choice value = some n ↔
      ∃ n', Node.ofJson value choice = .ok n' ∧ n'.withoutPositions = n := by
  simp only [Node.ofJson_eq_ok_iff, placelessNode, Option.map_eq_some_iff]
  cases node choice value <;> simp

/-- Two values that differ, at any depth, in nothing but what stands under keys of positions and in
the order of keys, that of modifiers apart, are both refused for the same reason, or read as the
same tree but for its positions. -/
theorem ofJson_alike {value value' : Json} (h : Fq.Alike value value') (choice : ServerChoice) :
    (∃ e e', Node.ofJson value choice = .error e ∧ Node.ofJson value' choice = .error e' ∧
        e.kind = e'.kind) ∨
      ∃ n n', Node.ofJson value choice = .ok n ∧ Node.ofJson value' choice = .ok n' ∧
        n.withoutPositions = n'.withoutPositions := by
  have same := h.placelessNode choice
  cases read : Node.ofJson value choice with
  | ok n =>
    right
    rw [Fq.placelessNode_eq_some_iff.mpr ⟨n, read, rfl⟩] at same
    obtain ⟨n', read', equal⟩ := Fq.placelessNode_eq_some_iff.mp same.symm
    exact ⟨n, n', rfl, read', equal.symm⟩
  | error e =>
    left
    cases read' : Node.ofJson value' choice with
    | ok n' =>
      rw [Fq.placelessNode_eq_some_iff.mpr ⟨n', read', rfl⟩] at same
      obtain ⟨n, found, -⟩ := Fq.placelessNode_eq_some_iff.mp same
      rw [read] at found
      cases found
    | error e' =>
      refine ⟨e, e', rfl, rfl, ?_⟩
      obtain ⟨null, rfl⟩ | ⟨other, fault, rfl⟩ := Node.ofJson_error read
      · obtain ⟨-, rfl⟩ | ⟨other, -⟩ := Node.ofJson_error read'
        · rfl
        · exact absurd (h.null_iff.mp null) other
      · obtain ⟨null, -⟩ | ⟨-, fault', rfl⟩ := Node.ofJson_error read'
        · exact absurd (h.null_iff.mpr null) other
        · rfl

/-- The position of the left operand is no number, and the right operand, which lacks `s2`, has
modifiers `s1` and `op`. In a boolean node `term` is a modifier. -/
theorem ofJson_alike_nested :
    ∃ value value' : Json,
      value = .object [("op", .string "AND"),
        ("s1", .object [("term", .string "a"), ("field", .string "f"), ("@pos", .string "x")]),
        ("s2", .object [("term", .string "b"), ("s1", .bool true), ("op", .string "1")]),
        ("term", .string "m")] ∧
      value' = .object [("term", .string "m"), ("x@range", .null),
        ("s2", .object [("s1", .bool true), ("relation@pos", .ofNat 7), ("term", .string "b"),
          ("op", .string "1")]),
        ("s1", .object [("field", .string "f"), ("term", .string "a")]), ("op", .string "AND")] ∧
      Fq.Alike value value' ∧
      ∃ n n', Node.ofJson value {} = .ok n ∧ Node.ofJson value' {} = .ok n' ∧
        n.withoutPositions = n'.withoutPositions := by
  have alike : Fq.Alike
      (.object [("op", .string "AND"),
        ("s1", .object [("term", .string "a"), ("field", .string "f"), ("@pos", .string "x")]),
        ("s2", .object [("term", .string "b"), ("s1", .bool true), ("op", .string "1")]),
        ("term", .string "m")])
      (.object [("term", .string "m"), ("x@range", .null),
        ("s2", .object [("s1", .bool true), ("relation@pos", .ofNat 7), ("term", .string "b"),
          ("op", .string "1")]),
        ("s1", .object [("field", .string "f"), ("term", .string "a")]),
        ("op", .string "AND")]) := by
    refine .boolean rfl rfl rfl rfl rfl ?_ ?_ ⟨by decide, by decide, .swap _ _ _, by decide⟩
    · exact .clause ⟨"op", by decide, rfl⟩ ⟨by decide, by decide, .swap _ _ _, by decide⟩
    · exact .clause ⟨"s2", by decide, rfl⟩ ⟨by decide, by decide, .swap _ _ _, by decide⟩
  refine ⟨_, _, rfl, rfl, alike, ?_⟩
  obtain ⟨e, -, failed, -⟩ | read := ofJson_alike alike {}
  · have refused := congrArg Except.isOk failed
    change _ = false at refused
    exact absurd refused (by decide +kernel)
  · exact read

end ContextualQuery
