import ContextualQuery.Proofs.Fq.RoundTrip
import ContextualQuery.Proofs.Query.Rendering

/-!
# What is forgotten with positions

Stripping a tree of its positions walks its left operands in a loop. It comes to the same as going
through the tree node by node and clearing each position there, and it changes nothing that is
written of the tree but the positions themselves.

* `Node.cleared`: the tree with its positions cleared by recursion;
* `Node.toCql_withoutPositions`: canonical text tells no position;
* `Fq.Placeless`: an FQ value none of whose nodes has a key that holds a position;
* `Fq.placeless_document`: a stripped tree is written as such a value;
* `Fq.pieces`: FQ text apart from its layout;
* `withoutPositions_forgets`: stripping clears all positions and nothing else.
-/
namespace ContextualQuery

/-- The tree with every position of its clauses, connectives and modifiers cleared. -/
def Node.cleared : Node → Node
  | .clause c => .clause { c with
      modifiers := c.modifiers.map fun m => { m with pos := none, range := none }
      pos := none
      range := none
      relationPos := none }
  | .boolean k left right => .boolean { k with
      modifiers := k.modifiers.map fun m => { m with pos := none, range := none }
      pos := none
      range := none } left.cleared right.cleared

namespace Node

theorem withoutPositions_eq_cleared (n : Node) : n.withoutPositions = n.cleared := by
  induction n with
  | clause c => rfl
  | boolean k left right ihl ihr =>
    rw [withoutPositions_boolean, ihl, ihr]
    rfl

theorem withoutPositions_withoutPositions (n : Node) :
    n.withoutPositions.withoutPositions = n.withoutPositions := by
  have modifiers (ms : List Modifier) :
      (ms.map Modifier.withoutPositions).map Modifier.withoutPositions =
        ms.map Modifier.withoutPositions := by
    rw [List.map_map]
    rfl
  induction n with
  | clause c =>
    change Node.clause c.withoutPositions.withoutPositions = .clause c.withoutPositions
    simp only [SearchClause.withoutPositions, modifiers]
  | boolean k left right ihl ihr =>
    simp only [withoutPositions_boolean, ihl, ihr, Connective.withoutPositions, modifiers]

theorem positions_withoutPositions (n : Node) : n.withoutPositions.positions = [] := by
  induction n with
  | clause c => rfl
  | boolean k left right ihl ihr =>
    rw [withoutPositions_boolean, positions, ihl, ihr]
    rfl

end Node

theorem modifiersText_withoutPositions (ms : List Modifier) :
    modifiersText (ms.map Modifier.withoutPositions) = modifiersText ms := by
  rw [modifiersText, modifiersText, List.map_map]
  rfl

theorem SearchClause.toCql_withoutPositions (c : SearchClause) :
    c.withoutPositions.toCql = c.toCql := by
  have writes : c.withoutPositions.writesIndex = c.writesIndex := by
    rw [writesIndex, writesIndex, withoutPositions, List.isEmpty_map]
    rfl
  rw [toCql, toCql, writes, withoutPositions, modifiersText_withoutPositions]

theorem Node.isBoolean_withoutPositions (n : Node) :
    n.withoutPositions.isBoolean = n.isBoolean := by
  cases n with
  | clause c => rfl
  | boolean k left right =>
    rw [withoutPositions_boolean]
    rfl

/-- Canonical text tells no position. -/
theorem Node.toCql_withoutPositions (n : Node) : n.withoutPositions.toCql = n.toCql := by
  induction n with
  | clause c =>
    change (Node.clause c.withoutPositions).toCql = _
    rw [toCql_clause, toCql_clause, SearchClause.toCql_withoutPositions]
  | boolean k left right ihl ihr =>
    have connective : k.withoutPositions.toCql = k.toCql := by
      rw [Connective.toCql, Connective.toCql, Connective.withoutPositions,
        modifiersText_withoutPositions]
    rw [withoutPositions_boolean, toCql_boolean, toCql_boolean, operandText, operandText,
      operandText, operandText, isBoolean_withoutPositions, isBoolean_withoutPositions, ihl, ihr,
      connective]

namespace Fq

/-- An FQ value none of whose nodes, at any depth, has a key that holds a position. -/
inductive Placeless : Json → Prop where
  | node {members : Members} (own : ∀ m ∈ members, isPositionKey m.1 = false)
      (operands : ∀ m ∈ members, m.1 ∈ ["s1", "s2"] → Placeless m.2) : Placeless (.object members)

theorem key_of_mem_optionalDocument {isWritten : Bool} {key text : String}
    {m : String × Json} (h : m ∈ optionalDocument isWritten key text) : m.1 = key := by
  cases isWritten with
  | false => simp [optionalDocument] at h
  | true =>
    rw [optionalDocument, if_pos rfl, List.mem_singleton] at h
    rw [h]

/-- The keys of a clause without positions. -/
theorem keys_clauseDocument {c : SearchClause} {m : String × Json}
    (h : m ∈ clauseDocument c.withoutPositions) :
    m.1 ∈ ["term", "field", "relation"] ∨ isModifierKey clauseReserved m.1 = true := by
  simp only [clauseDocument, SearchClause.withoutPositions, posDocument, rangeDocument,
    List.append_nil, List.mem_cons, List.mem_append] at h
  obtain rfl | h | h | h := h
  · simp
  · simp [key_of_mem_optionalDocument h]
  · simp [key_of_mem_optionalDocument h]
  · exact .inr (isModifierKey_of_mem_modifierDocument h)

/-- The members of a boolean node without positions: its operator and modifiers, and its operands
each under its key. -/
theorem keys_booleanDocument {k : Connective} {left right : Json} {m : String × Json}
    (h : m ∈ booleanDocument k.withoutPositions left right) :
    m.1 = "op" ∨ isModifierKey booleanReserved m.1 = true ∨ m = ("s1", left) ∨ m = ("s2", right) := by
  simp only [booleanDocument, Connective.withoutPositions, posDocument, rangeDocument,
    List.nil_append, List.mem_cons, List.mem_append, List.not_mem_nil, or_false] at h
  obtain rfl | h | h := h
  · exact .inl rfl
  · exact .inr (.inl (isModifierKey_of_mem_modifierDocument h))
  · exact .inr (.inr h)

/-- Assigning members one after another adds none to them. -/
theorem placeless_assignAll {members : Members}
    (own : ∀ m ∈ members, isPositionKey m.1 = false)
    (operands : ∀ m ∈ members, m.1 ∈ ["s1", "s2"] → Placeless m.2) :
    Placeless (.object (Json.assignAll members)) := by
  rw [Json.assignAll_eq_lastOfEach]
  constructor
  · intro m hm
    exact own m (mem_of_mem_lastOfEach _ hm)
  · intro m hm
    exact operands m (mem_of_mem_lastOfEach _ hm)

/-- A stripped tree is written as a value without positions. -/
theorem placeless_document (n : Node) : Placeless n.withoutPositions.document := by
  have plain : ∀ key ∈ ["term", "field", "relation", "op", "s1", "s2"],
      isPositionKey key = false := by decide
  induction n with
  | clause c =>
    have apart : ∀ key ∈ ["s1", "s2"], key ∉ ["term", "field", "relation"] ∧
        key ∈ clauseReserved := by decide
    apply placeless_assignAll
    · intro m hm
      obtain own | modifier := keys_clauseDocument hm
      · exact plain m.1 (List.mem_append_left ["op", "s1", "s2"] own)
      · exact (isModifierKey_iff.mp modifier).2
    · intro m hm operand
      obtain own | modifier := keys_clauseDocument hm
      · exact absurd own (apart m.1 operand).1
      · exact absurd (apart m.1 operand).2 (isModifierKey_iff.mp modifier).1
  | boolean k left right ihl ihr =>
    have apart : ∀ key ∈ ["s1", "s2"], key ≠ "op" ∧ key ∈ booleanReserved := by decide
    rw [Node.withoutPositions_boolean, Node.document]
    apply placeless_assignAll
    · intro m hm
      obtain op | modifier | rfl | rfl := keys_booleanDocument hm
      · exact plain m.1 (by simp [op])
      · exact (isModifierKey_iff.mp modifier).2
      · exact plain "s1" (by simp)
      · exact plain "s2" (by simp)
    · intro m hm operand
      obtain op | modifier | rfl | rfl := keys_booleanDocument hm
      · exact absurd op (apart m.1 operand).1
      · exact absurd (apart m.1 operand).2 (isModifierKey_iff.mp modifier).1
      · exact ihl
      · exact ihr

/-- FQ text apart from its layout: pieces of text, and between them the levels of the lines that
start there. -/
def pieces : Node → Nat → List (String ⊕ Nat)
  | .clause c, _ => [.inl (clauseText c)]
  | .boolean k left right, level =>
    .inl ("\x7b" ++ connectiveText k ++ ",") :: .inr (level + 1) :: .inl "\"s1\": " ::
      (pieces left (level + 1) ++ .inl "," :: .inr (level + 1) :: .inl "\"s2\": " ::
        (pieces right (level + 1) ++ [.inl "\x7d"]))

theorem nodeText_eq_pieces (layout : Layout) (n : Node) (level : Nat) :
    nodeText layout n level = String.join ((pieces n level).map (Sum.elim id layout.line)) := by
  induction n generalizing level with
  | clause c => simp [nodeText, pieces]
  | boolean k left right ihl ihr =>
    rw [nodeText, ihl, ihr, openBoolean_append, closeBoolean_eq]
    simp [pieces, operandLine, Layout.line, String.append_assoc]

end Fq

/-- Stripping clears every position of every node and modifier, at any depth, and once is enough.
The stripped tree has the same canonical text and the same XCQL. Its FQ text is the same pieces in
every layout, and in a layout of blanks it is read as a JSON value in which no node has a key that
holds a position. -/
theorem withoutPositions_forgets (n : Node) :
    n.withoutPositions = n.cleared ∧
      n.withoutPositions.withoutPositions = n.withoutPositions ∧
      n.withoutPositions.toCql = n.toCql ∧
      (∀ indent, n.withoutPositions.toXcql indent = n.toXcql indent) ∧
      (∃ pieces : List (String ⊕ Nat), ∀ layout : Fq.Layout,
        n.withoutPositions.toFq layout = String.join (pieces.map (Sum.elim id layout.line))) ∧
      ∃ value, Fq.Placeless value ∧ ∀ layout : Fq.Layout, layout.Blank → ∀ limit,
        Json.nesting (n.withoutPositions.toFq layout) < limit →
          Json.parse limit (n.withoutPositions.toFq layout) = .ok value := by
  refine ⟨n.withoutPositions_eq_cleared, n.withoutPositions_withoutPositions,
    n.toCql_withoutPositions, ?_, ?_, n.withoutPositions.document, Fq.placeless_document n, ?_⟩
  · intro indent
    rw [Xcql.toXcql_eq, Xcql.toXcql_eq, Xcql.nodeLines_withoutPositions]
  · refine ⟨Fq.pieces n.withoutPositions 0, fun layout => ?_⟩
    rw [Fq.toFq_eq, Fq.nodeText_eq_pieces]
  · intro layout blank limit allowed
    have fits : ∀ p ∈ n.withoutPositions.positions, p ≤ maxWord := by
      simp [n.positions_withoutPositions]
    have spells := Fq.spells_nodeText_height blank fits 0
    rw [← Fq.toFq_eq] at spells
    exact spells.parse limit allowed

/-- A place in every node and modifier; modifiers named like positions and like operands, which FQ
does not write. -/
theorem withoutPositions_forgets_nested :
    ∃ (n : Node) (value : Json),
      n = .boolean
        { op := .prox, pos := some 9, range := some ⟨9, 20⟩
          modifiers := [{ name := "unit", pos := some 14, range := some ⟨13, 18⟩ }] }
        (.clause { SearchClause.ofTerm "a" {} with
          pos := some 0, range := some ⟨7, 8⟩, relationPos := some 5
          modifiers := [{ name := "x@pos", relation := "=", value := "1", pos := some 6 }] })
        (.clause { SearchClause.ofTerm "b" {} with
          range := some ⟨21, 22⟩, modifiers := [{ name := "s1", range := some ⟨23, 26⟩ }] }) ∧
      Json.parse 128 (n.withoutPositions.toFq {}) = .ok value ∧ Fq.Placeless value ∧
      n.withoutPositions.toFq {} =
        "\x7b\"op\": \"prox\", \"unit\": true,\n  \"s1\": \x7b\"term\": \"a\"\x7d,\n" ++
          "  \"s2\": \x7b\"term\": \"b\"\x7d\x7d" := by
  have blank : Fq.Layout.Blank {} := ⟨List.all_eq_true.mp rfl, List.all_eq_true.mp rfl⟩
  obtain ⟨-, -, -, -, -, value, placeless, read⟩ := withoutPositions_forgets (.boolean
    { op := .prox, pos := some 9, range := some ⟨9, 20⟩
      modifiers := [{ name := "unit", pos := some 14, range := some ⟨13, 18⟩ }] }
    (.clause { SearchClause.ofTerm "a" {} with
      pos := some 0, range := some ⟨7, 8⟩, relationPos := some 5
      modifiers := [{ name := "x@pos", relation := "=", value := "1", pos := some 6 }] })
    (.clause { SearchClause.ofTerm "b" {} with
      range := some ⟨21, 22⟩, modifiers := [{ name := "s1", range := some ⟨23, 26⟩ }] }))
  exact ⟨_, value, rfl, read {} blank 128 (by decide +kernel), placeless, by decide +kernel⟩

end ContextualQuery
