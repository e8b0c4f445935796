import ContextualQuery.Fq.Reader
import ContextualQuery.Proofs.Query.RoundTrip
import Mathlib.Control.Monad.Basic

/-!
# The canonical text of an FQ query

FQ lets a modifier compare by any text at all, and canonical text writes that text as it stands.

* `Node.Decoded`: what holds of every tree that FQ text gives;
* `canonical_fq_iff_writable`: its canonical text stands for the same tree exactly if its modifiers
  are flags and comparisons;
* `canonical_fq_escape`: a relation that closes its clause and opens another.
-/
namespace ContextualQuery

/-- A tree as FQ text gives it when it is read against a server's choice: all that
`Node.Readable` asks for but how its modifiers compare. -/
structure Node.Decoded (choice : ServerChoice) (n : Node) : Prop where
  chosen : ∀ c ∈ n.clauses, c.choice = choice
  unqualified : ∀ c ∈ n.clauses, c.withoutUris = c
  named : ∀ m ∈ n.modifiers, Text.lowercase m.name = m.name

namespace Fq

theorem modifier_name {name : String} {value : Json} {m : Modifier}
    (h : modifier name value = .ok m) : m.name = Text.lowercase name := by
  unfold modifier at h
  split at h
  · cases h
    rfl
  · obtain ⟨relation, -, h⟩ := Except.bind_eq_ok_iff.mp h
    obtain ⟨text, -, h⟩ := Except.bind_eq_ok_iff.mp h
    cases h
    rfl
  · obtain ⟨text, -, h⟩ := Except.bind_eq_ok_iff.mp h
    cases h
    rfl

theorem modifier_named {name : String} {value : Json} {m : Modifier}
    (h : modifier name value = .ok m) : Text.lowercase m.name = m.name := by
  rw [modifier_name h, Text.lowercase_lowercase]

theorem modifiers_named {used : List String} {members : Members} {ms : List Modifier}
    (h : modifiers used members = .ok ms) : ∀ m ∈ ms, Text.lowercase m.name = m.name := by
  intro m hm
  obtain ⟨⟨key, value⟩, -, read⟩ := Except.mem_of_mapM_eq_ok h m hm
  exact modifier_named read

theorem connective_named {op : BooleanOp} {members : Members} {k : Connective}
    (h : connective op members = .ok k) : ∀ m ∈ k.modifiers, Text.lowercase m.name = m.name := by
  obtain ⟨ms, read, h⟩ := Except.bind_eq_ok_iff.mp h
  cases h
  exact modifiers_named read

theorem clause_decoded {choice : ServerChoice} {members : Members} {term : Json}
    {c : SearchClause} (h : clause choice members term = .ok c) :
    (Node.clause c).Decoded choice := by
  obtain ⟨text, -, h⟩ := Except.bind_eq_ok_iff.mp h
  obtain ⟨field, -, h⟩ := Except.bind_eq_ok_iff.mp h
  obtain ⟨relation, -, h⟩ := Except.bind_eq_ok_iff.mp h
  obtain ⟨ms, read, h⟩ := Except.bind_eq_ok_iff.mp h
  cases h
  refine ⟨?_, ?_, modifiers_named read⟩
  · intro c hc
    rw [List.mem_singleton.mp hc]
    rfl
  · intro c hc
    rw [List.mem_singleton.mp hc]
    rfl

/-- A value that is read is an object, and the tree tells which of its members were read. -/
theorem node_eq_ok {choice : ServerChoice} {value : Json} {n : Node}
    (h : node choice value = .ok n) :
    ∃ members, value = .object members ∧
      match n with
      | .clause c => ∃ term, (∃ key ∈ booleanKeys, Json.get? members key = none) ∧
          Json.get? members "term" = some term ∧ clause choice members term = .ok c
      | .boolean k left right => ∃ s1 s2 v op, Json.get? members "op" = some v ∧
          operator v = .ok op ∧ Json.get? members "s1" = some s1 ∧
          Json.get? members "s2" = some s2 ∧ node choice s1 = .ok left ∧
          node choice s2 = .ok right ∧ connective op members = .ok k := by
  unfold node at h
  split at h
  · rename_i members _
    split at h
    · rename_i v s1 s2 found found1 found2
      obtain ⟨op, spelled, h⟩ := Except.bind_eq_ok_iff.mp h
      obtain ⟨left, first, h⟩ := Except.bind_eq_ok_iff.mp h
      obtain ⟨right, second, h⟩ := Except.bind_eq_ok_iff.mp h
      obtain ⟨k, joined, h⟩ := Except.bind_eq_ok_iff.mp h
      cases h
      exact ⟨members, rfl, s1, s2, v, op, found, spelled, found1, found2, first, second, joined⟩
    · rename_i missing
      split at h
      · rename_i term found
        obtain ⟨c, read, h⟩ := Except.bind_eq_ok_iff.mp h
        cases h
        refine ⟨members, rfl, term, ?_, found, read⟩
        apply Classical.byContradiction
        intro complete
        simp only [booleanKeys, List.mem_cons, List.not_mem_nil, or_false, exists_eq_or_imp,
          exists_eq_left, not_or, ← ne_eq, Option.ne_none_iff_exists'] at complete
        obtain ⟨⟨op, hop⟩, ⟨s1, h1⟩, s2, h2⟩ := complete
        exact missing op s1 s2 hop h1 h2
      · cases h
  · cases h

theorem node_decoded {choice : ServerChoice} {value : Json} {n : Node}
    (h : node choice value = .ok n) : n.Decoded choice := by
  -- Each operand is read from a value of its own, so the induction is on the tree.
  induction n generalizing value with
  | clause c =>
    obtain ⟨members, -, term, -, -, read⟩ := node_eq_ok h
    exact clause_decoded read
  | boolean k left right ihl ihr =>
    obtain ⟨members, -, s1, s2, -, op, -, -, -, -, first, second, joined⟩ := node_eq_ok h
    have leftDecoded := ihl first
    have rightDecoded := ihr second
    refine ⟨?_, ?_, ?_⟩
    · intro c hc
      exact (List.mem_append.mp hc).elim (leftDecoded.chosen c) (rightDecoded.chosen c)
    · intro c hc
      exact (List.mem_append.mp hc).elim (leftDecoded.unqualified c) (rightDecoded.unqualified c)
    · intro m hm
      obtain hm | hm := List.mem_append.mp hm
      · exact (List.mem_append.mp hm).elim (connective_named joined m) (leftDecoded.named m)
      · exact rightDecoded.named m hm

end Fq

/-- Text that is read is JSON, and its value is read as a tree. -/
theorem Node.ofFq_eq_ok {text : String} {choice : ServerChoice} {n : Node}
    (h : Node.ofFq text choice = .ok n) :
    ∃ value, Json.parse Fq.depthLimit text = .ok value ∧ Fq.node choice value = .ok n := by
  rw [Node.ofFq] at h
  split at h
  · cases h
  · cases parsed : Json.parse Fq.depthLimit text with
    | error fault => simp [parsed] at h
    | ok value =>
      rw [parsed] at h
      cases read : Fq.node choice value with
      | error fault => cases value <;> simp [Node.ofJson, read, Except.mapError] at h
      | ok n' => cases value <;> simp_all [Node.ofJson, Except.mapError]

theorem Node.writable_of_withoutPositions_eq {n n' : Node}
    (same : n'.withoutPositions = n.withoutPositions) (h : ∀ m ∈ n'.modifiers, m.Writable) :
    ∀ m ∈ n.modifiers, m.Writable := by
  intro m hm
  have bare : m.withoutPositions ∈ n'.modifiers.map Modifier.withoutPositions := by
    rw [← modifiers_withoutPositions, same, modifiers_withoutPositions]
    exact List.mem_map_of_mem hm
  obtain ⟨m', hm', eq⟩ := List.mem_map.mp bare
  -- Positions play no part in how a modifier compares.
  have writable : m'.withoutPositions.Writable := h m' hm'
  rw [eq] at writable
  exact writable

/-- The tree that FQ text gives is read back from its canonical text, positions apart, if and only
if each of its modifiers is a flag without a value or compares by a run of comparison characters. -/
theorem canonical_fq_iff_writable {text : String} {choice : ServerChoice} {n : Node}
    (h : Node.ofFq text choice = .ok n) :
    (∃ n', Node.parse n.toCql choice = .ok n' ∧ n'.withoutPositions = n.withoutPositions) ↔
      ∀ m ∈ n.modifiers, m.Writable := by
  obtain ⟨value, -, read⟩ := Node.ofFq_eq_ok h
  have decoded := Fq.node_decoded read
  constructor
  · rintro ⟨n', parsed, same⟩
    have readable := Node.readable_of_parse parsed
    exact Node.writable_of_withoutPositions_eq same fun m hm => (readable.modifiers m hm).writable
  · intro writable
    have readable : n.Readable choice :=
      ⟨decoded.chosen, fun m hm => ⟨decoded.named m hm, writable m hm⟩⟩
    obtain ⟨n', parsed, same⟩ := readable.parse_toCql
    rw [Node.withoutUris_eq_self decoded.unqualified] at same
    exact ⟨n', parsed, same⟩

/-- The document names the relation of one modifier by a word, leaves out that of another, has a
flag, and gives the term a quotation mark and a modifier the name `and`. -/
theorem canonical_fq_words :
    ∃ n n' : Node,
      Node.ofFq
        "\x7b\"term\":\"a\\\"b\",\"And\":\x7b\"relation\":\"le\"\x7d,\"x\":\"\",\"y\":true\x7d" {} =
        .ok n ∧
      (∀ m ∈ n.modifiers, m.Writable) ∧
      Node.parse n.toCql {} = .ok n' ∧ n'.withoutPositions = n.withoutPositions := by
  have read : Node.ofFq
      "\x7b\"term\":\"a\\\"b\",\"And\":\x7b\"relation\":\"le\"\x7d,\"x\":\"\",\"y\":true\x7d" {} =
      .ok (.clause { SearchClause.ofTerm "a\"b" {} with
        modifiers := [.ofValue "and" "<=" "", .ofValue "x" "=" "", .ofFlag "y"] }) := by
    decide +kernel
  have writable : ∀ m ∈ [Modifier.ofValue "and" "<=" "", .ofValue "x" "=" "", .ofFlag "y"],
      m.Writable := by
    intro m hm
    simp only [List.mem_cons, List.not_mem_nil, or_false] at hm
    obtain rfl | rfl | rfl := hm
    · exact .inr rfl
    · exact .inr rfl
    · exact .inl ⟨rfl, rfl⟩
  obtain ⟨n', parsed, same⟩ := (canonical_fq_iff_writable read).mpr writable
  exact ⟨_, n', read, writable, parsed, same⟩

/-- A relation that closes its clause and opens another: FQ text for one clause, whose canonical
text is read as a disjunction. -/
theorem canonical_fq_escape :
    ∃ n n' : Node,
      Node.ofFq
        "\x7b\"term\":\"x\",\"m\":\x7b\"relation\":\" \\\"a\\\" or b \",\"value\":\"\"\x7d\x7d" {} =
        .ok n ∧
      n.toCql = "cql.serverChoice scr/m \"a\" or b \"\" \"x\"" ∧
      (¬ ∀ m ∈ n.modifiers, m.Writable) ∧
      Node.parse n.toCql {} = .ok n' ∧ n.clauses.length = 1 ∧ n'.clauses.length = 2 ∧
      n'.withoutPositions ≠ n.withoutPositions := by
  refine ⟨.clause { SearchClause.ofTerm "x" {} with modifiers := [.ofValue "m" " \"a\" or b " ""] },
    .boolean { op := .or, pos := some 27, range := some ⟨27, 29⟩ }
      (.clause { SearchClause.ofTerm "a" {} with
        modifiers := [{ name := "m", pos := some 21, range := some ⟨20, 22⟩ }]
        pos := some 0, range := some ⟨23, 26⟩, relationPos := some 17 })
      (.clause { SearchClause.ofTerm "x" {} with
        field := "b", relation := ""
        pos := some 30, range := some ⟨35, 38⟩, relationPos := some 32 }),
    by decide +kernel, by decide +kernel, ?_, by decide +kernel, rfl, rfl, by decide +kernel⟩
  intro writable
  obtain ⟨relation, -⟩ | symbol :=
    writable (.ofValue "m" " \"a\" or b " "") (by simp [Node.modifiers])
  · exact absurd relation (by decide)
  · exact absurd symbol (by decide)

end ContextualQuery
