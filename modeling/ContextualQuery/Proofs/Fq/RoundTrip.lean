import ContextualQuery.Fq.Reader
import ContextualQuery.Proofs.Except
import ContextualQuery.Proofs.Fq.Document
import ContextualQuery.Proofs.Json.Members
import ContextualQuery.Proofs.Query.Tree

/-!
# FQ text is read back

Reading FQ text gives the tree it was written for, in a normal form.

* `Node.fqNormal`: what a trip through FQ leaves of a tree;
* `node_document`: the document of a tree is read as the normal form;
* `fq_round_trip`: so is its text, unless it nests too deep for the reader.
-/
namespace ContextualQuery

/-- A modifier after a trip: a flag without a value, or the symbol for the relation. -/
def Modifier.fqNormal (m : Modifier) : Modifier :=
  if m.relation = "" then { name := m.name }
  else { name := m.name, relation := Relation.toSymbol m.relation, value := m.value }

/-- Modifiers after a trip: those that are written, of each name the last in the place of the
first. -/
def fqModifiers (reserved : List String) (ms : List Modifier) : List Modifier :=
  (lastOfEach (·.name) (ms.filter (Fq.isWritten reserved))).map Modifier.fqNormal

/-- A clause after a trip. A relation that is not the server's choice takes its symbol. -/
def SearchClause.fqNormal (choice : ServerChoice) (c : SearchClause) : SearchClause :=
  { c with
    fieldUri := ""
    relation := if c.relation = choice.relation then c.relation else Relation.toSymbol c.relation
    relationUri := ""
    modifiers := fqModifiers ["term", "field", "relation", "op", "s1", "s2"] c.modifiers }

def Connective.fqNormal (k : Connective) : Connective :=
  { k with modifiers := fqModifiers ["op", "s1", "s2"] k.modifiers }

def Node.fqNormal (choice : ServerChoice) : Node → Node
  | .clause c => .clause (c.fqNormal choice)
  | .boolean k left right => .boolean k.fqNormal (left.fqNormal choice) (right.fqNormal choice)

namespace Fq

/-- The word for a relation has the same symbol as the relation. -/
theorem toSymbol_toWord (relation : String) :
    Relation.toSymbol (Relation.toWord relation) = Relation.toSymbol relation := by
  cases found : Relation.wordOf? relation with
  | none => simp [Relation.toWord, found]
  | some word =>
    have word' : Relation.toWord relation = word := by simp [Relation.toWord, found]
    rw [word']
    obtain ⟨⟨symbol, w⟩, hfind, rfl⟩ := Option.map_eq_some_iff.mp found
    have same : symbol = relation := by simpa using List.find?_some hfind
    have known := List.mem_of_find?_eq_some hfind
    subst same
    simp only [Relation.spellings, List.mem_cons, Prod.mk.injEq, List.not_mem_nil,
      or_false] at known
    obtain ⟨rfl, rfl⟩ | ⟨rfl, rfl⟩ | ⟨rfl, rfl⟩ | ⟨rfl, rfl⟩ | ⟨rfl, rfl⟩ | ⟨rfl, rfl⟩ := known <;>
      decide

theorem modifier_modifierJson {m : Modifier} (named : Text.lowercase m.name = m.name) :
    modifier m.name (modifierJson m) = .ok m.fqNormal := by
  unfold modifierJson Modifier.fqNormal
  cases flag : m.isFlag with
  | true =>
    have none : m.relation = "" := by simpa [Modifier.isFlag] using flag
    simp [modifier, Modifier.ofFlag, Modifier.ofValue, named, none]
  | false =>
    have some : m.relation ≠ "" := by simpa [Modifier.isFlag] using flag
    simp only [Bool.false_eq_true, ↓reduceIte, some]
    split
    · rename_i equals
      have symbol : Relation.toSymbol "=" = "=" := by decide
      simp [modifier, scalar, Modifier.ofValue, named, equals, symbol]
    · have relation : memberOr
          [("relation", Json.string (Relation.toWord m.relation)), ("value", .string m.value)]
          "relation" "=" (string "modifier relation") = .ok (Relation.toWord m.relation) := rfl
      have value : memberOr
          [("relation", Json.string (Relation.toWord m.relation)), ("value", .string m.value)]
          "value" "" (scalar "modifier value") = .ok m.value := rfl
      simp only [modifier, relation, value, bind, Except.bind, pure, Except.pure, Modifier.ofValue,
        named, toSymbol_toWord]

/-- The members for modifiers are read as their normal form, whatever keys are not modifiers. -/
theorem modifiers_assignAll {used reserved : List String} {ms : List Modifier}
    (named : ∀ m ∈ ms, Text.lowercase m.name = m.name) {members : List (String × Json)}
    (kept : members.filter (isModifierKey used ·.1) = modifierDocument reserved ms) :
    modifiers used (Json.assignAll members) = .ok (fqModifiers reserved ms) := by
  rw [modifiers, Json.filter_assignAll, kept, Json.assignAll_eq_lastOfEach, modifierDocument,
    lastOfEach_map, List.mapM_map, fqModifiers]
  refine Except.mapM_eq_ok fun m hm => ?_
  have listed := (List.mem_filter.mp (mem_of_mem_lastOfEach _ hm)).1
  exact modifier_modifierJson (named m listed)

theorem isModifierKey_iff {used : List String} {key : String} :
    isModifierKey used key = true ↔ key ∉ used ∧ isPositionKey key = false := by
  simp [isModifierKey]

theorem isModifierKey_of_mem_modifierDocument {reserved : List String} {ms : List Modifier}
    {member : String × Json} (h : member ∈ modifierDocument reserved ms) :
    isModifierKey reserved member.1 = true := by
  obtain ⟨m, hm, rfl⟩ := List.mem_map.mp h
  exact (List.mem_filter.mp hm).2

theorem filter_modifierDocument (used reserved : List String)
    (included : ∀ key ∈ used, key ∈ reserved) (ms : List Modifier) :
    (modifierDocument reserved ms).filter (isModifierKey used ·.1) =
      modifierDocument reserved ms := by
  apply List.filter_eq_self.mpr
  intro member hm
  obtain ⟨free, placeless⟩ := isModifierKey_iff.mp (isModifierKey_of_mem_modifierDocument hm)
  exact isModifierKey_iff.mpr ⟨fun h => free (included _ h), placeless⟩

theorem filter_optionalDocument {used : List String} {key : String}
    (taken : isModifierKey used key = false) (isWritten : Bool) (text : String) :
    (optionalDocument isWritten key text).filter (isModifierKey used ·.1) = [] := by
  cases isWritten <;> simp [optionalDocument, taken]

theorem filter_posDocument (used : List String) (key : String) (position : isPositionKey key = true)
    (pos : Option Nat) : (posDocument key pos).filter (isModifierKey used ·.1) = [] := by
  cases pos <;> simp [posDocument, isModifierKey, position]

theorem filter_rangeDocument (used : List String) (range : Option Span) :
    (rangeDocument range).filter (isModifierKey used ·.1) = [] := by
  have position : isPositionKey "@range" = true := by decide
  cases range <;> simp [rangeDocument, isModifierKey, position]

theorem get?_modifierDocument {reserved : List String} (ms : List Modifier) {key : String}
    (taken : reserved.contains key = true ∨ isPositionKey key = true) :
    Json.get? (Json.assignAll (modifierDocument reserved ms)) key = none := by
  apply Json.get?_assignAll_eq_none
  intro member hm same
  have free := isModifierKey_of_mem_modifierDocument hm
  simp only [isModifierKey, Bool.and_eq_true, Bool.not_eq_true', same] at free
  obtain taken | taken := taken
  · rw [taken] at free
    cases free.1
  · rw [taken] at free
    cases free.2

theorem get?_posDocument (k : String) (pos : Option Nat) (key : String) :
    Json.get? (Json.assignAll (posDocument k pos)) key =
      if key = k then pos.map Json.ofNat else none := by
  cases pos with
  | none => simp [posDocument, Json.assignAll, Json.get?]
  | some n =>
    rw [posDocument, Json.get?_assignAll_cons]
    simp [Json.assignAll, Json.get?]

theorem get?_optionalDocument (isWritten : Bool) (k text key : String) :
    Json.get? (Json.assignAll (optionalDocument isWritten k text)) key =
      if isWritten = true ∧ key = k then some (.string text) else none := by
  cases isWritten with
  | false => simp [optionalDocument, Json.assignAll, Json.get?]
  | true =>
    rw [optionalDocument, if_pos rfl, Json.get?_assignAll_cons]
    simp [Json.assignAll, Json.get?]

def spanJson (r : Span) : Json := .array [.ofNat r.start, .ofNat r.stop]

theorem get?_rangeDocument (range : Option Span) (key : String) :
    Json.get? (Json.assignAll (rangeDocument range)) key =
      if key = "@range" then range.map spanJson else none := by
  cases range with
  | none => simp [rangeDocument, Json.assignAll, Json.get?]
  | some r =>
    rw [rangeDocument, Json.get?_assignAll_cons]
    simp [Json.assignAll, Json.get?, spanJson]

theorem bind_ofNat_word? (pos : Option Nat) : (pos.map Json.ofNat).bind Json.word? = pos := by
  cases pos <;> rfl

theorem range?_of_get? {members : Members} {range : Option Span}
    (h : Json.get? members "@range" = range.map spanJson) : range? members = range := by
  rw [range?, h]
  cases range <;> rfl

/-- An object with all of `op`, `s1` and `s2` is read as a boolean node. -/
theorem node_boolean (choice : ServerChoice) {members : Members} {op s1 s2 : Json}
    (hop : Json.get? members "op" = some op) (h1 : Json.get? members "s1" = some s1)
    (h2 : Json.get? members "s2" = some s2) :
    node choice (.object members) =
      (operator op).bind fun op => (node choice s1).bind fun left =>
        (node choice s2).bind fun right => (connective op members).bind fun k =>
          .ok (.boolean k left right) := by
  rw [node]
  split
  · rename_i op' s1' s2' hop' h1' h2'
    obtain rfl : op' = op := by simpa [hop'] using hop
    obtain rfl : s1' = s1 := by simpa [h1'] using h1
    obtain rfl : s2' = s2 := by simpa [h2'] using h2
    rfl
  · rename_i missing
    exact (missing op s1 s2 hop h1 h2).elim

/-- An object that lacks a key of a boolean node is read as a clause if it has a term. -/
theorem node_incomplete (choice : ServerChoice) {members : Members}
    (incomplete : ∃ key ∈ booleanKeys, Json.get? members key = none) :
    node choice (.object members) =
      match Json.get? members "term" with
      | some term => (clause choice members term).bind fun c => .ok (.clause c)
      | none => .error .noShape := by
  obtain ⟨key, listed, missing⟩ := incomplete
  simp only [booleanKeys, List.mem_cons, List.not_mem_nil, or_false] at listed
  rw [node]
  split
  · rename_i hop h1 h2
    obtain rfl | rfl | rfl := listed <;> simp_all
  · rfl

theorem node_clause (choice : ServerChoice) {members : Members} {term : Json}
    (incomplete : ∃ key ∈ booleanKeys, Json.get? members key = none)
    (hterm : Json.get? members "term" = some term) :
    node choice (.object members) = (clause choice members term).bind fun c => .ok (.clause c) := by
  rw [node_incomplete choice incomplete, hterm]

theorem filter_clauseDocument (c : SearchClause) :
    (clauseDocument c).filter (isModifierKey clauseKeys ·.1) =
      modifierDocument clauseReserved c.modifiers := by
  have term : isModifierKey clauseKeys "term" = false := by decide
  have field : isModifierKey clauseKeys "field" = false := by decide
  have relation : isModifierKey clauseKeys "relation" = false := by decide
  rw [clauseDocument, List.filter_cons_of_neg (by simp [term])]
  simp only [List.filter_append, filter_optionalDocument field, filter_optionalDocument relation,
    filter_modifierDocument clauseKeys clauseReserved (by decide),
    filter_posDocument clauseKeys "@pos" (by decide), filter_rangeDocument,
    filter_posDocument clauseKeys "relation@pos" (by decide), List.nil_append, List.append_nil]

theorem filter_booleanDocument (k : Connective) (left right : Json) :
    (booleanDocument k left right).filter (isModifierKey booleanKeys ·.1) =
      modifierDocument booleanReserved k.modifiers := by
  have op : isModifierKey booleanKeys "op" = false := by decide
  have s1 : isModifierKey booleanKeys "s1" = false := by decide
  have s2 : isModifierKey booleanKeys "s2" = false := by decide
  rw [booleanDocument, List.filter_cons_of_neg (by simp [op])]
  simp only [List.filter_append, filter_modifierDocument booleanKeys booleanReserved (by decide),
    filter_posDocument booleanKeys "@pos" (by decide), filter_rangeDocument, List.filter_cons, s1,
    s2, Bool.false_eq_true, ↓reduceIte, List.filter_nil, List.append_nil]

/-- What the members of a clause say under the keys that a clause reads. -/
theorem get?_clauseDocument (c : SearchClause) :
    let members := Json.assignAll (clauseDocument c)
    Json.get? members "op" = none ∧ Json.get? members "term" = some (.string c.term) ∧
      Json.get? members "field" =
        (if c.hasExplicitField then some (.string c.field) else none) ∧
      Json.get? members "relation" =
        (if c.hasExplicitRelation then some (.string (Relation.toWord c.relation)) else none) ∧
      Json.get? members "@pos" = c.pos.map Json.ofNat ∧
      Json.get? members "@range" = c.range.map spanJson ∧
      Json.get? members "relation@pos" = c.relationPos.map Json.ofNat := by
  have taken : ∀ key ∈ ["op", "term", "field", "relation", "@pos", "@range", "relation@pos"],
      Json.get? (Json.assignAll (modifierDocument clauseReserved c.modifiers)) key = none := by
    intro key hkey
    apply get?_modifierDocument
    revert key
    decide
  simp only [List.mem_cons, forall_eq_or_imp] at taken
  simp [clauseDocument, Json.get?_assignAll_cons, Json.get?_assignAll_append, get?_posDocument,
    get?_optionalDocument, get?_rangeDocument, taken]

/-- What the members of a boolean node say under the keys that it reads. -/
theorem get?_booleanDocument (k : Connective) (left right : Json) :
    let members := Json.assignAll (booleanDocument k left right)
    Json.get? members "op" = some (.string k.op.keyword) ∧ Json.get? members "s1" = some left ∧
      Json.get? members "s2" = some right ∧ Json.get? members "@pos" = k.pos.map Json.ofNat ∧
      Json.get? members "@range" = k.range.map spanJson := by
  have taken : ∀ key ∈ ["op", "s1", "s2", "@pos", "@range"],
      Json.get? (Json.assignAll (modifierDocument booleanReserved k.modifiers)) key = none := by
    intro key hkey
    apply get?_modifierDocument
    revert key
    decide
  have empty (key : String) : Json.get? (Json.assignAll []) key = none := rfl
  simp only [List.mem_cons, forall_eq_or_imp] at taken
  simp [booleanDocument, Json.get?_assignAll_cons, Json.get?_assignAll_append, get?_posDocument,
    get?_rangeDocument, taken, empty]

theorem clause_document {choice : ServerChoice} {c : SearchClause} (chosen : c.choice = choice)
    (named : ∀ m ∈ c.modifiers, Text.lowercase m.name = m.name) :
    clause choice (Json.assignAll (clauseDocument c)) (.string c.term) =
      .ok (c.fqNormal choice) := by
  obtain ⟨-, -, field, relation, pos, range, relationPos⟩ := get?_clauseDocument c
  have fields : memberOr (Json.assignAll (clauseDocument c)) "field" choice.field (string "field") =
      .ok c.field := by
    rw [memberOr, field]
    cases explicit : c.hasExplicitField with
    | true => rfl
    | false =>
      have same : c.field = choice.field := by
        simpa [SearchClause.hasExplicitField, chosen] using explicit
      simp [same]
  have relations : memberOr (Json.assignAll (clauseDocument c)) "relation" choice.relation
      (fun v => (string "relation" v).map Relation.toSymbol) =
      .ok (if c.relation = choice.relation then c.relation else Relation.toSymbol c.relation) := by
    rw [memberOr, relation]
    cases explicit : c.hasExplicitRelation with
    | true =>
      have differs : c.relation ≠ choice.relation := by
        simpa [SearchClause.hasExplicitRelation, chosen] using explicit
      rw [if_pos rfl, if_neg differs, ← toSymbol_toWord]
      rfl
    | false =>
      have same : c.relation = choice.relation := by
        simpa [SearchClause.hasExplicitRelation, chosen] using explicit
      simp [same]
  have modifiers := modifiers_assignAll named (filter_clauseDocument c)
  simp only [clause, scalar, bind, Except.bind, SearchClause.ofTerm, fields, relations, modifiers,
    pure, Except.pure, position?, pos, relationPos, bind_ofNat_word?, range?_of_get? range,
    SearchClause.fqNormal]
  subst chosen
  rfl

theorem connective_document (k : Connective) (left right : Json)
    (named : ∀ m ∈ k.modifiers, Text.lowercase m.name = m.name) :
    connective k.op (Json.assignAll (booleanDocument k left right)) = .ok k.fqNormal := by
  obtain ⟨-, -, -, pos, range⟩ := get?_booleanDocument k left right
  have modifiers := modifiers_assignAll named (filter_booleanDocument k left right)
  simp only [connective, modifiers, bind, Except.bind, pure, Except.pure, position?, pos,
    bind_ofNat_word?, range?_of_get? range, Connective.fqNormal]
  rfl

theorem operator_keyword (op : BooleanOp) : operator (.string op.keyword) = .ok op := by
  cases op <;> rfl

/-- The document of a tree is read as its normal form. -/
theorem node_document {choice : ServerChoice} {n : Node}
    (chosen : ∀ c ∈ n.clauses, c.choice = choice)
    (named : ∀ m ∈ n.modifiers, Text.lowercase m.name = m.name) :
    node choice n.document = .ok (n.fqNormal choice) := by
  induction n with
  | clause c =>
    obtain ⟨op, term, -⟩ := get?_clauseDocument c
    rw [Node.document, node_clause choice ⟨"op", by simp [booleanKeys], op⟩ term,
      clause_document (chosen c (by simp [Node.clauses])) named]
    rfl
  | boolean k left right ihl ihr =>
    simp only [Node.clauses, List.mem_append, or_imp, forall_and] at chosen
    simp only [Node.modifiers, List.mem_append, or_imp, forall_and] at named
    obtain ⟨op, s1, s2, -⟩ := get?_booleanDocument k left.document right.document
    rw [Node.document, node_boolean choice op s1 s2, operator_keyword, ihl chosen.1 named.1.2,
      ihr chosen.2 named.2]
    simp only [Except.bind, connective_document k _ _ named.1.1, Node.fqNormal]

end Fq

theorem isBlankText_toFq (n : Node) (layout : Fq.Layout) :
    Text.isBlankText (n.toFq layout) = false := by
  have visible : Text.isWhite '\x7b' = false := by decide
  rw [Fq.toFq_eq]
  cases n with
  | clause c =>
    unfold Fq.nodeText Fq.clauseText
    simp [Text.isBlankText, visible]
  | boolean k left right =>
    unfold Fq.nodeText Fq.openBoolean
    simp [Text.isBlankText, visible]

theorem Node.ofJson_document (n : Node) (choice : ServerChoice) :
    Node.ofJson n.document choice = (Fq.node choice n.document).mapError Fq.Fault.error := by
  cases n <;> rfl

/-- A chain of operators nests as deep as it is long. -/
theorem depth_le_nesting {n : Node} {layout : Fq.Layout} (fits : ∀ p ∈ n.positions, p ≤ maxWord)
    (blank : layout.Blank) : n.depth ≤ Json.nesting (n.toFq layout) := by
  obtain ⟨height, deep, spells⟩ := Fq.spells_nodeText blank fits 0
  rw [← Fq.toFq_eq] at spells
  rw [spells.nesting_eq]
  exact deep

/-- Written in a layout of blanks, a tree that carries the server's choice and names its modifiers
in lowercase is read as its normal form if its text nests less than 128 arrays and objects, and is
no JSON to the reader otherwise. Positions are words of 64 bits. -/
theorem fq_round_trip {choice : ServerChoice} {n : Node} {layout : Fq.Layout}
    (chosen : ∀ c ∈ n.clauses, c.choice = choice)
    (named : ∀ m ∈ n.modifiers, Text.lowercase m.name = m.name)
    (fits : ∀ p ∈ n.positions, p ≤ maxWord) (blank : layout.Blank) :
    (128 ≤ Json.nesting (n.toFq layout) →
      ∃ e, Node.ofFq (n.toFq layout) choice = .error e ∧ e.kind = .invalidFqJson) ∧
    (Json.nesting (n.toFq layout) < 128 →
      Node.ofFq (n.toFq layout) choice = .ok (n.fqNormal choice)) := by
  obtain ⟨height, -, spells⟩ := Fq.spells_nodeText blank fits 0
  rw [← Fq.toFq_eq] at spells
  constructor
  · intro deep
    obtain ⟨fault, failed⟩ := spells.parse_error Fq.depthLimit (by decide) deep
    exact ⟨Fq.jsonError (n.toFq layout) fault, by simp [Node.ofFq, isBlankText_toFq, failed], rfl⟩
  · intro shallow
    have parsed := spells.parse Fq.depthLimit shallow
    simp [Node.ofFq, isBlankText_toFq, parsed, Node.ofJson_document,
      Fq.node_document chosen named, Except.mapError]

/-- Of two modifiers `x` the second stays, in the place of the first; `op` and `a@pos` are not
written; a relation that looks like a word of FQ comes back as its symbol. A chain of 127 operators
nests one level too deep. -/
theorem fq_round_trip_repeated :
    (∃ n : Node,
      n = .boolean
        { op := .prox, pos := some 3
          modifiers := [.ofFlag "x", .ofValue "op" "=" "1", .ofValue "y" "any" "z",
            .ofValue "x" "lt" "2"] }
        (.clause { field := "f", fieldUri := "u", relation := "eq", term := "t", choice := {}
                   range := some ⟨1, 2⟩ })
        (.clause { SearchClause.ofTerm "" {} with modifiers := [.ofFlag "a@pos"] }) ∧
      Node.ofFq (n.toFq {}) {} = .ok (.boolean
        { op := .prox, pos := some 3, modifiers := [.ofValue "x" "<" "2", .ofValue "y" "any" "z"] }
        (.clause { field := "f", relation := "=", term := "t", choice := {}, range := some ⟨1, 2⟩ })
        (.clause (.ofTerm "" {})))) ∧
    ∃ e, Node.ofFq (Node.toFq (Nat.repeat
        (fun n => .boolean { op := .and } n (.clause (.ofTerm "b" {}))) 127
        (.clause (.ofTerm "a" {}))) {}) {} = .error e ∧ e.kind = .invalidFqJson := by
  have blank : Fq.Layout.Blank {} := ⟨List.all_eq_true.mp rfl, List.all_eq_true.mp rfl⟩
  constructor
  · refine ⟨_, rfl, ?_⟩
    exact (fq_round_trip (by decide) (by decide +kernel) (by decide) blank).2 (by decide +kernel)
  · have fits : ∀ p ∈ (Nat.repeat (fun n => Node.boolean { op := .and } n
        (.clause (.ofTerm "b" {}))) 127 (.clause (.ofTerm "a" {}))).positions, p ≤ maxWord := by
      decide +kernel
    have deep := depth_le_nesting fits blank
    exact (fq_round_trip (by decide +kernel) (by decide +kernel) fits blank).1
      (Nat.le_trans (by decide +kernel) deep)

end ContextualQuery
