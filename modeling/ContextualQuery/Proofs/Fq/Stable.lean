import ContextualQuery.Proofs.Fq.Canonical
import ContextualQuery.Proofs.Fq.RoundTrip
import ContextualQuery.Proofs.Json.Bounds
import Mathlib.Data.List.MinMax
import Mathlib.Order.Nat

/-!
# Trips through FQ

A tree that was read from FQ text can be written as FQ text and read again. The first trip may lose
modifiers, and nothing else; a second trip loses nothing.

* `Node.Accepted`: what holds of every tree that FQ text of so many levels gives;
* `Fq.node_accepted`: its own FQ text has no more levels;
* `Node.fqNormal_fqNormal`: what a trip leaves of a tree, every trip leaves;
* `fq_trip_settles`: so the second trip gives what the first one gave.
-/
namespace ContextualQuery

/-- A tree as FQ text that nests `levels` deep gives it when it is read against a server's
choice. -/
structure Node.Accepted (choice : ServerChoice) (levels : Nat) (n : Node) : Prop where
  decoded : n.Decoded choice
  related : ∀ c ∈ n.clauses,
    c.relation = choice.relation ∨ Relation.toSymbol c.relation = c.relation
  fits : ∀ p ∈ n.positions, p ≤ maxWord
  height : n.fqHeight ≤ levels

namespace Fq

open Json (Within)

/-- A relation is its own symbol, or has one of the six. -/
theorem toSymbol_cases (relation : String) :
    Relation.toSymbol relation = relation ∨
      Relation.toSymbol relation ∈ Relation.spellings.map (·.1) := by
  unfold Relation.toSymbol
  cases found : Relation.symbolOf? relation with
  | none => exact .inl rfl
  | some symbol =>
    obtain ⟨spelling, listed, rfl⟩ := Option.map_eq_some_iff.mp found
    exact .inr (List.mem_map_of_mem (List.mem_of_find?_eq_some listed))

theorem toSymbol_toSymbol (relation : String) :
    Relation.toSymbol (Relation.toSymbol relation) = Relation.toSymbol relation := by
  have symbols : ∀ s ∈ Relation.spellings.map (·.1), Relation.toSymbol s = s := by decide
  obtain same | symbol := toSymbol_cases relation
  · rw [same, same]
  · exact symbols _ symbol

theorem toSymbol_ne_empty {relation : String} (h : relation ≠ "") :
    Relation.toSymbol relation ≠ "" := by
  have symbols : ∀ s ∈ Relation.spellings.map (·.1), s ≠ "" := by decide
  obtain same | symbol := toSymbol_cases relation
  · rwa [same]
  · exact symbols _ symbol

theorem within_of_get? {levels : Nat} {members : Members}
    (inside : ∀ m ∈ members, Within levels m.2) {key : String} {v : Json}
    (h : Json.get? members key = some v) : Within levels v := by
  induction members with
  | nil => cases h
  | cons m rest ih =>
    obtain ⟨k, w⟩ := m
    rw [Json.get?, List.lookup_cons] at h
    split at h
    · cases h
      exact inside _ List.mem_cons_self
    · exact ih (fun m hm => inside m (List.mem_cons_of_mem _ hm)) h

theorem fits_of_word? {levels : Nat} {v : Json} (within : Within levels v) {n : Nat}
    (h : v.word? = some n) : n ≤ maxWord := by
  cases within with
  | number fits =>
    rename_i number
    cases number with
    | natural k =>
      cases h
      exact fits
    | negative | binary => cases h
  | null | bool | string | array | object => cases h

section Members

variable {levels : Nat} {members : Members} (inside : ∀ m ∈ members, Within levels m.2)
include inside

theorem position?_fits (key : String) : ∀ p ∈ (position? members key).toList, p ≤ maxWord := by
  intro p hp
  obtain ⟨v, found, word⟩ := Option.bind_eq_some_iff.mp (Option.mem_toList.mp hp)
  exact fits_of_word? (within_of_get? inside found) word

/-- A range stands in an array of its own. -/
theorem range?_eq_some {r : Span} (h : range? members = some r) :
    1 ≤ levels ∧ r.start ≤ maxWord ∧ r.stop ≤ maxWord := by
  unfold range? at h
  split at h
  · rename_i start stop found
    obtain ⟨first, begins, h⟩ := Option.bind_eq_some_iff.mp h
    obtain ⟨last, ends, h⟩ := Option.bind_eq_some_iff.mp h
    cases h
    cases within_of_get? inside found with
    | array within =>
      exact ⟨Nat.le_add_left _ _, fits_of_word? (within start (by simp)) begins,
        fits_of_word? (within stop (by simp)) ends⟩
  · cases h

theorem range?_fits : ∀ p ∈ spanPositions (range? members), p ≤ maxWord := by
  cases range : range? members with
  | none => simp [spanPositions]
  | some r =>
    obtain ⟨-, start, stop⟩ := range?_eq_some inside range
    simp [spanPositions, start, stop]

theorem rangeHeight_le : rangeHeight (range? members) ≤ levels := by
  cases range : range? members with
  | none => simp [rangeHeight]
  | some r => simpa [rangeHeight] using (range?_eq_some inside range).1

end Members

/-- Only an object is written as one. -/
theorem modifierHeight_le {levels : Nat} {name : String} {value : Json} {m : Modifier}
    (within : Within levels value) (h : modifier name value = .ok m) :
    modifierHeight m ≤ levels := by
  unfold modifier at h
  split at h
  · cases h
    exact Nat.zero_le _
  · cases within with
    | object =>
      unfold modifierHeight
      split <;> omega
  · obtain ⟨text, -, h⟩ := Except.bind_eq_ok_iff.mp h
    cases h
    exact Nat.zero_le _

theorem modifiersHeight_le {levels : Nat} {members : Members}
    (inside : ∀ m ∈ members, Within levels m.2) {used : List String} {ms : List Modifier}
    (h : modifiers used members = .ok ms) (reserved : List String) :
    modifiersHeight reserved ms ≤ levels := by
  have each : ∀ m ∈ ms.filter (isWritten reserved), modifierHeight m ≤ levels := by
    intro m hm
    obtain ⟨⟨key, value⟩, listed, read⟩ := Except.mem_of_mapM_eq_ok h m (List.mem_filter.mp hm).1
    exact modifierHeight_le (inside _ (List.mem_filter.mp listed).1) read
  exact List.max_le_of_forall_le _ levels (List.forall_mem_map.mpr each)

/-- The relation of a clause is the server's choice, or a symbol where there is one. -/
theorem relation_settled {members : Members} {absent relation : String}
    (h : memberOr members "relation" absent
      (fun v => (string "relation" v).map Relation.toSymbol) = .ok relation) :
    relation = absent ∨ Relation.toSymbol relation = relation := by
  unfold memberOr at h
  split at h
  · cases h
    exact .inl rfl
  · rename_i v _
    simp only at h
    cases spelled : string "relation" v with
    | error fault => simp [spelled, Except.map] at h
    | ok word =>
      rw [spelled] at h
      cases h
      exact .inr (toSymbol_toSymbol word)

theorem clause_accepted {levels : Nat} {choice : ServerChoice} {members : Members} {term : Json}
    (inside : ∀ m ∈ members, Within levels m.2) {c : SearchClause}
    (h : clause choice members term = .ok c) :
    (Node.clause c).Accepted choice (levels + 1) := by
  have decoded := clause_decoded h
  obtain ⟨text, -, h⟩ := Except.bind_eq_ok_iff.mp h
  obtain ⟨field, -, h⟩ := Except.bind_eq_ok_iff.mp h
  obtain ⟨relation, related, h⟩ := Except.bind_eq_ok_iff.mp h
  obtain ⟨ms, read, h⟩ := Except.bind_eq_ok_iff.mp h
  cases h
  refine ⟨decoded, ?_, ?_, ?_⟩
  · intro c hc
    rw [List.mem_singleton.mp hc]
    exact relation_settled related
  · intro p hp
    simp only [Node.positions, List.mem_append] at hp
    obtain (hp | hp) | hp := hp
    · exact position?_fits inside _ p hp
    · exact range?_fits inside p hp
    · exact position?_fits inside _ p hp
  · have modifiers := modifiersHeight_le inside read clauseReserved
    have range := rangeHeight_le inside
    rw [Node.fqHeight]
    simp only
    omega

theorem connective_accepted {levels : Nat} {members : Members}
    (inside : ∀ m ∈ members, Within levels m.2) {op : BooleanOp} {k : Connective}
    (h : connective op members = .ok k) :
    (∀ p ∈ k.pos.toList ++ spanPositions k.range, p ≤ maxWord) ∧
      modifiersHeight booleanReserved k.modifiers ≤ levels ∧ rangeHeight k.range ≤ levels := by
  obtain ⟨ms, read, h⟩ := Except.bind_eq_ok_iff.mp h
  cases h
  refine ⟨?_, modifiersHeight_le inside read booleanReserved, rangeHeight_le inside⟩
  intro p hp
  obtain hp | hp := List.mem_append.mp hp
  · exact position?_fits inside _ p hp
  · exact range?_fits inside p hp

/-- A tree is written in no more levels than it was read from. -/
theorem node_accepted {levels : Nat} {choice : ServerChoice} {value : Json} {n : Node}
    (within : Within levels value) (h : node choice value = .ok n) :
    n.Accepted choice levels := by
  have decoded := node_decoded h
  induction n generalizing levels value with
  | clause c =>
    obtain ⟨members, rfl, term, -, -, read⟩ := node_eq_ok h
    cases within with
    | object inside => exact clause_accepted inside read
  | boolean k left right ihl ihr =>
    obtain ⟨members, rfl, s1, s2, -, op, -, -, found1, found2, first, second, joined⟩ :=
      node_eq_ok h
    cases within with
    | object inside =>
      have leftAccepted := ihl (within_of_get? inside found1) first (node_decoded first)
      have rightAccepted := ihr (within_of_get? inside found2) second (node_decoded second)
      obtain ⟨fits, modifiers, range⟩ := connective_accepted inside joined
      refine ⟨decoded, ?_, ?_, ?_⟩
      · intro c hc
        exact (List.mem_append.mp hc).elim (leftAccepted.related c) (rightAccepted.related c)
      · intro p hp
        simp only [Node.positions, List.mem_append] at hp fits
        obtain (hp | hp) | hp := hp
        · exact fits p hp
        · exact leftAccepted.fits p hp
        · exact rightAccepted.fits p hp
      · have leftHeight := leftAccepted.height
        have rightHeight := rightAccepted.height
        rw [Node.fqHeight]
        omega

end Fq

theorem Node.accepted_of_ofFq {text : String} {choice : ServerChoice} {n : Node}
    (h : Node.ofFq text choice = .ok n) : n.Accepted choice 127 := by
  obtain ⟨value, parsed, read⟩ := Node.ofFq_eq_ok h
  exact Fq.node_accepted (Json.parse_within parsed) read

theorem Modifier.fqNormal_name (m : Modifier) : m.fqNormal.name = m.name := by
  unfold Modifier.fqNormal
  split <;> rfl

theorem Modifier.fqNormal_fqNormal (m : Modifier) : m.fqNormal.fqNormal = m.fqNormal := by
  by_cases flag : m.relation = ""
  · simp [Modifier.fqNormal, flag]
  · have symbol := Fq.toSymbol_ne_empty flag
    simp [Modifier.fqNormal, flag, symbol, Fq.toSymbol_toSymbol]

theorem fqModifiers_fqModifiers (reserved : List String) (ms : List Modifier) :
    fqModifiers reserved (fqModifiers reserved ms) = fqModifiers reserved ms := by
  have written : (fqModifiers reserved ms).filter (Fq.isWritten reserved) =
      fqModifiers reserved ms := by
    rw [List.filter_eq_self]
    intro m hm
    obtain ⟨m', listed, rfl⟩ := List.mem_map.mp hm
    have kept := (List.mem_filter.mp (mem_of_mem_lastOfEach _ listed)).2
    simpa only [Fq.isWritten, Modifier.fqNormal_name] using kept
  have distinct : ((fqModifiers reserved ms).map (·.name)).Nodup := by
    have once := nodup_lastOfEach (·.name) (ms.filter (Fq.isWritten reserved))
    rw [fqModifiers, List.map_map]
    simpa only [Function.comp_def, Modifier.fqNormal_name] using once
  rw [fqModifiers, written, lastOfEach_eq_self _ distinct, fqModifiers, List.map_map]
  exact List.map_congr_left fun m _ => m.fqNormal_fqNormal

/-- What a trip leaves of a tree, every trip leaves. -/
theorem Node.fqNormal_fqNormal (choice : ServerChoice) (n : Node) :
    (n.fqNormal choice).fqNormal choice = n.fqNormal choice := by
  induction n with
  | clause c =>
    by_cases chosen : c.relation = choice.relation
    · simp [Node.fqNormal, SearchClause.fqNormal, fqModifiers_fqModifiers, chosen]
    · simp [Node.fqNormal, SearchClause.fqNormal, fqModifiers_fqModifiers, chosen,
        Fq.toSymbol_toSymbol]
  | boolean k left right ihl ihr =>
    simp only [Node.fqNormal, Connective.fqNormal, fqModifiers_fqModifiers, ihl, ihr]

def Node.withoutModifiers : Node → Node
  | .clause c => .clause { c with modifiers := [] }
  | .boolean k left right =>
    .boolean { k with modifiers := [] } left.withoutModifiers right.withoutModifiers

/-- A trip changes nothing but the modifiers of a tree that FQ text gave. -/
theorem Node.withoutModifiers_fqNormal {choice : ServerChoice} {n : Node}
    (unqualified : ∀ c ∈ n.clauses, c.withoutUris = c)
    (related : ∀ c ∈ n.clauses,
      c.relation = choice.relation ∨ Relation.toSymbol c.relation = c.relation) :
    (n.fqNormal choice).withoutModifiers = n.withoutModifiers := by
  induction n with
  | clause c =>
    have listed : c ∈ (Node.clause c).clauses := List.mem_singleton_self c
    have fieldUri : c.fieldUri = "" := congrArg SearchClause.fieldUri (unqualified c listed).symm
    have relationUri : c.relationUri = "" :=
      congrArg SearchClause.relationUri (unqualified c listed).symm
    have relation : (if c.relation = choice.relation then c.relation
        else Relation.toSymbol c.relation) = c.relation := by
      split
      · rfl
      · rename_i other
        exact (related c listed).resolve_left other
    simp only [Node.fqNormal, SearchClause.fqNormal, Node.withoutModifiers, relation, fieldUri,
      relationUri]
  | boolean k left right ihl ihr =>
    simp only [Node.clauses, List.mem_append, or_imp, forall_and] at unqualified related
    rw [Node.fqNormal, Node.withoutModifiers, Node.withoutModifiers,
      ihl unqualified.1 related.1, ihr unqualified.2 related.2]
    rfl

/-- A tree that FQ text gave is read back as its normal form. -/
theorem Node.Accepted.ofFq_toFq {choice : ServerChoice} {n : Node}
    (accepted : n.Accepted choice 127) {layout : Fq.Layout} (blank : layout.Blank) :
    Node.ofFq (n.toFq layout) choice = .ok (n.fqNormal choice) := by
  have spells := Fq.spells_nodeText_height blank accepted.fits 0
  rw [← Fq.toFq_eq] at spells
  have shallow : Json.nesting (n.toFq layout) < Fq.depthLimit := by
    rw [spells.nesting_eq]
    exact Nat.lt_succ_of_le accepted.height
  have parsed := spells.parse Fq.depthLimit shallow
  have read := Fq.node_document accepted.decoded.chosen accepted.decoded.named
  simp [Node.ofFq, isBlankText_toFq, parsed, Node.ofJson_document, read, Except.mapError]

/-- The tree that FQ text gives can be written in any layout of blanks and read again, and again.
The first trip gives a tree that differs at most in its modifiers, so it has the same shape,
operators, terms, fields and relations, and the same positions; the second trip gives exactly that
tree. -/
theorem fq_trip_settles {text : String} {choice : ServerChoice} {n : Node}
    (h : Node.ofFq text choice = .ok n) {layout layout' : Fq.Layout} (blank : layout.Blank)
    (blank' : layout'.Blank) :
    ∃ n', Node.ofFq (n.toFq layout) choice = .ok n' ∧
      n'.withoutModifiers = n.withoutModifiers ∧ Node.ofFq (n'.toFq layout') choice = .ok n' := by
  have accepted := Node.accepted_of_ofFq h
  have first := accepted.ofFq_toFq blank
  have second := (Node.accepted_of_ofFq first).ofFq_toFq blank'
  rw [Node.fqNormal_fqNormal] at second
  exact ⟨_, first,
    Node.withoutModifiers_fqNormal accepted.decoded.unqualified accepted.related, second⟩

/-- A clause with a modifier named as the operator of a boolean node, two whose names differ in case
only, one that is named as a position in capitals, and a flag with a value. The first trip leaves
two of the five. -/
theorem fq_trip_settles_lossy :
    ∃ n n' : Node,
      Node.ofFq ("\x7b\"term\":1,\"op\":\"and\",\"X\":true,\"a@POS\":\"q\",\"@range\":[1,2]," ++
        "\"x\":\x7b\"relation\":\"lt\",\"value\":2\x7d," ++
        "\"y\":\x7b\"relation\":\"\",\"value\":\"v\"\x7d\x7d")
        {} = .ok n ∧
      n.modifiers = [.ofValue "op" "=" "and", .ofFlag "x", .ofValue "a@pos" "=" "q",
        .ofValue "x" "<" "2", .ofValue "y" "" "v"] ∧
      Node.ofFq (n.toFq {}) {} = .ok n' ∧ n'.withoutModifiers = n.withoutModifiers ∧
      n'.modifiers = [.ofValue "x" "<" "2", .ofFlag "y"] ∧
      Node.ofFq (n'.toFq ⟨"", ""⟩) {} = .ok n' := by
  have read : Node.ofFq
      ("\x7b\"term\":1,\"op\":\"and\",\"X\":true,\"a@POS\":\"q\",\"@range\":[1,2]," ++
        "\"x\":\x7b\"relation\":\"lt\",\"value\":2\x7d," ++
        "\"y\":\x7b\"relation\":\"\",\"value\":\"v\"\x7d\x7d")
      {} = .ok (.clause { SearchClause.ofTerm "1" {} with
        range := some ⟨1, 2⟩
        modifiers := [.ofValue "op" "=" "and", .ofFlag "x", .ofValue "a@pos" "=" "q",
          .ofValue "x" "<" "2", .ofValue "y" "" "v"] }) := by
    decide +kernel
  have blank : Fq.Layout.Blank {} := ⟨List.all_eq_true.mp rfl, List.all_eq_true.mp rfl⟩
  have blank' : Fq.Layout.Blank ⟨"", ""⟩ := ⟨List.all_eq_true.mp rfl, List.all_eq_true.mp rfl⟩
  obtain ⟨n', first, same, second⟩ := fq_trip_settles read blank blank'
  obtain rfl := Except.ok.inj
    (first.symm.trans ((Node.accepted_of_ofFq read).ofFq_toFq blank))
  exact ⟨_, _, read, rfl, first, same, by decide +kernel, second⟩

end ContextualQuery
