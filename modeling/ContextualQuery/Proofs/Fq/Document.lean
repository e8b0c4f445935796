import ContextualQuery.Fq.Writer
import ContextualQuery.Proofs.Json.Spelling

/-!
# The document that FQ text writes

FQ text spells a JSON value that can be read off the tree, whatever the layout.

* `textOnto_eq`: the loop over left operands writes a node from its operands, one level deeper;
* `Node.document`: the value that a tree is written as;
* `Node.fqHeight`: how many arrays and objects nest in its text;
* `spells_nodeText_height`, `spells_nodeText`: FQ text spells that value, and nests so deep.
-/
namespace ContextualQuery

/-- The ends of a span, if there is one. -/
def spanPositions : Option Span → List Nat
  | none => []
  | some r => [r.start, r.stop]

/-- The positions that are written for a tree: those of its nodes, not those of modifiers. -/
def Node.positions : Node → List Nat
  | .clause c => c.pos.toList ++ spanPositions c.range ++ c.relationPos.toList
  | .boolean k left right =>
    k.pos.toList ++ spanPositions k.range ++ left.positions ++ right.positions

/-- The number of nodes from the root to the deepest clause. -/
def Node.depth : Node → Nat
  | .clause _ => 1
  | .boolean _ left right => max left.depth right.depth + 1

namespace Fq

open Json (Spells SpellsMore)

/-- The text of a node whose operands stand one level deeper. -/
def nodeText (layout : Layout) : Node → Nat → String
  | .clause c, _ => clauseText c
  | .boolean k left right, level =>
    openBoolean layout (level + 1) k ++ nodeText layout left (level + 1) ++
      closeBoolean layout (level + 1) (nodeText layout right (level + 1))

theorem textOnto_eq (layout : Layout) (n : Node) (level : Nat) (opened : String)
    (pending : List String) :
    textOnto layout n level opened pending =
      opened ++ nodeText layout n level ++ String.join pending := by
  induction n generalizing level opened pending with
  | clause c => rfl
  | boolean k left right ihl ihr =>
    simp only [textOnto, ihl, ihr, nodeText, String.join_cons, String.join_nil, String.append_assoc,
      String.empty_append, String.append_empty]

theorem toFq_eq (layout : Layout) (n : Node) : n.toFq layout = nodeText layout n 0 := by
  rw [Node.toFq, textOnto_eq]
  simp

def modifierJson (m : Modifier) : Json :=
  if m.isFlag then .bool true
  else if m.relation = "=" then .string m.value
  else .object [("relation", .string (Relation.toWord m.relation)), ("value", .string m.value)]

/-- The members for modifiers, given the keys reserved for other uses. -/
def modifierDocument (reserved : List String) (ms : List Modifier) : List (String × Json) :=
  (ms.filter (isWritten reserved)).map fun m => (m.name, modifierJson m)

def posDocument (key : String) : Option Nat → List (String × Json)
  | none => []
  | some n => [(key, .ofNat n)]

def rangeDocument : Option Span → List (String × Json)
  | none => []
  | some r => [("@range", .array [.ofNat r.start, .ofNat r.stop])]

/-- The member that is written only if it says something. -/
def optionalDocument (isWritten : Bool) (key text : String) : List (String × Json) :=
  if isWritten then [(key, .string text)] else []

/-- The members of a clause, in the order they are written. -/
def clauseDocument (c : SearchClause) : List (String × Json) :=
  ("term", .string c.term) ::
    (optionalDocument c.hasExplicitField "field" c.field ++
    (optionalDocument c.hasExplicitRelation "relation" (Relation.toWord c.relation) ++
    (modifierDocument clauseReserved c.modifiers ++
    (posDocument "@pos" c.pos ++ (rangeDocument c.range ++
      posDocument "relation@pos" c.relationPos)))))

/-- The members of a boolean node with given operands. -/
def booleanDocument (k : Connective) (left right : Json) : List (String × Json) :=
  ("op", .string k.op.keyword) ::
    (modifierDocument booleanReserved k.modifiers ++
    (posDocument "@pos" k.pos ++ (rangeDocument k.range ++ [("s1", left), ("s2", right)])))

/-- The levels of the value of a modifier: an object has one, a flag or a string none. -/
def modifierHeight (m : Modifier) : Nat := if m.isFlag ∨ m.relation = "=" then 0 else 1

/-- The most levels of the modifiers that are written. -/
def modifiersHeight (reserved : List String) (ms : List Modifier) : Nat :=
  ((ms.filter (isWritten reserved)).map modifierHeight).foldr max 0

/-- The levels of a range: a pair has one. -/
def rangeHeight (range : Option Span) : Nat := if range.isSome then 1 else 0

end Fq

/-- The number of arrays and objects that nest in the text of a tree. -/
def Node.fqHeight : Node → Nat
  | .clause c =>
    max (Fq.modifiersHeight Fq.clauseReserved c.modifiers) (Fq.rangeHeight c.range) + 1
  | .boolean k left right =>
    max (max (Fq.modifiersHeight Fq.booleanReserved k.modifiers) (Fq.rangeHeight k.range))
      (max left.fqHeight right.fqHeight) + 1

theorem Node.depth_le_fqHeight (n : Node) : n.depth ≤ n.fqHeight := by
  induction n with
  | clause c => exact Nat.le_add_left _ _
  | boolean k left right ihl ihr =>
    rw [Node.depth, Node.fqHeight]
    omega

def Node.document : Node → Json
  | .clause c => .object (Json.assignAll (Fq.clauseDocument c))
  | .boolean k left right =>
    .object (Json.assignAll (Fq.booleanDocument k left.document right.document))

namespace Fq

open Json (Spells SpellsMore)

theorem spells_memberText (key : String) {text : String} {v : Json} {height : Nat}
    (spells : Spells text.toList v height) :
    SpellsMore Json.members (memberText key text).toList [(key, v)] height := by
  have chars : (memberText key text).toList =
      ',' :: ([' '] ++ '"' :: Json.afterMark key text.toList) := by
    simp [memberText, Json.stringText, Json.afterMark]
  rw [chars]
  exact .entry (List.all_eq_true.mp rfl) (spells.member key)

theorem spells_optional (isWritten : Bool) (key text : String) :
    SpellsMore Json.members (if isWritten then memberText key (Json.stringText text) else "").toList
      (optionalDocument isWritten key text) 0 := by
  cases isWritten with
  | false => exact .nil
  | true => exact spells_memberText key (Json.spells_string text)

/-- An object whose first key needs no escapes. -/
theorem spells_objectText (key : String) (plain : key.toList.flatMap Json.escapeChar = key.toList)
    {opening text more : String} (opens : opening = "\x7b\"" ++ key ++ "\": ") {v : Json}
    {ms : List (String × Json)} {h k : Nat} (first : Spells text.toList v h)
    (others : SpellsMore Json.members more.toList ms k) :
    Spells (opening ++ text ++ more ++ "\x7d").toList (.object (Json.assignAll ((key, v) :: ms)))
      (max h k + 1) := by
  have chars : (opening ++ text ++ more ++ "\x7d").toList =
      '\x7b' :: ([] ++ ('"' :: Json.afterMark key text.toList ++
        (more.toList ++ ([] ++ ['\x7d'])))) := by
    simp [opens, Json.afterMark, plain]
  rw [chars]
  exact Json.brackets_object.spells_cons (List.forall_mem_nil _) (List.forall_mem_nil _)
    (first.member key) others

theorem spells_modifierValue (m : Modifier) :
    Spells (modifierValue m).toList (modifierJson m) (modifierHeight m) := by
  unfold modifierValue modifierJson modifierHeight
  by_cases flag : m.isFlag
  · simp only [flag, ↓reduceIte, true_or]
    exact Json.spells_bool true
  · by_cases equals : m.relation = "="
    · simp only [flag, equals, ↓reduceIte, or_true]
      exact Json.spells_string m.value
    · simp only [flag, equals, ↓reduceIte]
      have value := spells_memberText "value" (Json.spells_string m.value)
      exact spells_objectText "relation" rfl rfl
        (Json.spells_string (Relation.toWord m.relation)) value

theorem spells_modifierMembers (reserved : List String) (ms : List Modifier) :
    SpellsMore Json.members (modifierMembers reserved ms).toList (modifierDocument reserved ms)
      (modifiersHeight reserved ms) := by
  unfold modifierMembers modifierDocument modifiersHeight
  induction ms.filter (isWritten reserved) with
  | nil => exact .nil
  | cons m ms ih =>
    rw [List.map_cons, String.join_cons, String.toList_append]
    exact (spells_memberText m.name (spells_modifierValue m)).append ih

theorem spells_posMember (key : String) {pos : Option Nat}
    (fits : ∀ p ∈ pos.toList, p ≤ maxWord) :
    SpellsMore Json.members (posMember key pos).toList (posDocument key pos) 0 := by
  cases pos with
  | none => exact .nil
  | some n => exact spells_memberText key (Json.spells_word (fits n (by simp)))

theorem spells_rangeMember {range : Option Span} (fits : ∀ p ∈ spanPositions range, p ≤ maxWord) :
    SpellsMore Json.members (rangeMember range).toList (rangeDocument range)
      (rangeHeight range) := by
  cases range with
  | none => exact .nil
  | some r =>
    have start := Json.spells_word (fits r.start (by simp [spanPositions]))
    have stop := Json.spells_word (fits r.stop (by simp [spanPositions]))
    have chars : ("[" ++ toString r.start ++ ", " ++ toString r.stop ++ "]").toList =
        '[' :: ([] ++ ((toString r.start).toList ++
          (',' :: ([' '] ++ (toString r.stop).toList) ++ ([] ++ [']'])))) := by
      simp
    refine spells_memberText "@range" ?_
    rw [chars]
    exact Json.brackets_array.spells_cons (List.forall_mem_nil _) (List.forall_mem_nil _) start.item
      (.entry (List.all_eq_true.mp rfl) stop.item)

theorem spells_clauseText {c : SearchClause}
    (fits : ∀ p ∈ (Node.clause c).positions, p ≤ maxWord) :
    Spells (clauseText c).toList (Node.clause c).document (Node.clause c).fqHeight := by
  simp only [Node.positions, List.mem_append, or_imp, forall_and] at fits
  obtain ⟨⟨pos, range⟩, relationPos⟩ := fits
  have field := spells_optional c.hasExplicitField "field" c.field
  have relation := spells_optional c.hasExplicitRelation "relation" (Relation.toWord c.relation)
  have modifiers := spells_modifierMembers clauseReserved c.modifiers
  have pos := spells_posMember "@pos" pos
  have range := spells_rangeMember range
  have relationPos := spells_posMember "relation@pos" relationPos
  have members := field.append (relation.append (modifiers.append (pos.append
    (range.append relationPos))))
  simp only [← String.toList_append] at members
  have opens : "\x7b\"term\": " = "\x7b\"" ++ "term" ++ "\": " := rfl
  have spells := spells_objectText "term" rfl opens (Json.spells_string c.term) members
  unfold clauseText Node.fqHeight
  simp only [String.append_assoc, Nat.zero_max, Nat.max_zero] at spells ⊢
  exact spells

structure Layout.Blank (layout : Layout) : Prop where
  indent : ∀ c ∈ layout.indent.toList, Json.isSpace c = true
  newline : ∀ c ∈ layout.newline.toList, Json.isSpace c = true

theorem Layout.Blank.line {layout : Layout} (blank : layout.Blank) (level : Nat) :
    ∀ c ∈ (layout.line level).toList, Json.isSpace c = true := by
  intro c hc
  simp only [Layout.line, String.toList_append, List.mem_append] at hc
  obtain hc | hc := hc
  · exact blank.newline c hc
  · rw [String.toList_join] at hc
    obtain ⟨s, hs, hc⟩ := List.mem_flatMap.mp hc
    rw [List.eq_of_mem_replicate hs] at hc
    exact blank.indent c hc

theorem spells_operand {layout : Layout} (blank : layout.Blank) (level : Nat) (key : String)
    (plain : key.toList.flatMap Json.escapeChar = key.toList) {mark text : String}
    (marks : mark = "\"" ++ key ++ "\": ") {v : Json} {height : Nat}
    (spells : Spells text.toList v height) :
    SpellsMore Json.members ("," ++ layout.line level ++ mark ++ text).toList [(key, v)]
      height := by
  have chars : ("," ++ layout.line level ++ mark ++ text).toList =
      ',' :: ((layout.line level).toList ++ '"' :: Json.afterMark key text.toList) := by
    simp [marks, Json.afterMark, plain]
  rw [chars]
  exact .entry (blank.line level) (spells.member key)

/-- FQ text spells the document of the tree, whatever its layout. -/
theorem spells_nodeText_height {layout : Layout} (blank : layout.Blank) {n : Node}
    (fits : ∀ p ∈ n.positions, p ≤ maxWord) (level : Nat) :
    Spells (nodeText layout n level).toList n.document n.fqHeight := by
  induction n generalizing level with
  | clause c => exact spells_clauseText fits
  | boolean k left right ihl ihr =>
    simp only [Node.positions, List.mem_append, or_imp, forall_and] at fits
    obtain ⟨⟨⟨pos, range⟩, fitsLeft⟩, fitsRight⟩ := fits
    have left := ihl fitsLeft (level + 1)
    have right := ihr fitsRight (level + 1)
    have modifiers := spells_modifierMembers booleanReserved k.modifiers
    have pos := spells_posMember "@pos" pos
    have range := spells_rangeMember range
    have first : "\"s1\": " = "\"" ++ "s1" ++ "\": " := rfl
    have second : "\"s2\": " = "\"" ++ "s2" ++ "\": " := rfl
    have members := modifiers.append (pos.append (range.append
      ((spells_operand blank (level + 1) "s1" rfl first left).append
        (spells_operand blank (level + 1) "s2" rfl second right))))
    simp only [← String.toList_append] at members
    have opens : "\x7b\"op\": " = "\x7b\"" ++ "op" ++ "\": " := rfl
    have spells := spells_objectText "op" rfl opens (Json.spells_string k.op.keyword) members
    unfold nodeText openBoolean closeBoolean Node.fqHeight
    simp only [String.append_assoc, Nat.zero_max, ← Nat.max_assoc] at spells ⊢
    exact spells

/-- FQ text nests at least as deep as the tree. -/
theorem spells_nodeText {layout : Layout} (blank : layout.Blank) {n : Node}
    (fits : ∀ p ∈ n.positions, p ≤ maxWord) (level : Nat) :
    ∃ height, n.depth ≤ height ∧ Spells (nodeText layout n level).toList n.document height :=
  ⟨n.fqHeight, n.depth_le_fqHeight, spells_nodeText_height blank fits level⟩

end Fq
end ContextualQuery
