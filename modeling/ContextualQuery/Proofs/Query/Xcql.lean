import ContextualQuery.Proofs.Query.Markup
import ContextualQuery.Proofs.Query.Tree

namespace ContextualQuery

/-- The clause, as if it had been read against the usual choice of the server. -/
def SearchClause.withoutChoice (c : SearchClause) : SearchClause := { c with choice := {} }

/-- The tree without the server's choice of its clauses. -/
def Node.withoutChoice : Node → Node
  | .clause c => .clause c.withoutChoice
  | .boolean k left right => .boolean k left.withoutChoice right.withoutChoice

theorem BooleanOp.keyword_inj {op op' : BooleanOp} (same : op.keyword = op'.keyword) :
    op = op' := by
  cases op <;> cases op' <;> first | rfl | exact absurd same (by decide)

end ContextualQuery

namespace ContextualQuery.Xcql

def connectiveLines (level : Nat) (k : Connective) : List Line :=
  element level "boolean"
    (⟨level + 1, .leaf "value" k.op.keyword⟩ :: modifiersLines (level + 1) k.modifiers)

def nodeLines : Node → Nat → List Line
  | .clause c, level => clauseLines level c
  | .boolean k left right, level =>
    element level "triple" <|
      connectiveLines (level + 1) k ++
        (element (level + 1) "leftOperand" (nodeLines left (level + 2)) ++
          element (level + 1) "rightOperand" (nodeLines right (level + 2)))

/-- What is opened on the way down to the first clause and closed after it makes up elements. -/
theorem linesOnto_eq (n : Node) (level : Nat) (opened pending : List (List Line)) :
    linesOnto n level opened pending =
      opened.reverse.flatten ++ nodeLines n level ++ pending.flatten := by
  induction n generalizing level opened pending with
  | clause c => rfl
  | boolean k left right ihl ihr =>
    rw [linesOnto, ihl, ihr]
    simp [nodeLines, connectiveLines, openTriple, closeTriple, element]

theorem toXcql_eq (n : Node) (indent : Char) :
    n.toXcql indent = textOf indent (nodeLines n 0) := by
  rw [Node.toXcql, linesOnto_eq]
  simp

theorem elements_leafUnlessEmpty (level : Nat) (tag : String) (named : IsName tag)
    (text : String) : Elements (leafUnlessEmpty level tag text) := by
  unfold leafUnlessEmpty
  split
  · exact .nil
  · exact .leaf level tag text named .nil

theorem elements_modifierLines (level : Nat) (m : Modifier) : Elements (modifierLines level m) := by
  refine .single level "modifier" (by decide) (List.cons_ne_nil _ _) ?_
  refine .leaf _ "name" _ (by decide) ?_
  exact (elements_leafUnlessEmpty _ "relation" (by decide) _).append
    (elements_leafUnlessEmpty _ "value" (by decide) _)

theorem elements_flatMap_modifierLines (level : Nat) (ms : List Modifier) :
    Elements (ms.flatMap (modifierLines level)) := by
  induction ms with
  | nil => exact .nil
  | cons m ms ih => exact (elements_modifierLines level m).append ih

theorem elements_modifiersLines (level : Nat) (ms : List Modifier) :
    Elements (modifiersLines level ms) := by
  unfold modifiersLines
  cases ms with
  | nil => exact .nil
  | cons m ms =>
    refine .single level "modifiers" (by decide) ?_ (elements_flatMap_modifierLines _ _)
    simp [modifierLines, element]

theorem elements_contextSetLines (level : Nat) (uri : String) :
    Elements (contextSetLines level uri) := by
  unfold contextSetLines
  split
  · exact .nil
  · refine .single level "prefixes" (by decide) (by simp [element]) ?_
    refine .single _ "prefix" (by decide) (by simp) ?_
    exact .leaf _ "identifier" uri (by decide) .nil

theorem elements_clauseLines (level : Nat) (c : SearchClause) : Elements (clauseLines level c) := by
  have relation : Elements (element (level + 1) "relation" (
      leafUnlessEmpty (level + 2) "identifier" c.relationUri ++
        ⟨level + 2, .leaf "value" c.relation⟩ :: modifiersLines (level + 2) c.modifiers)) := by
    refine .single _ "relation" (by decide) (by simp) ?_
    refine (elements_leafUnlessEmpty _ "identifier" (by decide) _).append ?_
    exact .leaf _ "value" _ (by decide) (elements_modifiersLines _ _)
  refine .single level "searchClause" (by decide) (by simp) ?_
  refine (elements_contextSetLines _ _).append (.leaf _ "index" _ (by decide) ?_)
  exact relation.append (.leaf _ "term" _ (by decide) .nil)

theorem elements_connectiveLines (level : Nat) (k : Connective) :
    Elements (connectiveLines level k) := by
  refine .single level "boolean" (by decide) (by simp) ?_
  exact .leaf _ "value" _ (by decide) (elements_modifiersLines _ _)

theorem nodeLines_ne_nil (n : Node) (level : Nat) : nodeLines n level ≠ [] := by
  cases n <;> simp [nodeLines, clauseLines, element]

/-- The lines of a tree are nested elements. -/
theorem elements_nodeLines (n : Node) (level : Nat) : Elements (nodeLines n level) := by
  induction n generalizing level with
  | clause c => exact elements_clauseLines level c
  | boolean k left right ihl ihr =>
    refine .single level "triple" (by decide) (by simp [connectiveLines, element]) ?_
    refine (elements_connectiveLines _ _).append (.append ?_ ?_)
    · exact .single _ "leftOperand" (by decide) (nodeLines_ne_nil left _) (ihl _)
    · exact .single _ "rightOperand" (by decide) (nodeLines_ne_nil right _) (ihr _)

theorem element_append (level : Nat) (tag : String) (body rest : List Line) :
    element level tag body ++ rest =
      ⟨level, .openTag tag⟩ :: (body ++ ⟨level, .closeTag tag⟩ :: rest) := by
  simp [element]

/-- The lines inside an element, with what ends it. -/
theorem inside_of_element_append {level : Nat} {tag : String} {body body' rest rest' : List Line}
    (same : element level tag body ++ rest = element level tag body' ++ rest') :
    body ++ ⟨level, .closeTag tag⟩ :: rest = body' ++ ⟨level, .closeTag tag⟩ :: rest' := by
  rw [element_append, element_append] at same
  exact (List.cons.inj same).2

theorem leaf_cons_inj {level : Nat} {tag text text' : String} {rest rest' : List Line}
    (same : (⟨level, .leaf tag text⟩ : Line) :: rest = ⟨level, .leaf tag text'⟩ :: rest') :
    text = text' ∧ rest = rest' := by
  simpa using same

/-- A leaf that is left out is missed where no other of its name can follow. -/
theorem leafUnlessEmpty_append_inj {level : Nat} {tag text text' : String}
    {rest rest' : List Line} (other : ∀ line ∈ rest.head?, line.markup.name ≠ tag)
    (other' : ∀ line ∈ rest'.head?, line.markup.name ≠ tag)
    (same : leafUnlessEmpty level tag text ++ rest = leafUnlessEmpty level tag text' ++ rest') :
    text = text' ∧ rest = rest' := by
  unfold leafUnlessEmpty at same
  split at same <;> split at same
  · rename_i empty empty'
    rw [String.isEmpty_iff] at empty empty'
    exact ⟨empty.trans empty'.symm, same⟩
  · rw [List.nil_append] at same
    exact absurd rfl (other ⟨level, .leaf tag text'⟩ (by simp [same]))
  · rw [List.nil_append] at same
    exact absurd rfl (other' ⟨level, .leaf tag text⟩ (by simp [← same]))
  · exact leaf_cons_inj same

theorem name_head_leafUnlessEmpty {level : Nat} {tag text other : String} {rest : List Line}
    (tag_ne : tag ≠ other) (rest_ne : ∀ line ∈ rest.head?, line.markup.name ≠ other) :
    ∀ line ∈ (leafUnlessEmpty level tag text ++ rest).head?, line.markup.name ≠ other := by
  unfold leafUnlessEmpty
  split
  · exact rest_ne
  · simpa [Markup.name] using tag_ne

theorem modifierLines_append_inj {level : Nat} {m m' : Modifier} {rest rest' : List Line}
    (same : modifierLines level m ++ rest = modifierLines level m' ++ rest') :
    m.withoutPositions = m'.withoutPositions ∧ rest = rest' := by
  have inside := inside_of_element_append same
  simp only [List.cons_append, List.append_assoc] at inside
  obtain ⟨name, inside⟩ := leaf_cons_inj inside
  obtain ⟨relation, inside⟩ := leafUnlessEmpty_append_inj
    (name_head_leafUnlessEmpty (by decide) (by simp [Markup.name]))
    (name_head_leafUnlessEmpty (by decide) (by simp [Markup.name])) inside
  obtain ⟨value, after⟩ := leafUnlessEmpty_append_inj (by simp [Markup.name])
    (by simp [Markup.name]) inside
  refine ⟨?_, (List.cons.inj after).2⟩
  rw [Modifier.withoutPositions, Modifier.withoutPositions, name, relation, value]

/-- Modifiers end where an element is closed. -/
theorem flatMap_modifierLines_append_inj {level level' : Nat} {tag : String}
    {ms ms' : List Modifier} {rest rest' : List Line}
    (same : ms.flatMap (modifierLines level) ++ ⟨level', .closeTag tag⟩ :: rest =
      ms'.flatMap (modifierLines level) ++ ⟨level', .closeTag tag⟩ :: rest') :
    ms.map Modifier.withoutPositions = ms'.map Modifier.withoutPositions ∧ rest = rest' := by
  induction ms generalizing ms' with
  | nil =>
    cases ms' with
    | nil => exact ⟨rfl, (List.cons.inj same).2⟩
    | cons m' ms' => simp [modifierLines, element] at same
  | cons m ms ih =>
    cases ms' with
    | nil => simp [modifierLines, element] at same
    | cons m' ms' =>
      rw [List.flatMap_cons, List.flatMap_cons, List.append_assoc, List.append_assoc] at same
      obtain ⟨first, others⟩ := modifierLines_append_inj same
      obtain ⟨others, after⟩ := ih others
      exact ⟨by rw [List.map_cons, List.map_cons, first, others], after⟩

theorem modifiersLines_append_inj {level level' : Nat} {tag : String}
    {ms ms' : List Modifier} {rest rest' : List Line}
    (same : modifiersLines level ms ++ ⟨level', .closeTag tag⟩ :: rest =
      modifiersLines level ms' ++ ⟨level', .closeTag tag⟩ :: rest') :
    ms.map Modifier.withoutPositions = ms'.map Modifier.withoutPositions ∧ rest = rest' := by
  cases ms with
  | nil =>
    cases ms' with
    | nil => exact ⟨rfl, (List.cons.inj same).2⟩
    | cons m' ms' => simp [modifiersLines, element] at same
  | cons m ms =>
    cases ms' with
    | nil => simp [modifiersLines, element] at same
    | cons m' ms' =>
      obtain ⟨modifiers, after⟩ := flatMap_modifierLines_append_inj (inside_of_element_append same)
      exact ⟨modifiers, (List.cons.inj after).2⟩

theorem contextSetLines_append_inj {level : Nat} {uri uri' field field' : String}
    {rest rest' : List Line}
    (same : contextSetLines level uri ++ ⟨level, .leaf "index" field⟩ :: rest =
      contextSetLines level uri' ++ ⟨level, .leaf "index" field'⟩ :: rest') :
    uri = uri' ∧ field = field' ∧ rest = rest' := by
  unfold contextSetLines at same
  split at same <;> split at same
  · rename_i empty empty'
    rw [String.isEmpty_iff] at empty empty'
    exact ⟨empty.trans empty'.symm, leaf_cons_inj same⟩
  · simp [element] at same
  · simp [element] at same
  · obtain ⟨uris, after⟩ := leaf_cons_inj
      (inside_of_element_append (inside_of_element_append same))
    exact ⟨uris, leaf_cons_inj (List.cons.inj (List.cons.inj after).2).2⟩

theorem clauseLines_append_inj {level : Nat} {c c' : SearchClause} {rest rest' : List Line}
    (same : clauseLines level c ++ rest = clauseLines level c' ++ rest') :
    c.withoutPositions.withoutChoice = c'.withoutPositions.withoutChoice ∧ rest = rest' := by
  have inside := inside_of_element_append same
  simp only [List.cons_append, List.append_assoc] at inside
  obtain ⟨fieldUri, field, inside⟩ := contextSetLines_append_inj inside
  have relation := inside_of_element_append inside
  simp only [List.cons_append, List.append_assoc] at relation
  obtain ⟨relationUri, relation⟩ := leafUnlessEmpty_append_inj (by simp [Markup.name])
    (by simp [Markup.name]) relation
  obtain ⟨relation, after⟩ := leaf_cons_inj relation
  obtain ⟨modifiers, after⟩ := modifiersLines_append_inj after
  obtain ⟨term, after⟩ := leaf_cons_inj after
  refine ⟨?_, (List.cons.inj after).2⟩
  simp only [SearchClause.withoutPositions, SearchClause.withoutChoice, fieldUri, field,
    relationUri, relation, modifiers, term]

theorem connectiveLines_append_inj {level : Nat} {k k' : Connective} {rest rest' : List Line}
    (same : connectiveLines level k ++ rest = connectiveLines level k' ++ rest') :
    k.withoutPositions = k'.withoutPositions ∧ rest = rest' := by
  have inside := inside_of_element_append same
  simp only [List.cons_append] at inside
  obtain ⟨keyword, inside⟩ := leaf_cons_inj inside
  obtain ⟨modifiers, after⟩ := modifiersLines_append_inj inside
  refine ⟨?_, after⟩
  rw [Connective.withoutPositions, Connective.withoutPositions, BooleanOp.keyword_inj keyword,
    modifiers]

/-- The lines of a tree tell the tree, but for positions and the server's choice. -/
theorem nodeLines_append_inj {level : Nat} {n n' : Node} {rest rest' : List Line}
    (same : nodeLines n level ++ rest = nodeLines n' level ++ rest') :
    n.withoutPositions.withoutChoice = n'.withoutPositions.withoutChoice ∧ rest = rest' := by
  induction n generalizing n' level rest rest' with
  | clause c =>
    cases n' with
    | clause c' =>
      obtain ⟨clause, after⟩ := clauseLines_append_inj same
      exact ⟨congrArg Node.clause clause, after⟩
    | boolean k' left' right' => simp [nodeLines, clauseLines, element] at same
  | boolean k left right ihl ihr =>
    cases n' with
    | clause c' => simp [nodeLines, clauseLines, element] at same
    | boolean k' left' right' =>
      have inside := inside_of_element_append same
      simp only [List.append_assoc] at inside
      obtain ⟨connective, inside⟩ := connectiveLines_append_inj inside
      obtain ⟨lefts, inside⟩ := ihl (inside_of_element_append inside)
      obtain ⟨rights, after⟩ := ihr (inside_of_element_append (List.cons.inj inside).2)
      refine ⟨?_, (List.cons.inj (List.cons.inj after).2).2⟩
      rw [Node.withoutPositions_boolean, Node.withoutPositions_boolean, Node.withoutChoice,
        Node.withoutChoice, connective, lefts, rights]

theorem modifiersLines_withoutPositions (level : Nat) (ms : List Modifier) :
    modifiersLines level (ms.map Modifier.withoutPositions) = modifiersLines level ms := by
  rw [modifiersLines, modifiersLines, List.isEmpty_map, List.flatMap_map]
  rfl

theorem nodeLines_withoutPositions (n : Node) (level : Nat) :
    nodeLines n.withoutPositions level = nodeLines n level := by
  induction n generalizing level with
  | clause c =>
    change clauseLines level c.withoutPositions = clauseLines level c
    simp only [clauseLines, SearchClause.withoutPositions, modifiersLines_withoutPositions]
  | boolean k left right ihl ihr =>
    rw [Node.withoutPositions_boolean, nodeLines, nodeLines, ihl, ihr, connectiveLines,
      connectiveLines, Connective.withoutPositions, modifiersLines_withoutPositions]

theorem nodeLines_withoutChoice (n : Node) (level : Nat) :
    nodeLines n.withoutChoice level = nodeLines n level := by
  induction n generalizing level with
  | clause c => rfl
  | boolean k left right ihl ihr => rw [Node.withoutChoice, nodeLines, nodeLines, ihl, ihr]

theorem nodeLines_forget (n : Node) (level : Nat) :
    nodeLines n.withoutPositions.withoutChoice level = nodeLines n level := by
  rw [nodeLines_withoutChoice, nodeLines_withoutPositions]

/-- A tree as XML is a text of nested tags with escaped text in its leaves, and two trees are
written alike only if they differ in nothing but positions and the server's choice. -/
theorem toXcql_faithful (indent : Char) (margin : indent ≠ '<') :
    (∀ n : Node, ∃ ms, marks? (n.toXcql indent).toList = some ms ∧
      nested [] (ms.map Mark.tag) = true ∧ ∀ text ∈ leafTexts ms, Escaped text) ∧
    ∀ n n' : Node, n.toXcql indent = n'.toXcql indent ↔
      n.withoutPositions.withoutChoice = n'.withoutPositions.withoutChoice := by
  constructor
  · intro n
    have elements := elements_nodeLines n 0
    refine ⟨marksOf indent [] (nodeLines n 0), ?_, ?_, ?_⟩
    · rw [toXcql_eq]
      exact marks?_textOf margin elements.isName [] (by simp)
    · rw [tags_marksOf]
      simpa [nested] using elements.nested_append [] []
    · intro text htext
      rw [leafTexts, leafTextsAfter_marksOf indent elements.filled [] false (by simp)] at htext
      obtain ⟨content, -, rfl⟩ := List.mem_map.mp htext
      exact escaped_escape content
  · intro n n'
    rw [toXcql_eq, toXcql_eq]
    constructor
    · intro same
      have lines := (elements_nodeLines n 0).eq_of_textOf margin (elements_nodeLines n' 0) same
      exact (nodeLines_append_inj (congrArg (· ++ []) lines)).1
    · intro same
      rw [← nodeLines_forget n, same, nodeLines_forget]

/-- Markup in every text and a margin that looks like a reference. A second tree differs in a
position and a server's choice, a third one in where the text of a modifier stands. -/
theorem toXcql_faithful_markup :
    ∃ n n' n'' : Node,
      n = .boolean
        { op := .prox, pos := some 3
          modifiers := [{ name := "a", value := "</value>" }, .ofFlag "a"] }
        (.clause { SearchClause.ofTerm "</term>\n&<term>" {} with fieldUri := "&amp;" })
        (.clause (.ofTerm "" {})) ∧
      n' = .boolean
        { op := .prox, modifiers := [{ name := "a", value := "</value>" }, .ofFlag "a"] }
        (.clause { SearchClause.ofTerm "</term>\n&<term>" {} with
          fieldUri := "&amp;", choice := ⟨"f", "="⟩ })
        (.clause (.ofTerm "" {})) ∧
      n'' = .boolean
        { op := .prox, modifiers := [{ name := "a", relation := "</value>" }, .ofFlag "a"] }
        (.clause { SearchClause.ofTerm "</term>\n&<term>" {} with fieldUri := "&amp;" })
        (.clause (.ofTerm "" {})) ∧
      (∃ ms, marks? (n.toXcql '&').toList = some ms ∧ nested [] (ms.map Mark.tag) = true ∧
        ∀ text ∈ leafTexts ms, Escaped text) ∧
      n.toXcql '&' = n'.toXcql '&' ∧ n.toXcql '&' ≠ n''.toXcql '&' := by
  obtain ⟨tags, tell⟩ := toXcql_faithful '&' (by decide)
  refine ⟨_, _, _, rfl, rfl, rfl, tags _, (tell _ _).mpr (by decide), ?_⟩
  exact mt (tell _ _).mp (by decide)

end ContextualQuery.Xcql
