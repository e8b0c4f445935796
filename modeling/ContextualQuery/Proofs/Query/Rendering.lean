import ContextualQuery.Proofs.Fq.Document
import ContextualQuery.Proofs.Query.Canonical
import ContextualQuery.Proofs.Query.Xcql

/-!
# Renderings by recursion

Canonical text, FQ and XCQL are written in a loop over left operands, which opens the nodes on the
way down and closes them on the way back. Here each of the three is written by recursion on both
operands instead, with every mark and every level in its place.

* `Node.cqlText`, `Fq.plainText`, `Xcql.plainText`: the three renderings by recursion;
* `renderings_by_recursion`: they are what the loops write.
-/
namespace ContextualQuery

theorem BooleanOp.capitals_eq_toUpper (op : BooleanOp) : op.capitals = op.keyword.toUpper := by
  cases op <;> decide +kernel

namespace Node

/-- Canonical text: the operator in capitals between the operands, of which the boolean ones stand
in parentheses. -/
def cqlText : Node → String
  | .clause c => c.toCql
  | .boolean k left right =>
    inParens left.isBoolean left.cqlText ++ " " ++ k.op.keyword.toUpper ++
      modifiersText k.modifiers ++ " " ++ inParens right.isBoolean right.cqlText

theorem toCql_eq_cqlText (n : Node) : n.toCql = n.cqlText := by
  induction n with
  | clause c => exact toCql_clause c
  | boolean k left right ihl ihr =>
    rw [toCql_boolean, operandText, operandText, ihl, ihr, Connective.toCql,
      BooleanOp.capitals_eq_toUpper]
    simp only [cqlText, String.append_assoc]

end Node

namespace Fq

def connectiveText (k : Connective) : String :=
  "\"op\": " ++ Json.stringText k.op.keyword ++ modifierMembers booleanReserved k.modifiers ++
    posMember "@pos" k.pos ++ rangeMember k.range

/-- An operand on a line of its own, indented by `level` units. -/
def operandLine (layout : Layout) (level : Nat) (key text : String) : String :=
  "," ++ layout.newline ++ String.join (List.replicate level layout.indent) ++
    "\"" ++ key ++ "\": " ++ text

/-- FQ: the operator, then the two operands on lines that are indented once more than the node, each
written one level deeper. -/
def plainText (layout : Layout) : Node → Nat → String
  | .clause c, _ => clauseText c
  | .boolean k left right, level =>
    "\x7b" ++ connectiveText k ++
      operandLine layout (level + 1) "s1" (plainText layout left (level + 1)) ++
      operandLine layout (level + 1) "s2" (plainText layout right (level + 1)) ++ "\x7d"

theorem openBoolean_append (layout : Layout) (level : Nat) (k : Connective) (text : String) :
    openBoolean layout level k ++ text =
      "\x7b" ++ connectiveText k ++ operandLine layout level "s1" text := by
  -- The equation of this definition is slow to derive, so its body is put in directly.
  delta openBoolean
  simp only [connectiveText, operandLine, Layout.line, ← String.toList_inj, String.toList_append,
    List.append_assoc]
  rfl

theorem closeBoolean_eq (layout : Layout) (level : Nat) (text : String) :
    closeBoolean layout level text = operandLine layout level "s2" text ++ "\x7d" := by
  simp only [closeBoolean, operandLine, Layout.line, ← String.toList_inj, String.toList_append,
    List.append_assoc]
  rfl

theorem nodeText_eq_plainText (layout : Layout) (n : Node) (level : Nat) :
    nodeText layout n level = plainText layout n level := by
  induction n generalizing level with
  | clause c => rfl
  | boolean k left right ihl ihr =>
    rw [nodeText, plainText, ihl, ihr, openBoolean_append, closeBoolean_eq]
    simp only [String.append_assoc]

end Fq

namespace Xcql

/-- A tag, or an element with its text, on a line of its own. -/
def lineText (indent : Char) (level : Nat) (text : String) : String :=
  String.ofList (List.replicate level indent) ++ text ++ "\n"

/-- XCQL: a triple at a level, its operator and the elements of its operands one level deeper, the
operands themselves two levels deeper. -/
def plainText (indent : Char) : Node → Nat → String
  | .clause c, level => textOf indent (clauseLines level c)
  | .boolean k left right, level =>
    lineText indent level "<triple>" ++
      lineText indent (level + 1) "<boolean>" ++
      lineText indent (level + 2) ("<value>" ++ k.op.keyword ++ "</value>") ++
      textOf indent (modifiersLines (level + 2) k.modifiers) ++
      lineText indent (level + 1) "</boolean>" ++
      lineText indent (level + 1) "<leftOperand>" ++
      plainText indent left (level + 2) ++
      lineText indent (level + 1) "</leftOperand>" ++
      lineText indent (level + 1) "<rightOperand>" ++
      plainText indent right (level + 2) ++
      lineText indent (level + 1) "</rightOperand>" ++
      lineText indent level "</triple>"

theorem textOf_cons (indent : Char) (line : Line) (lines : List Line) :
    textOf indent (line :: lines) = line.text indent ++ textOf indent lines := by
  simp [textOf]

theorem textOf_append (indent : Char) (lines lines' : List Line) :
    textOf indent (lines ++ lines') = textOf indent lines ++ textOf indent lines' := by
  simp [textOf]

/-- An element is its opening tag, its body and its closing tag. -/
theorem textOf_element (indent : Char) (level : Nat) (tag : String) (body : List Line) :
    textOf indent (element level tag body) =
      lineText indent level ("<" ++ tag ++ ">") ++ textOf indent body ++
        lineText indent level ("</" ++ tag ++ ">") := by
  rw [element, textOf_append, textOf_cons, textOf_cons]
  simp [textOf, Line.text, Markup.text, lineText]

/-- No letter of a keyword is markup. -/
theorem escape_keyword (op : BooleanOp) : escape op.keyword = op.keyword := by
  cases op <;> decide

theorem textOf_connectiveLines (indent : Char) (level : Nat) (k : Connective) :
    textOf indent (connectiveLines level k) =
      lineText indent level "<boolean>" ++
        lineText indent (level + 1) ("<value>" ++ k.op.keyword ++ "</value>") ++
        textOf indent (modifiersLines (level + 1) k.modifiers) ++
        lineText indent level "</boolean>" := by
  have value : Line.text indent ⟨level + 1, .leaf "value" k.op.keyword⟩ =
      lineText indent (level + 1) ("<value>" ++ k.op.keyword ++ "</value>") := by
    rw [Line.text, Markup.text, escape_keyword]
    simp only [lineText, String.append_assoc]
    rfl
  rw [connectiveLines, textOf_element, textOf_cons, value]
  simp only [String.append_assoc]
  rfl

theorem textOf_nodeLines (indent : Char) (n : Node) (level : Nat) :
    textOf indent (nodeLines n level) = plainText indent n level := by
  induction n generalizing level with
  | clause c => rfl
  | boolean k left right ihl ihr =>
    rw [nodeLines, textOf_element, textOf_append, textOf_append, textOf_element, textOf_element,
      textOf_connectiveLines, ihl, ihr]
    simp only [plainText, String.append_assoc]
    rfl

end Xcql

/-- Whatever the tree, the layout and the indentation, each rendering is that of a node around those
of its operands. -/
theorem renderings_by_recursion (n : Node) (layout : Fq.Layout) (indent : Char) :
    n.toCql = n.cqlText ∧ n.toFq layout = Fq.plainText layout n 0 ∧
      n.toXcql indent = Xcql.plainText indent n 0 := by
  refine ⟨n.toCql_eq_cqlText, ?_, ?_⟩
  · rw [Fq.toFq_eq, Fq.nodeText_eq_plainText]
  · rw [Xcql.toXcql_eq, Xcql.textOf_nodeLines]

end ContextualQuery
