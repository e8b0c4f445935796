import ContextualQuery.Query.Basic

/-!
# XCQL

A query tree as XML, one element or tag a line, each line indented by its depth. The left operands
are followed in a loop, so that a long chain of operators takes no depth.
-/
namespace ContextualQuery.Xcql

inductive Markup where
  | openTag (tag : String)
  | closeTag (tag : String)
  | leaf (tag text : String)
deriving DecidableEq, Inhabited

structure Line where
  level : Nat
  markup : Markup
deriving DecidableEq, Inhabited

def escapeChar (c : Char) : List Char :=
  match c with
  | '&' => "&amp;".toList
  | '<' => "&lt;".toList
  | '>' => "&gt;".toList
  | c => [c]

def escape (text : String) : String := String.ofList (text.toList.flatMap escapeChar)

def Markup.text : Markup → String
  | .openTag tag => "<" ++ tag ++ ">"
  | .closeTag tag => "</" ++ tag ++ ">"
  | .leaf tag text => "<" ++ tag ++ ">" ++ escape text ++ "</" ++ tag ++ ">"

/-- A line, indented by one `indent` for each level. -/
def Line.text (indent : Char) (line : Line) : String :=
  String.ofList (List.replicate line.level indent) ++ line.markup.text ++ "\n"

def textOf (indent : Char) (lines : List Line) : String :=
  String.join (lines.map (Line.text indent))

def element (level : Nat) (tag : String) (body : List Line) : List Line :=
  ⟨level, .openTag tag⟩ :: body ++ [⟨level, .closeTag tag⟩]

/-- The line of an element that holds text, left out if the text is empty. -/
def leafUnlessEmpty (level : Nat) (tag text : String) : List Line :=
  if text.isEmpty then [] else [⟨level, .leaf tag text⟩]

def modifierLines (level : Nat) (m : Modifier) : List Line :=
  element level "modifier" <|
    ⟨level + 1, .leaf "name" m.name⟩ ::
      (leafUnlessEmpty (level + 1) "relation" m.relation ++
        leafUnlessEmpty (level + 1) "value" m.value)

/-- The lines of all modifiers, none if there is none. -/
def modifiersLines (level : Nat) (ms : List Modifier) : List Line :=
  if ms.isEmpty then [] else element level "modifiers" (ms.flatMap (modifierLines (level + 1)))

def contextSetLines (level : Nat) (uri : String) : List Line :=
  if uri.isEmpty then []
  else element level "prefixes" <| element (level + 1) "prefix"
    [⟨level + 2, .leaf "identifier" uri⟩]

def clauseLines (level : Nat) (c : SearchClause) : List Line :=
  element level "searchClause" <|
    contextSetLines (level + 1) c.fieldUri ++
    ⟨level + 1, .leaf "index" c.field⟩ ::
      (element (level + 1) "relation" (
        leafUnlessEmpty (level + 2) "identifier" c.relationUri ++
        ⟨level + 2, .leaf "value" c.relation⟩ :: modifiersLines (level + 2) c.modifiers) ++
      [⟨level + 1, .leaf "term" c.term⟩])

/-- The lines of a triple before its left operand. -/
def openTriple (level : Nat) (k : Connective) : List Line :=
  ⟨level, .openTag "triple"⟩ ::
    (element (level + 1) "boolean"
      (⟨level + 2, .leaf "value" k.op.keyword⟩ :: modifiersLines (level + 2) k.modifiers) ++
    [⟨level + 1, .openTag "leftOperand"⟩])

/-- The lines of a triple after its left operand, around those of the right one. -/
def closeTriple (level : Nat) (right : List Line) : List Line :=
  ⟨level + 1, .closeTag "leftOperand"⟩ ::
    (element (level + 1) "rightOperand" right ++ [⟨level, .closeTag "triple"⟩])

/-- The lines of a node after those of `opened`, before those of `pending`. -/
def linesOnto : Node → Nat → List (List Line) → List (List Line) → List Line
  | .clause c, level, opened, pending =>
    opened.reverse.flatten ++ clauseLines level c ++ pending.flatten
  | .boolean k left right, level, opened, pending =>
    linesOnto left (level + 2) (openTriple level k :: opened)
      (closeTriple level (linesOnto right (level + 2) [] []) :: pending)

end ContextualQuery.Xcql

namespace ContextualQuery

def Node.toXcql (n : Node) (indent : Char) : String :=
  Xcql.textOf indent (Xcql.linesOnto n 0 [] [])

end ContextualQuery
