import ContextualQuery.Query.Basic
import ContextualQuery.Token.Lexer

/-!
# Canonical text

The one spelling of a query tree as a query. Words are quoted where they would not be read back as
one word, terms are always quoted, and operands that are boolean stand in parentheses. The left
operands are followed in a loop, so that a long chain of operators takes no depth.
-/
namespace ContextualQuery

/-- The characters of a quoted text: a backslash before each double quote and backslash. -/
def escapeQuoted : List Char → List Char
  | [] => []
  | c :: cs => if c == '"' || c == '\\' then '\\' :: c :: escapeQuoted cs else c :: escapeQuoted cs

def quote (text : String) : String := String.ofList ('"' :: escapeQuoted text.toList ++ ['"'])

/-- Whether a word, unquoted, would be read as something else. -/
def needsQuotes (word : String) : Bool :=
  word.toList.isEmpty || word.toList.head?.any isQuoteMark || word.toList.any endsWord ||
    (BooleanOp.ofKeyword? word).isSome

def wordText (word : String) : String := if needsQuotes word then quote word else word

def isSymbol (relation : String) : Bool :=
  !relation.toList.isEmpty && relation.toList.all isComparisonChar

/-- A relation: a comparison stands bare, any other is written as a word. -/
def relationText (relation : String) : String :=
  if isSymbol relation then relation else wordText relation

def Modifier.toCql (m : Modifier) : String :=
  "/" ++ wordText m.name ++ if m.isFlag then "" else m.relation ++ wordText m.value

def modifiersText (ms : List Modifier) : String := String.join (ms.map Modifier.toCql)

namespace SearchClause

def writesIndex (c : SearchClause) : Bool :=
  c.hasExplicitField || c.hasExplicitRelation || !c.modifiers.isEmpty

def toCql (c : SearchClause) : String :=
  (if c.writesIndex then
    wordText c.field ++ " " ++ relationText c.relation ++ modifiersText c.modifiers ++ " "
  else "") ++ quote c.term

end SearchClause

def Connective.toCql (k : Connective) : String :=
  " " ++ k.op.capitals ++ modifiersText k.modifiers ++ " "

namespace Node

/-- Text in parentheses if it stands for a boolean node. -/
def inParens (isBoolean : Bool) (text : String) : String :=
  if isBoolean then "(" ++ text ++ ")" else text

/-- Joins written right operands to `left`, innermost first, closing the parentheses of all but
the outermost. -/
def joinCql (left : String) : List (Connective × String) → String
  | [] => left
  | [(k, right)] => left ++ k.toCql ++ right
  | (k, right) :: rest => joinCql (left ++ k.toCql ++ right ++ ")") rest

/-- Writes a node that `pending` joins with written right operands, innermost first. -/
def cqlOnto : Node → List (Connective × String) → String
  | .clause c, pending =>
    String.ofList (List.replicate (pending.length - 1) '(') ++ joinCql c.toCql pending
  | .boolean k left right, pending =>
    cqlOnto left ((k, inParens right.isBoolean (cqlOnto right [])) :: pending)

def toCql (n : Node) : String := n.cqlOnto []

end Node
end ContextualQuery
