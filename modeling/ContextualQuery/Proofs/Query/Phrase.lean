import ContextualQuery.Proofs.Query.Reading

/-!
# Phrases

A phrase is a derivation in the grammar of queries: one constructor for each production, with a
token of the right class wherever the production has one. A word may be an operator keyword, and
`>` may be a relation or start a declaration, so a list of tokens can have several derivations.

* `tokens`: the tokens that a phrase derives;
* `Greedy`: a comparison right after the name of a modifier belongs to that modifier;
* `Settled`: the rules that choose among derivations. A word is an index exactly if a relation
  comes next, and the query after a declaration stops only where no operator lets it go on;
* `value`: the tree that a phrase stands for, chains folded to the left.
-/
namespace ContextualQuery

/-- No token comes next for which `p` holds. -/
def NextIsNot (p : Token → Bool) (ts : List Token) : Prop := ts.head?.any p = false

@[simp]
theorem nextIsNot_nil (p : Token → Bool) : NextIsNot p [] := rfl

@[simp]
theorem nextIsNot_cons (p : Token → Bool) (t : Token) (ts : List Token) :
    NextIsNot p (t :: ts) ↔ p t = false := by
  simp [NextIsNot]

namespace Token

def isKind (kind : TokenKind) (t : Token) : Bool := t.kind == kind

def isOperator (t : Token) : Bool := t.operator?.isSome

end Token

abbrev OfKind (kind : TokenKind) := { t : Token // t.isKind kind = true }

abbrev Word := { t : Token // t.isWord = true }

abbrev Operator := { t : Token // t.isOperator = true }

abbrev Symbol (symbol : String) := { t : Token // t.isComparison symbol = true }

abbrev RelationToken := { t : Token // (t.isWord || t.isKind .comparison) = true }

/-- A slash and a name, perhaps with a comparison and a value. -/
structure ModifierPhrase where
  slash : OfKind .slash
  name : Word
  setting : Option (OfKind .comparison × Word)
deriving DecidableEq

/-- A `>` and a URI, or a name, an equals sign and a URI. -/
structure DeclarationPhrase where
  mark : Symbol ">"
  first : Word
  uri : Option (Symbol "=" × Word)
deriving DecidableEq

mutual

/-- A clause, and those that operators join to it. -/
inductive QueryPhrase where
  | chain (first : ClausePhrase) (rest : ChainPhrase)

/-- Operators, each with its modifiers and its right operand. -/
inductive ChainPhrase where
  | done
  | join (operator : Operator) (modifiers : List ModifierPhrase) (operand : ClausePhrase)
      (rest : ChainPhrase)

/-- One clause, by the production that derives it. -/
inductive ClausePhrase where
  | group (opening : OfKind .openParen) (inner : QueryPhrase) (closing : OfKind .closeParen)
  | declared (declaration : DeclarationPhrase) (inner : QueryPhrase)
  | indexed (name : Word) (relation : RelationToken) (modifiers : List ModifierPhrase)
      (inner : ClausePhrase)
  | term (word : Word) (modifiers : List ModifierPhrase)

end

def ModifierPhrase.tokens (m : ModifierPhrase) : List Token :=
  m.slash.1 :: m.name.1 ::
    match m.setting with
    | none => []
    | some (comparison, value) => [comparison.1, value.1]

def modifierTokens (ms : List ModifierPhrase) : List Token := ms.flatMap ModifierPhrase.tokens

@[simp]
theorem modifierTokens_nil : modifierTokens [] = [] := rfl

@[simp]
theorem modifierTokens_cons (m : ModifierPhrase) (ms : List ModifierPhrase) :
    modifierTokens (m :: ms) = m.tokens ++ modifierTokens ms := rfl

def DeclarationPhrase.tokens (d : DeclarationPhrase) : List Token :=
  d.mark.1 :: d.first.1 ::
    match d.uri with
    | none => []
    | some (equals, uri) => [equals.1, uri.1]

mutual

def QueryPhrase.tokens : QueryPhrase → List Token
  | .chain first rest => first.tokens ++ rest.tokens

def ChainPhrase.tokens : ChainPhrase → List Token
  | .done => []
  | .join operator ms operand rest =>
    operator.1 :: modifierTokens ms ++ operand.tokens ++ rest.tokens

def ClausePhrase.tokens : ClausePhrase → List Token
  | .group opening inner closing => opening.1 :: inner.tokens ++ [closing.1]
  | .declared declaration inner => declaration.tokens ++ inner.tokens
  | .indexed name relation ms inner =>
    name.1 :: relation.1 :: modifierTokens ms ++ inner.tokens
  | .term word ms => word.1 :: modifierTokens ms

end

/-- A comparison right after the name of a modifier belongs to that modifier. Like every lookahead
rule this looks at the token right after a part of the phrase, so it takes the tokens `after` the
whole phrase as well. -/
def GreedyModifiers : List ModifierPhrase → List Token → Prop
  | [], _ => True
  | m :: ms, after =>
    (m.setting = none → NextIsNot (Token.isKind .comparison) (modifierTokens ms ++ after)) ∧
      GreedyModifiers ms after

mutual

def QueryPhrase.Greedy : QueryPhrase → List Token → Prop
  | .chain first rest, after => first.Greedy (rest.tokens ++ after) ∧ rest.Greedy after

def ChainPhrase.Greedy : ChainPhrase → List Token → Prop
  | .done, _ => True
  | .join _ ms operand rest, after =>
    GreedyModifiers ms (operand.tokens ++ (rest.tokens ++ after)) ∧
      operand.Greedy (rest.tokens ++ after) ∧ rest.Greedy after

def ClausePhrase.Greedy : ClausePhrase → List Token → Prop
  | .group _ inner closing, after => inner.Greedy (closing.1 :: after)
  | .declared _ inner, after => inner.Greedy after
  | .indexed _ _ ms inner, after =>
    GreedyModifiers ms (inner.tokens ++ after) ∧ inner.Greedy after
  | .term _ ms, after => GreedyModifiers ms after

end

mutual

def QueryPhrase.Settled : QueryPhrase → List Token → Prop
  | .chain first rest, after => first.Settled (rest.tokens ++ after) ∧ rest.Settled after

def ChainPhrase.Settled : ChainPhrase → List Token → Prop
  | .done, _ => True
  | .join _ _ operand rest, after => operand.Settled (rest.tokens ++ after) ∧ rest.Settled after

def ClausePhrase.Settled : ClausePhrase → List Token → Prop
  | .group _ inner closing, after => inner.Settled (closing.1 :: after)
  | .declared _ inner, after => inner.Settled after ∧ NextIsNot Token.isOperator after
  | .indexed _ relation _ inner, after => relation.1.isRelation = true ∧ inner.Settled after
  | .term _ ms, after => NextIsNot Token.isRelation (modifierTokens ms ++ after)

end

def ModifierPhrase.modifier (m : ModifierPhrase) : Modifier :=
  let flag : Modifier :=
    { Modifier.ofFlag m.name.1.text with
      pos := some m.name.1.start, range := some ⟨m.slash.1.start, m.name.1.stop⟩ }
  match m.setting with
  | none => flag
  | some (comparison, value) =>
    { flag with
      relation := comparison.1.text, value := value.1.text
      range := some ⟨m.slash.1.start, value.1.stop⟩ }

def DeclarationPhrase.bind (d : DeclarationPhrase) (table : PrefixTable) : PrefixTable :=
  match d.uri with
  | none => table.insert PrefixTable.defaultName d.first.1.text
  | some (_, uri) => table.insert d.first.1.text uri.1.text

def Operator.op (o : Operator) : BooleanOp := o.1.operator?.get o.2

mutual

/-- The tree of a query read in a scope, and the prefixes declared after it. -/
def QueryPhrase.value (src : Source) :
    QueryPhrase → IndexScope → PrefixTable → Node × PrefixTable
  | .chain first rest, scope, table =>
    let head := first.value src scope table
    rest.value src scope head.2 head.1

/-- The tree that joins the operands of a chain to `left`, one after another. -/
def ChainPhrase.value (src : Source) :
    ChainPhrase → IndexScope → PrefixTable → Node → Node × PrefixTable
  | .done, _, table, left => (left, table)
  | .join operator ms operand rest, scope, table, left =>
    let right := operand.value src scope table
    let k := Source.connective operator.op operator.1 (ms.map ModifierPhrase.modifier)
    rest.value src scope right.2 (.boolean k left right.1)

def ClausePhrase.value (src : Source) :
    ClausePhrase → IndexScope → PrefixTable → Node × PrefixTable
  | .group _ inner _, scope, table => inner.value src { scope with start := none } table
  | .declared declaration inner, scope, table => inner.value src scope (declaration.bind table)
  | .indexed name relation ms inner, _, table =>
    inner.value src (Source.indexScope name.1 relation.1 (ms.map ModifierPhrase.modifier)) table
  | .term word ms, scope, table =>
    (.clause (src.termClause scope table word.1 (ms.map ModifierPhrase.modifier)), table)

end

end ContextualQuery
