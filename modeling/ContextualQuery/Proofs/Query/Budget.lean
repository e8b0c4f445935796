import ContextualQuery.Proofs.Query.Derivation
import ContextualQuery.Proofs.Token.Stream

/-!
# Reading within a budget

A query is read here the way it arrives: from a stream that shows one token, with a budget that each
call and each round of a loop takes one unit of. Such a reader gives up when the budget is gone.

* `Source.wordFrom`, `Source.modifierFrom`, `Source.declarationFrom`: words and what is made of a few
  of them, which take no budget;
* `Source.queryWithin`, `Source.clauseWithin`: the productions that call each other, with the rounds
  of their loops;
* `Node.parseWithin`: a whole query.
-/
namespace ContextualQuery

/-- Why a reader with a budget stops before it has an answer. -/
inductive Halt where
  | exhausted
  | error (e : QueryError)
deriving DecidableEq

/-- What reading a part of a query from its stream gives. -/
structure StreamReading (query : String) where
  node : Node
  table : PrefixTable
  rest : TokenStream query

/-- The same with the tokens that are left as a list. -/
def StreamReading.reading {query : String} (r : StreamReading query) : Reading :=
  ⟨r.node, r.table, r.rest.pending⟩

namespace Source

variable (src : Source)

def haltAt (kind : ErrorKind) (s : TokenStream src.query) : Halt :=
  .error (.atToken kind s.look.start src.query s.look)

/-- Takes a word, and fails with `kind` where there is none. -/
def wordFrom (kind : ErrorKind) (s : TokenStream src.query) :
    Except Halt (Token × TokenStream src.query) :=
  if s.look.isWord then .ok (s.look, s.advance) else .error (src.haltAt kind s)

/-- Reads the modifier that starts with the slash at hand: one round of the loop over modifiers. -/
def modifierFrom (s : TokenStream src.query) : Except Halt (Modifier × TokenStream src.query) :=
  (src.wordFrom .invalidModifier s.advance).bind fun (name, t) =>
    if t.look.kind = .comparison then
      (src.wordFrom .invalidModifierRelation t.advance).bind fun (value, u) =>
        .ok ({ flagAt s.look name with
          relation := t.look.text, value := value.text
          range := some ⟨s.look.start, value.stop⟩ }, u)
    else .ok (flagAt s.look name, t)

def modifiersWithin : Nat → TokenStream src.query →
    Except Halt (List Modifier × TokenStream src.query)
  | 0, _ => .error .exhausted
  | n + 1, s =>
    if s.look.kind = .slash then
      (src.modifierFrom s).bind fun (m, t) =>
        (modifiersWithin n t).bind fun (ms, u) => .ok (m :: ms, u)
    else .ok ([], s)

/-- Reads the declaration that starts with the `>` at hand. -/
def declarationFrom (table : PrefixTable) (s : TokenStream src.query) :
    Except Halt (PrefixTable × TokenStream src.query) :=
  (src.wordFrom .expectedWord s.advance).bind fun (first, t) =>
    if t.look.isComparison "=" then
      (src.wordFrom .expectedWord t.advance).bind fun (uri, u) =>
        .ok (table.insert first.text uri.text, u)
    else .ok (table.insert PrefixTable.defaultName first.text, t)

/-- Ends a group after the query inside it. -/
def groupEndFrom (opening : Token) (inner : StreamReading src.query) :
    Except Halt (StreamReading src.query) :=
  if inner.rest.look.kind = .closeParen then .ok { inner with rest := inner.rest.advance }
  else .error (.error (.atToken .missingClosingParen opening.start src.query inner.rest.look))

mutual

def queryWithin : Nat → IndexScope → PrefixTable → TokenStream src.query →
    Except Halt (StreamReading src.query)
  | 0, _, _, _ => .error .exhausted
  | n + 1, scope, table, s => (clauseWithin n scope table s).bind (chainWithin n scope)

/-- Joins further clauses to what has been read, as long as an operator comes next. -/
def chainWithin : Nat → IndexScope → StreamReading src.query → Except Halt (StreamReading src.query)
  | 0, _, _ => .error .exhausted
  | n + 1, scope, left =>
    match left.rest.look.operator? with
    | none => .ok left
    | some op => (joinWithin n scope op left).bind (chainWithin n scope)

/-- Joins one clause by the operator at hand: one round of the loop over operators. -/
def joinWithin : Nat → IndexScope → BooleanOp → StreamReading src.query →
    Except Halt (StreamReading src.query)
  | 0, _, _, _ => .error .exhausted
  | n + 1, scope, op, left =>
    (src.modifiersWithin n left.rest.advance).bind fun (ms, operand) =>
      (clauseWithin n scope left.table operand).bind fun right =>
        .ok { right with
          node := .boolean (connective op left.rest.look ms) left.node right.node }

/-- Reads one clause, a query in parentheses, or a declaration with the query it applies to. -/
def clauseWithin : Nat → IndexScope → PrefixTable → TokenStream src.query →
    Except Halt (StreamReading src.query)
  | 0, _, _, _ => .error .exhausted
  | n + 1, scope, table, s =>
    if s.look.kind = .openParen then
      (queryWithin n { scope with start := none } table s.advance).bind
        (src.groupEndFrom s.look)
    else if s.look.isWord then
      if s.advance.look.isRelation then
        (src.modifiersWithin n s.advance.advance).bind fun (ms, inner) =>
          clauseWithin n (indexScope s.look s.advance.look ms) table inner
      else
        (src.modifiersWithin n s.advance).bind fun (ms, rest) =>
          .ok ⟨.clause (src.termClause scope table s.look ms), table, rest⟩
    else if s.look.isComparison ">" then declaredWithin n scope table s
    else .error (src.haltAt .invalidClause s)

/-- Reads a declaration and the query it applies to. -/
def declaredWithin : Nat → IndexScope → PrefixTable → TokenStream src.query →
    Except Halt (StreamReading src.query)
  | 0, _, _, _ => .error .exhausted
  | n + 1, scope, table, s =>
    (src.declarationFrom table s).bind fun (table, inner) => queryWithin n scope table inner

end

/-- Ends a query: nothing may be left. -/
def queryEndFrom (r : StreamReading src.query) : Except Halt Node :=
  match r.rest.look.kind with
  | .finish => .ok r.node
  | .unterminated =>
    .error (.error { QueryError.atToken .invalidClause r.rest.look.start src.query r.rest.look with
      message := "invalid search clause: unterminated quoted string" })
  | _ => .error (src.haltAt .trailingInput r.rest)

end Source

def Node.parseWithin (budget : Nat) (query : String) (choice : ServerChoice) : Except Halt Node :=
  let src : Source := ⟨query, choice⟩
  let s := TokenStream.start query
  if s.look.kind = .finish then .error (.error (.atToken .emptyInput 0 query s.look))
  else (src.queryWithin budget (.ofChoice choice) .empty s).bind src.queryEndFrom

end ContextualQuery
