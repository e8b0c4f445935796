import ContextualQuery.PrefixTable
import ContextualQuery.Query.Basic
import ContextualQuery.Query.Error
import ContextualQuery.Token.Lexer

/-!
# Reading a query

The grammar, over tokens:

    query      → clause (BOOLEAN modifiers clause)*
    clause     → "(" query ")"
               | ">" WORD ("=" WORD)? query
               | WORD relation modifiers clause
               | WORD modifiers
    relation   → WORD | COMPARISON
    modifiers  → ("/" WORD (COMPARISON WORD)?)*

All operators bind alike and to the left. One token of lookahead decides: a word before another
word or a comparison names an index, unless that word is an operator; any other word is a term.
Every step leaves fewer tokens than it found, which is why reading ends.
-/
namespace ContextualQuery

namespace Token

def operator? (t : Token) : Option BooleanOp :=
  if t.kind = .bareword then BooleanOp.ofKeyword? t.lower else none

/-- Whether the token, after a word, makes that word the name of an index. -/
def isRelation (t : Token) : Bool :=
  match t.kind with
  | .quoted | .comparison => true
  | .bareword => (BooleanOp.ofKeyword? t.lower).isNone
  | _ => false

end Token

/-- The index, relation and modifiers that a clause takes over unless it names its own. -/
structure IndexScope where
  field : String
  relation : String
  modifiers : List Modifier := []
  /-- The start of the index, if it was written for this clause. -/
  start : Option Nat := none
  relationPos : Option Nat := none

def IndexScope.ofChoice (choice : ServerChoice) : IndexScope :=
  { field := choice.field, relation := choice.relation }

structure Source where
  query : String
  choice : ServerChoice

namespace Source

/-- The next token, which is the end of the query when none is left. -/
def look (src : Source) : List Token → Token
  | [] => .ofEnd (Text.byteSize src.query.toList)
  | t :: _ => t

/-- The error at a byte of the query, before the tokens `ts`. -/
def fail (src : Source) (kind : ErrorKind) (position : Nat) (ts : List Token) : QueryError :=
  .atToken kind position src.query (src.look ts)

def failHere (src : Source) (kind : ErrorKind) (ts : List Token) : QueryError :=
  src.fail kind (src.look ts).start ts

/-- Takes a word, and fails with `kind` where there is none. -/
def word (src : Source) (kind : ErrorKind) : List Token → Except QueryError (Token × List Token)
  | [] => .error (src.failHere kind [])
  | t :: ts => if t.isWord then .ok (t, ts) else .error (src.failHere kind (t :: ts))

def modifier (src : Source) (slash : Token) (ts : List Token) :
    Except QueryError (Modifier × List Token) :=
  match src.word .invalidModifier ts with
  | .error e => .error e
  | .ok (name, ts) =>
    let flag : Modifier :=
      { Modifier.ofFlag name.text with
        pos := some name.start, range := some ⟨slash.start, name.stop⟩ }
    match ts with
    | [] => .ok (flag, [])
    | relation :: rest =>
      if relation.kind = .comparison then
        match src.word .invalidModifierRelation rest with
        | .error e => .error e
        | .ok (value, rest) =>
          .ok ({ flag with
            relation := relation.text, value := value.text
            range := some ⟨slash.start, value.stop⟩ }, rest)
      else .ok (flag, relation :: rest)

theorem word_length {src : Source} {kind : ErrorKind} {ts : List Token} {t : Token}
    {rest : List Token} (h : src.word kind ts = .ok (t, rest)) : rest.length < ts.length := by
  cases ts with
  | nil => simp [word] at h
  | cons u us =>
    simp only [word] at h
    split at h
    · simp only [Except.ok.injEq, Prod.mk.injEq] at h
      simp [← h.2]
    · simp at h

theorem modifier_length {src : Source} {slash : Token} {ts : List Token} {m : Modifier}
    {rest : List Token} (h : src.modifier slash ts = .ok (m, rest)) : rest.length < ts.length := by
  unfold modifier at h
  split at h
  · simp at h
  · rename_i name us hname
    have first := word_length hname
    split at h
    · simp only [Except.ok.injEq, Prod.mk.injEq] at h
      simpa [← h.2] using first
    · split at h
      · split at h
        · simp at h
        · rename_i hvalue
          have second := word_length hvalue
          simp only [Except.ok.injEq, Prod.mk.injEq] at h
          simp only [← h.2, List.length_cons] at first ⊢
          omega
      · simp only [Except.ok.injEq, Prod.mk.injEq] at h
        simpa [← h.2] using first

def modifiers (src : Source) (ts : List Token) : Except QueryError (List Modifier × List Token) :=
  match ts with
  | [] => .ok ([], [])
  | slash :: rest =>
    if slash.kind = .slash then
      match _h : src.modifier slash rest with
      | .error e => .error e
      | .ok (m, rest) =>
        match src.modifiers rest with
        | .error e => .error e
        | .ok (ms, rest) => .ok (m :: ms, rest)
    else .ok ([], slash :: rest)
termination_by ts.length
decreasing_by
  have := modifier_length _h
  simp only [List.length_cons]
  omega

theorem modifiers_length {src : Source} {ts : List Token} {ms : List Modifier}
    {rest : List Token} (h : src.modifiers ts = .ok (ms, rest)) : rest.length ≤ ts.length := by
  fun_induction modifiers src ts generalizing ms rest with
  | case1 => simp_all
  | case2 => simp at h
  | case3 => simp at h
  | case4 slash us _ m after hm ms' after' hms ih =>
    have := modifier_length hm
    have := ih hms
    simp only [Except.ok.injEq, Prod.mk.injEq] at h
    simp only [← h.2, List.length_cons]
    omega
  | case5 => simp_all

/-- Reads a prefix declaration after its `>`: a name with a URI, or a URI alone. -/
def declaration (src : Source) (table : PrefixTable) (ts : List Token) :
    Except QueryError (PrefixTable × List Token) :=
  match src.word .expectedWord ts with
  | .error e => .error e
  | .ok (first, ts) =>
    match ts with
    | [] => .ok (table.insert PrefixTable.defaultName first.text, [])
    | equals :: rest =>
      if equals.isComparison "=" then
        match src.word .expectedWord rest with
        | .error e => .error e
        | .ok (uri, rest) => .ok (table.insert first.text uri.text, rest)
      else .ok (table.insert PrefixTable.defaultName first.text, equals :: rest)

theorem declaration_length {src : Source} {table table' : PrefixTable} {ts rest : List Token}
    (h : src.declaration table ts = .ok (table', rest)) : rest.length < ts.length := by
  unfold declaration at h
  split at h
  · simp at h
  · rename_i first us hfirst
    have first := word_length hfirst
    split at h
    · simp only [Except.ok.injEq, Prod.mk.injEq] at h
      simpa [← h.2] using first
    · split at h
      · split at h
        · simp at h
        · rename_i huri
          have second := word_length huri
          simp only [Except.ok.injEq, Prod.mk.injEq] at h
          simp only [← h.2, List.length_cons] at first ⊢
          omega
      · simp only [Except.ok.injEq, Prod.mk.injEq] at h
        simpa [← h.2] using first

/-- The clause that searches for `term` in a scope, with the modifiers written after the term. -/
def termClause (src : Source) (scope : IndexScope) (table : PrefixTable) (term : Token)
    (trailing : List Modifier) : SearchClause :=
  let field := table.resolveField scope.field
  let relation := table.resolveRelation scope.relation
  { field := field.1
    fieldUri := field.2
    relation := relation.1
    relationUri := relation.2
    modifiers := scope.modifiers ++ trailing
    term := term.text
    choice := src.choice
    pos := some (scope.start.getD term.start)
    range := some ⟨term.start, term.stop⟩
    relationPos := scope.relationPos }

def connective (op : BooleanOp) (word : Token) (ms : List Modifier) : Connective :=
  let stop := ((ms.getLast?.bind (·.range)).map (·.stop)).getD word.stop
  { op, modifiers := ms, pos := some word.start, range := some ⟨word.start, stop⟩ }

end Source

/-- What reading a part of a query gives: the tree, the prefixes declared so far, and the tokens
left, fewer than `bound`. -/
structure Parsed (bound : Nat) where
  node : Node
  table : PrefixTable
  rest : List Token
  shorter : rest.length < bound

def Parsed.weaken {m n : Nat} (p : Parsed m) (h : m ≤ n) : Parsed n :=
  { p with shorter := Nat.lt_of_lt_of_le p.shorter h }

namespace Source

mutual

/-- Reads clauses joined by operators. -/
def parseQuery (src : Source) (scope : IndexScope) (table : PrefixTable) (ts : List Token) :
    Except QueryError (Parsed ts.length) :=
  match src.parseClause scope table ts with
  | .error e => .error e
  | .ok first =>
    match src.parseChain scope first.table first.node first.rest with
    | .error e => .error e
    | .ok chain => .ok (chain.weaken first.shorter)
termination_by 2 * ts.length + 1
decreasing_by
  · omega
  · have := first.shorter
    omega

/-- Joins further clauses to `left` as long as an operator comes next. -/
def parseChain (src : Source) (scope : IndexScope) (table : PrefixTable) (left : Node)
    (ts : List Token) : Except QueryError (Parsed (ts.length + 1)) :=
  match ts with
  | [] => .ok ⟨left, table, [], by simp⟩
  | word :: after =>
    match word.operator? with
    | none => .ok ⟨left, table, word :: after, by simp⟩
    | some op =>
      match _hm : src.modifiers after with
      | .error e => .error e
      | .ok (ms, operand) =>
        match src.parseClause scope table operand with
        | .error e => .error e
        | .ok right =>
          match src.parseChain scope right.table
              (.boolean (connective op word ms) left right.node) right.rest with
          | .error e => .error e
          | .ok chain => .ok (chain.weaken (by
              have := modifiers_length _hm
              have := right.shorter
              simp only [List.length_cons]
              omega))
termination_by 2 * ts.length
decreasing_by
  all_goals
    have := modifiers_length _hm
    simp only [List.length_cons]
  · omega
  · have := right.shorter
    omega

/-- Reads one clause, a query in parentheses, or a declaration with the query it applies to. -/
def parseClause (src : Source) (scope : IndexScope) (table : PrefixTable) (ts : List Token) :
    Except QueryError (Parsed ts.length) :=
  match ts with
  | [] => .error (src.failHere .invalidClause [])
  | first :: after =>
    if first.kind = .openParen then
      match src.parseQuery { scope with start := none } table after with
      | .error e => .error e
      | .ok inner =>
        match _hr : inner.rest with
        | [] => .error (src.fail .missingClosingParen first.start [])
        | close :: rest =>
          if close.kind = .closeParen then
            .ok ⟨inner.node, inner.table, rest, by
              have := inner.shorter
              simp only [_hr, List.length_cons] at this ⊢
              omega⟩
          else .error (src.fail .missingClosingParen first.start (close :: rest))
    else if first.isWord then
      match after with
      | [] =>
        .ok ⟨.clause (src.termClause scope table first []), table, [], by simp⟩
      | relation :: tail =>
        if relation.isRelation then
          match _hm : src.modifiers tail with
          | .error e => .error e
          | .ok (ms, inner) =>
            let named : IndexScope :=
              { field := first.text, relation := relation.text, modifiers := ms
                start := some first.start, relationPos := some relation.start }
            match src.parseClause named table inner with
            | .error e => .error e
            | .ok clause => .ok (clause.weaken (by
                have := modifiers_length _hm
                simp only [List.length_cons]
                omega))
        else
          match _hm : src.modifiers (relation :: tail) with
          | .error e => .error e
          | .ok (ms, rest) =>
            .ok ⟨.clause (src.termClause scope table first ms), table, rest, by
              have := modifiers_length _hm
              simp only [List.length_cons] at this ⊢
              omega⟩
    else if first.isComparison ">" then
      match _hd : src.declaration table after with
      | .error e => .error e
      | .ok (table, inner) =>
        match src.parseQuery scope table inner with
        | .error e => .error e
        | .ok query => .ok (query.weaken (by
            have := declaration_length _hd
            simp only [List.length_cons]
            omega))
    else .error (src.failHere .invalidClause (first :: after))
termination_by 2 * ts.length
decreasing_by
  · simp only [List.length_cons]
    omega
  · have := modifiers_length _hm
    simp only [List.length_cons]
    omega
  · have := declaration_length _hd
    simp only [List.length_cons]
    omega

end

def parseAll (src : Source) (ts : List Token) : Except QueryError Node :=
  if ts.isEmpty then .error (src.fail .emptyInput 0 [])
  else
    match src.parseQuery (.ofChoice src.choice) .empty ts with
    | .error e => .error e
    | .ok parsed =>
      match parsed.rest with
      | [] => .ok parsed.node
      | t :: rest =>
        if t.kind = .unterminated then
          .error { src.failHere .invalidClause (t :: rest) with
            message := "invalid search clause: unterminated quoted string" }
        else .error (src.failHere .trailingInput (t :: rest))

end Source

/-- Reads a query against the server's choice of index and relation. -/
def Node.parse (query : String) (choice : ServerChoice) : Except QueryError Node :=
  Source.parseAll ⟨query, choice⟩ (tokenize query)

end ContextualQuery
