import ContextualQuery.Proofs.Query.Lookahead
import ContextualQuery.Proofs.Query.RoundTrip
import ContextualQuery.Proofs.Token.Place

/-!
# Queries inside queries

A query that can be read can be read inside parentheses, whatever stands around them, and means
there what it means alone. What it takes over from outside is the index that the group is under.

* `spelling_group`: a query in parentheses spells its own tokens between theirs;
* `QueryPhrase.value_underIndex`: what a phrase stands for under an index;
* `parse_groupUnderIndex`: an index before a group is the index of all its clauses without one;
* `parse_joinedGroups`: two groups around an operator are the operands of that operator.
-/
namespace ContextualQuery

def QueryPhrase.grouped (q : QueryPhrase) : ClausePhrase :=
  .group (.spelled .openParen "(") q (.spelled .closeParen ")")

theorem QueryPhrase.grouped_greedy {q : QueryPhrase} (greedy : q.Greedy []) (after : List Token) :
    q.grouped.Greedy after :=
  q.greedy_of_next (fun _ => rfl) greedy

theorem QueryPhrase.grouped_settled {q : QueryPhrase} (settled : q.Settled [])
    (after : List Token) : q.grouped.Settled after :=
  q.settled_of_next (fun _ => rfl) (fun _ => rfl) settled

/-- A query in parentheses spells its own tokens between theirs, whatever follows. -/
theorem spelling_group {query : String} {q : QueryPhrase} (tokens : q.tokens = tokenize query)
    (rest : List Char) :
    spelling ("(".toList ++ (query.toList ++ (")".toList ++ rest))) =
      q.grouped.tokens.map Token.placeless ++ spelling rest := by
  have closed : ∀ t ∈ spelling query.toList, t.kind ≠ .unterminated := by
    intro t ht
    rw [← tokenize_placeless, ← tokens] at ht
    obtain ⟨u, hu, rfl⟩ := List.mem_map.mp ht
    have kind : u.kind ≠ .unterminated := q.closed hu
    exact kind
  have opening (cs : List Char) :
      spelling ("(".toList ++ cs) = .spelled .openParen "(" :: spelling cs :=
    spelling_separator (c := '(') rfl cs
  have closing : spelling (")".toList ++ rest) = .spelled .closeParen ")" :: spelling rest :=
    spelling_separator (c := ')') rfl rest
  rw [opening, spelling_append closed rfl, closing, ← tokenize_placeless, ← tokens]
  simp [QueryPhrase.grouped, ClausePhrase.tokens, OfKind.spelled, Token.spelled, Token.placeless]

theorem modifierTokens_placeless {ms : List Modifier} (writable : ∀ m ∈ ms, m.Writable) :
    (modifierTokens (ms.map Modifier.phrase)).map Token.placeless =
      modifierTokens (ms.map Modifier.phrase) := by
  have spelled : spelling ((modifiersText ms).toList ++ []) = _ :=
    spelling_modifiersText writable rfl
  rw [List.append_nil, spelling_nil, List.append_nil] at spelled
  rw [← spelled, spelling_placeless]

/-- The clause as it is read under an index with modifiers: it takes them over unless it has an
index of its own. -/
def SearchClause.underIndex (choice : ServerChoice) (ms : List Modifier) (c : SearchClause) :
    SearchClause :=
  { c with
    choice
    modifiers := if c.relationPos.isNone then ms ++ c.modifiers else c.modifiers }

/-- The tree as it is read under an index with modifiers. -/
def Node.underIndex (choice : ServerChoice) (ms : List Modifier) : Node → Node
  | .clause c => .clause (c.underIndex choice ms)
  | .boolean k left right =>
    .boolean k (left.underIndex choice ms) (right.underIndex choice ms)

/-- The scope is that of `inner` under an index with modifiers, which show only where `inner` has no
index that was written. -/
structure IndexScope.Under (ms : List Modifier) (inner scope : IndexScope) : Prop where
  field : scope.field = inner.field
  relation : scope.relation = inner.relation
  modifiers : scope.modifiers.map Modifier.withoutPositions =
    (if inner.relationPos.isNone then ms ++ inner.modifiers else inner.modifiers).map
      Modifier.withoutPositions

/-- The same tree under an index, positions apart, and the same prefixes. -/
def UnderIndex (choice : ServerChoice) (ms : List Modifier) (r s : Node × PrefixTable) : Prop :=
  s.1.withoutPositions = (r.1.underIndex choice ms).withoutPositions ∧ s.2 = r.2

theorem Source.termClause_underIndex {src src' : Source} {ms : List Modifier}
    {inner scope : IndexScope} (under : inner.Under ms scope) (table : PrefixTable) (term : Token)
    (trailing : List Modifier) :
    (src'.termClause scope table term trailing).withoutPositions =
      ((src.termClause inner table term trailing).underIndex src'.choice ms).withoutPositions := by
  have modifiers := under.modifiers
  simp only [Source.termClause, SearchClause.underIndex, SearchClause.withoutPositions,
    under.field, under.relation, List.map_append, modifiers]
  by_cases own : inner.relationPos.isNone = true <;> simp [own]

section Under

variable {src src' : Source} {ms : List Modifier}

mutual

theorem QueryPhrase.value_underIndex : ∀ (q : QueryPhrase) {inner scope : IndexScope}
    (table : PrefixTable), inner.Under ms scope →
    UnderIndex src'.choice ms (q.value src inner table) (q.value src' scope table)
  | .chain first rest, inner, scope, table, under => by
    obtain ⟨nodes, tables⟩ := first.value_underIndex table under
    rw [QueryPhrase.value, QueryPhrase.value, tables]
    exact rest.value_underIndex _ under nodes

theorem ChainPhrase.value_underIndex : ∀ (k : ChainPhrase) {inner scope : IndexScope}
    (table : PrefixTable) {left left' : Node}, inner.Under ms scope →
    left'.withoutPositions = (left.underIndex src'.choice ms).withoutPositions →
    UnderIndex src'.choice ms (k.value src inner table left) (k.value src' scope table left')
  | .done, _, _, _, _, _, _, lefts => ⟨lefts, rfl⟩
  | .join operator mods operand rest, inner, scope, table, left, left', under, lefts => by
    obtain ⟨nodes, tables⟩ := operand.value_underIndex table under
    rw [ChainPhrase.value, ChainPhrase.value, tables]
    refine rest.value_underIndex _ under ?_
    rw [Node.underIndex, Node.withoutPositions_boolean, Node.withoutPositions_boolean, lefts, nodes]

theorem ClausePhrase.value_underIndex : ∀ (c : ClausePhrase) {inner scope : IndexScope}
    (table : PrefixTable), inner.Under ms scope →
    UnderIndex src'.choice ms (c.value src inner table) (c.value src' scope table)
  | .group _ q _, _, _, table, under =>
    q.value_underIndex table ⟨under.field, under.relation, under.modifiers⟩
  | .declared _ q, _, _, _, under => q.value_underIndex _ under
  | .indexed _ _ _ c, _, _, table, _ => c.value_underIndex table ⟨rfl, rfl, rfl⟩
  | .term word _, _, _, table, under =>
    ⟨congrArg Node.clause (Source.termClause_underIndex under table word.1 _), rfl⟩

end

end Under

/-- The text `field relation modifiers (query)`. -/
def groupUnderIndex (field relation : String) (ms : List Modifier) (query : String) : String :=
  wordText field ++ " " ++ relationText relation ++ " " ++ modifiersText ms ++ " " ++
    ("(" ++ query ++ ")")

def QueryPhrase.underIndex (field relation : String) (ms : List Modifier) (q : QueryPhrase) :
    QueryPhrase :=
  .chain (.indexed (writtenWord field) (writtenRelation relation) (ms.map Modifier.phrase)
    q.grouped) .done

theorem alike_groupUnderIndex {query : String} {q : QueryPhrase} (tokens : q.tokens = tokenize query)
    (field relation : String) {ms : List Modifier} (writable : ∀ m ∈ ms, m.Writable) :
    AlikeTokens (tokenize (groupUnderIndex field relation ms query))
      (q.underIndex field relation ms).tokens := by
  have space (cs : List Char) : (" ".toList ++ cs).head?.all endsWord = true := rfl
  have group := spelling_group tokens []
  rw [List.append_nil, spelling_nil, List.append_nil] at group
  rw [AlikeTokens, tokenize_placeless, groupUnderIndex]
  simp only [String.toList_append, List.append_assoc]
  rw [spelling_word field (space _), spelling_space,
    spelling_relation relation (space _) rfl, spelling_space,
    spelling_modifiersText writable (space _), spelling_space, group]
  simp [QueryPhrase.underIndex, QueryPhrase.tokens, ClausePhrase.tokens, ChainPhrase.tokens,
    modifierTokens_placeless writable, writtenWord, writtenRelation, Token.spelled,
    Token.placeless]

/-- If a query can be read, then so can the query in parentheses under any index, relation and
modifiers. Positions apart, its tree is the one that the query has where the server chooses that
index and relation, with the modifiers in front of those of each clause that names no index of its
own. -/
theorem parse_groupUnderIndex {query : String} {accepting : ServerChoice} {accepted : Node}
    (h : Node.parse query accepting = .ok accepted) (choice : ServerChoice)
    (field relation : String) {ms : List Modifier} (readable : ∀ m ∈ ms, m.Readable) :
    ∃ alone n, Node.parse query ⟨field, relation⟩ = .ok alone ∧
      Node.parse (groupUnderIndex field relation ms query) choice = .ok n ∧
      n.withoutPositions = (alone.underIndex choice ms).withoutPositions := by
  obtain ⟨q, -, tokens, greedy, settled, -, -⟩ := exists_phrase_of_parse h
  have alone := q.parse_of_tokens greedy settled tokens ⟨field, relation⟩
  have writable : ∀ m ∈ ms, m.Writable := fun m hm => (readable m hm).writable
  obtain ⟨n, parsed, same⟩ :=
    (q.underIndex field relation ms).parse_of_alike
      ⟨⟨greedyModifiers_phrases ms rfl, q.grouped_greedy greedy _⟩, trivial⟩
      ⟨⟨isRelation_writtenRelation relation, q.grouped_settled settled _⟩, trivial⟩
      (alike_groupUnderIndex tokens field relation writable) choice
  have under : IndexScope.Under ms (.ofChoice ⟨field, relation⟩)
      { Source.indexScope (writtenWord field).1 (writtenRelation relation).1
          ((ms.map Modifier.phrase).map ModifierPhrase.modifier) with start := none } :=
    ⟨rfl, rfl, by simpa [IndexScope.ofChoice, Source.indexScope] using map_phrase_modifier readable⟩
  exact ⟨_, n, alone, parsed, same.trans (q.value_underIndex .empty under).1⟩

/-- The index is a keyword and has to be quoted. Of the clauses in the group, the first takes it
over with its modifiers, and the second has an index of its own. -/
theorem parse_groupUnderIndex_mixed :
    groupUnderIndex "and" "<=" [.ofValue "x" "=" "1"] "cat/y or title any dog" =
        "\"and\" <= /x=1 (cat/y or title any dog)" ∧
      ∃ alone n, Node.parse "cat/y or title any dog" ⟨"and", "<="⟩ = .ok alone ∧
        Node.parse "\"and\" <= /x=1 (cat/y or title any dog)" {} = .ok n ∧
        n.withoutPositions = (alone.underIndex {} [.ofValue "x" "=" "1"]).withoutPositions := by
  have readable : ∀ m ∈ [Modifier.ofValue "x" "=" "1"], m.Readable := by
    intro m hm
    obtain rfl := List.mem_singleton.mp hm
    exact ⟨Text.lowercase_lowercase _, .inr rfl⟩
  have accepted : (Node.parse "cat/y or title any dog" {}).toOption.isSome = true := by
    decide +kernel
  have text : groupUnderIndex "and" "<=" [.ofValue "x" "=" "1"] "cat/y or title any dog" =
      "\"and\" <= /x=1 (cat/y or title any dog)" := by decide +kernel
  cases parsed : Node.parse "cat/y or title any dog" {} with
  | error e => simp [parsed, Except.toOption] at accepted
  | ok n =>
    have distributed := parse_groupUnderIndex parsed {} "and" "<=" readable
    rw [text] at distributed
    exact ⟨text, distributed⟩

/-- Only letters change when a text is lowercased. -/
theorem Text.asciiLowerChar_of_special {c : Char} (h : (endsWord c || isQuoteMark c) = true) :
    Text.asciiLowerChar c = c := by
  simp only [endsWord, isSeparator, isComparisonChar, isBlank, isQuoteMark, Bool.or_eq_true,
    beq_iff_eq] at h
  rcases h with (((((rfl | rfl) | rfl) | ((rfl | rfl) | rfl)) | (((rfl | rfl) | rfl) | rfl)) |
    (rfl | rfl)) <;> decide

/-- A keyword, in any case, is made of characters that stand in an unquoted word. -/
theorem BooleanOp.keyword_plain {word : String} {op : BooleanOp}
    (h : BooleanOp.ofKeyword? word = some op) :
    word.toList ≠ [] ∧ ∀ c ∈ word.toList, endsWord c = false ∧ isQuoteMark c = false := by
  have spelled : word.toList.map Text.asciiLowerChar = op.keyword.toList := by
    have found := List.find?_some h
    simpa [Text.asciiLowercase, ← String.toList_inj] using found
  constructor
  · intro empty
    rw [empty] at spelled
    cases op <;> cases spelled
  · intro c hc
    have letter : Text.asciiLowerChar c ∈ op.keyword.toList := by
      rw [← spelled]
      exact List.mem_map_of_mem hc
    have plain : op.keyword.toList.any (fun d => endsWord d || isQuoteMark d) = false := by
      cases op <;> rfl
    cases special : endsWord c || isQuoteMark c with
    | false => simpa using special
    | true =>
      rw [Text.asciiLowerChar_of_special special] at letter
      exact absurd special (List.any_eq_false.mp plain c letter)

theorem spelling_keyword {word : String} {op : BooleanOp}
    (h : BooleanOp.ofKeyword? word = some op) {rest : List Char}
    (stops : rest.head?.all endsWord = true) :
    spelling (word.toList ++ rest) = .spelled .bareword word :: spelling rest := by
  obtain ⟨nonempty, plain⟩ := BooleanOp.keyword_plain h
  refine spelling_bareword (by simpa using nonempty) ?_ ?_ stops
  · cases chars : word.toList with
    | nil => exact absurd chars nonempty
    | cons c cs => exact (plain c (by simp [chars])).2
  · exact List.any_eq_false.mpr fun c hc => by simp [(plain c hc).1]

theorem operator?_keyword {word : String} {op : BooleanOp}
    (h : BooleanOp.ofKeyword? word = some op) :
    (Token.spelled .bareword word).operator? = some op := by
  have bare : (Token.spelled .bareword word).kind = .bareword := rfl
  rw [Token.operator?, if_pos bare, Token.lower, BooleanOp.ofKeyword?_lowercase]
  exact h

/-- The prefixes that reading a query declares, if it can be read. -/
def Source.prefixes (src : Source) : Option PrefixTable :=
  (src.readQuery (.ofChoice src.choice) .empty (tokenize src.query)).toOption.map Reading.table

/-- The text `(left) keyword modifiers (right)`, the modifiers right after the keyword. -/
def joinedGroups (left keyword : String) (ms : List Modifier) (right : String) : String :=
  "(" ++ left ++ ")" ++ " " ++ keyword ++ modifiersText ms ++ " " ++ ("(" ++ right ++ ")")

def QueryPhrase.joined (left right : QueryPhrase) (operator : Operator) (ms : List Modifier) :
    QueryPhrase :=
  .chain left.grouped (.join operator (ms.map Modifier.phrase) right.grouped .done)

theorem alike_joinedGroups {left right : String} {q r : QueryPhrase}
    (tokensLeft : q.tokens = tokenize left) (tokensRight : r.tokens = tokenize right)
    {keyword : String} {op : BooleanOp} (spells : BooleanOp.ofKeyword? keyword = some op)
    {operator : Operator} (written : operator.1 = .spelled .bareword keyword)
    {ms : List Modifier} (writable : ∀ m ∈ ms, m.Writable) :
    AlikeTokens (tokenize (joinedGroups left keyword ms right))
      (q.joined r operator ms).tokens := by
  have space (cs : List Char) : (" ".toList ++ cs).head?.all endsWord = true := rfl
  have group := spelling_group tokensRight []
  rw [List.append_nil, spelling_nil, List.append_nil] at group
  rw [AlikeTokens, tokenize_placeless, joinedGroups]
  simp only [String.toList_append, List.append_assoc]
  rw [spelling_group tokensLeft, spelling_space,
    spelling_keyword spells (head_modifiersText rfl _ (space _)),
    spelling_modifiersText writable (space _), spelling_space, group]
  simp [QueryPhrase.joined, QueryPhrase.tokens, ChainPhrase.tokens,
    modifierTokens_placeless writable, written, Token.spelled, Token.placeless]

/-- If two queries can be read, and the first declares no prefix, then so can the two in parentheses
around any operator keyword with modifiers. Positions apart, the tree joins those of the queries. -/
theorem parse_joinedGroups {choice : ServerChoice} {left right : String} {l r : Node}
    (parsedLeft : Node.parse left choice = .ok l) (parsedRight : Node.parse right choice = .ok r)
    (undeclared : Source.prefixes ⟨left, choice⟩ = some .empty)
    {keyword : String} {op : BooleanOp} (spells : BooleanOp.ofKeyword? keyword = some op)
    {ms : List Modifier} (readable : ∀ m ∈ ms, m.Readable) :
    ∃ n, Node.parse (joinedGroups left keyword ms right) choice = .ok n ∧
      n.withoutPositions = (Node.boolean { op, modifiers := ms } l r).withoutPositions := by
  obtain ⟨p, table, tokensLeft, greedyLeft, settledLeft, read, valueLeft⟩ :=
    exists_phrase_of_parse parsedLeft
  obtain ⟨q, table', tokensRight, greedyRight, settledRight, -, valueRight⟩ :=
    exists_phrase_of_parse parsedRight
  obtain rfl : table = .empty := by
    simpa [Source.prefixes, read, Except.toOption] using undeclared
  have writable : ∀ m ∈ ms, m.Writable := fun m hm => (readable m hm).writable
  have isOperator : (Token.spelled .bareword keyword).isOperator = true := by
    simp [Token.isOperator, operator?_keyword spells]
  have same : Operator.op ⟨.spelled .bareword keyword, isOperator⟩ = op := by
    simp [Operator.op, operator?_keyword spells]
  obtain ⟨n, parsed, value⟩ :=
    (p.joined q ⟨.spelled .bareword keyword, isOperator⟩ ms).parse_of_alike
      ⟨p.grouped_greedy greedyLeft _, greedyModifiers_phrases ms rfl,
        q.grouped_greedy greedyRight _, trivial⟩
      ⟨p.grouped_settled settledLeft _, q.grouped_settled settledRight _, trivial⟩
      (alike_joinedGroups tokensLeft tokensRight spells rfl writable) choice
  refine ⟨n, parsed, value.trans ?_⟩
  -- Both queries are read in the scope of the whole text, the second after the first.
  obtain ⟨nodes, tables⟩ := p.value_alike greedyLeft settledLeft
    (joinedGroups left keyword ms right) left choice (.ofChoice choice) .empty
  obtain ⟨nodes', -⟩ := q.value_alike greedyRight settledRight
    (joinedGroups left keyword ms right) right choice (.ofChoice choice) .empty
  have scope : { IndexScope.ofChoice choice with start := none } = .ofChoice choice := rfl
  rw [valueLeft] at nodes tables
  rw [valueRight] at nodes'
  simp only [QueryPhrase.joined, QueryPhrase.grouped, QueryPhrase.value, ChainPhrase.value,
    ClausePhrase.value, scope, same, tables, Node.withoutPositions_boolean, nodes, nodes']
  simp only [Source.connective, Connective.withoutPositions, map_phrase_modifier readable]

/-- The keyword is in mixed case, the first query is a chain, and the second declares a prefix. -/
theorem parse_joinedGroups_declared :
    joinedGroups "a or b" "aNd" [.ofFlag "x"] "> dc = u dc.t any c" =
        "(a or b) aNd/x (> dc = u dc.t any c)" ∧
      ∃ l r n, Node.parse "a or b" {} = .ok l ∧ Node.parse "> dc = u dc.t any c" {} = .ok r ∧
        Node.parse "(a or b) aNd/x (> dc = u dc.t any c)" {} = .ok n ∧
        n.withoutPositions =
          (Node.boolean { op := .and, modifiers := [.ofFlag "x"] } l r).withoutPositions := by
  have readable : ∀ m ∈ [Modifier.ofFlag "x"], m.Readable := by
    intro m hm
    obtain rfl := List.mem_singleton.mp hm
    exact ⟨Text.lowercase_lowercase _, .inl ⟨rfl, rfl⟩⟩
  have undeclared : Source.prefixes ⟨"a or b", {}⟩ = some .empty := by decide +kernel
  have text : joinedGroups "a or b" "aNd" [.ofFlag "x"] "> dc = u dc.t any c" =
      "(a or b) aNd/x (> dc = u dc.t any c)" := by decide +kernel
  have keyword : BooleanOp.ofKeyword? "aNd" = some .and := by decide
  have left : (Node.parse "a or b" {}).toOption.isSome = true := by decide +kernel
  have right : (Node.parse "> dc = u dc.t any c" {}).toOption.isSome = true := by decide +kernel
  cases parsedLeft : Node.parse "a or b" {} with
  | error e => simp [parsedLeft, Except.toOption] at left
  | ok l =>
    cases parsedRight : Node.parse "> dc = u dc.t any c" {} with
    | error e => simp [parsedRight, Except.toOption] at right
    | ok r =>
      obtain ⟨n, parsed, same⟩ :=
        parse_joinedGroups parsedLeft parsedRight undeclared keyword readable
      rw [text] at parsed
      exact ⟨text, l, r, n, rfl, rfl, parsed, same⟩

end ContextualQuery
