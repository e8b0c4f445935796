import ContextualQuery.Proofs.Query.Reading
import ContextualQuery.Proofs.Query.Tree
import ContextualQuery.Proofs.Token.Spelling

/-!
# Layout does not matter

Where the tokens of a query stand shows in the positions of the tree, and in the place that an error
reports, and nowhere else. Two runs of the parser on tokens of the same kinds and texts are followed
side by side.

* `agree_word`, `agree_modifiers`, `agree_declaration`: the parts that do not recurse into clauses;
* `agree_readQuery`, `agree_parseAll`: two queries of alike tokens are read to alike results, or
  fail alike;
* `parse_of_same_tokens`: so are two texts, however their tokens are spelled and set apart.
-/
namespace ContextualQuery

def AlikeTokens (ts us : List Token) : Prop := ts.map Token.placeless = us.map Token.placeless

/-- Errors that differ at most in their place and in the query they quote. -/
structure QueryError.Alike (e f : QueryError) : Prop where
  kind : e.kind = f.kind
  message : e.message = f.message
  lookahead : e.lookahead = f.lookahead
  token : e.token = f.token

/-- Both succeed with results that `R` relates, or both fail alike. -/
def Agree {α : Type} (R : α → α → Prop) : Except QueryError α → Except QueryError α → Prop
  | .ok a, .ok b => R a b
  | .error e, .error f => e.Alike f
  | _, _ => False

theorem Agree.bind {α β : Type} {R : α → α → Prop} {S : β → β → Prop}
    {x y : Except QueryError α} {f g : α → Except QueryError β} (h : Agree R x y)
    (next : ∀ a b, x = .ok a → y = .ok b → R a b → Agree S (f a) (g b)) :
    Agree S (x.bind f) (y.bind g) := by
  cases x with
  | error e =>
    cases y with
    | error e' => exact h
    | ok b => exact h.elim
  | ok a =>
    cases y with
    | error e' => exact h.elim
    | ok b => exact next a b rfl rfl h

theorem AlikeTokens.cons_iff {t u : Token} {ts us : List Token} :
    AlikeTokens (t :: ts) (u :: us) ↔ t.placeless = u.placeless ∧ AlikeTokens ts us := by
  simp [AlikeTokens]

/-- Alike lists are both empty, or alike at their heads and in their tails. -/
theorem AlikeTokens.cases {ts us : List Token} (alike : AlikeTokens ts us) :
    (ts = [] ∧ us = []) ∨ ∃ t u ts' us', ts = t :: ts' ∧ us = u :: us' ∧
      t.placeless = u.placeless ∧ AlikeTokens ts' us' := by
  cases ts with
  | nil =>
    cases us with
    | nil => exact .inl ⟨rfl, rfl⟩
    | cons u us => cases alike
  | cons t ts =>
    cases us with
    | nil => cases alike
    | cons u us =>
      obtain ⟨same, rest⟩ := AlikeTokens.cons_iff.mp alike
      exact .inr ⟨t, u, ts, us, rfl, rfl, same, rest⟩

/-- What looks only at the kind and text of a token does not tell alike tokens apart. -/
theorem Token.congr_placeless {t u : Token} {α : Type} (same : t.placeless = u.placeless)
    (f : Token → α) (blind : ∀ t : Token, f t.placeless = f t) : f t = f u := by
  rw [← blind t, ← blind u, same]

/-- The scope without the places where its index and modifiers were written. -/
def IndexScope.withoutPositions (s : IndexScope) : IndexScope :=
  { s with
    modifiers := s.modifiers.map Modifier.withoutPositions, start := none, relationPos := none }

/-- Alike trees, the same prefixes, and alike tokens left. -/
structure Reading.Alike (r s : Reading) : Prop where
  node : r.node.withoutPositions = s.node.withoutPositions
  table : r.table = s.table
  rest : AlikeTokens r.rest s.rest

/-- The same modifiers, positions apart, and alike tokens left. -/
def AlikeModifiers (r s : List Modifier × List Token) : Prop :=
  r.1.map Modifier.withoutPositions = s.1.map Modifier.withoutPositions ∧ AlikeTokens r.2 s.2

variable {src src' : Source}

theorem alike_fail {ts us : List Token} (alike : AlikeTokens ts us) (kind : ErrorKind)
    (p p' : Nat) : (src.fail kind p ts).Alike (src'.fail kind p' us) := by
  obtain ⟨rfl, rfl⟩ | ⟨t, u, ts, us, rfl, rfl, same, rest⟩ := alike.cases
  · exact ⟨rfl, rfl, rfl, rfl⟩
  · exact ⟨rfl, rfl, Token.congr_placeless same Token.kind fun _ => rfl,
      Token.congr_placeless same Token.text? fun _ => rfl⟩

theorem agree_word {ts us : List Token} (alike : AlikeTokens ts us) (kind : ErrorKind) :
    Agree (fun r s => r.1.placeless = s.1.placeless ∧ AlikeTokens r.2 s.2)
      (src.word kind ts) (src'.word kind us) := by
  obtain ⟨rfl, rfl⟩ | ⟨t, u, ts, us, rfl, rfl, same, rest⟩ := alike.cases
  · exact alike_fail rfl kind _ _
  · have isWord := Token.congr_placeless same Token.isWord fun _ => rfl
    simp only [Source.word, ← isWord]
    split
    · exact ⟨same, rest⟩
    · exact alike_fail alike kind _ _

theorem agree_setting {slash slash' name name' : Token} (names : name.placeless = name'.placeless)
    {ts us : List Token} (alike : AlikeTokens ts us) :
    Agree (fun r s => r.1.withoutPositions = s.1.withoutPositions ∧ AlikeTokens r.2 s.2)
      (src.setting slash name ts) (src'.setting slash' name' us) := by
  have named := Token.congr_placeless names Token.text fun _ => rfl
  obtain ⟨rfl, rfl⟩ | ⟨t, u, ts, us, rfl, rfl, same, rest⟩ := alike.cases
  · exact ⟨congrArg Modifier.ofFlag named, rfl⟩
  · have kinds := Token.congr_placeless same Token.kind fun _ => rfl
    have relations := Token.congr_placeless same Token.text fun _ => rfl
    simp only [Source.setting, ← kinds]
    split
    · refine (agree_word rest .invalidModifierRelation).bind ?_
      rintro ⟨value, _⟩ ⟨value', _⟩ - - ⟨values, rest'⟩
      have valued : value.text = value'.text :=
        Token.congr_placeless values Token.text fun _ => rfl
      refine ⟨?_, rest'⟩
      simp only [Modifier.withoutPositions, Source.flagAt, named, relations, valued]
    · exact ⟨congrArg Modifier.ofFlag named, alike⟩

theorem agree_modifier {slash slash' : Token} {ts us : List Token} (alike : AlikeTokens ts us) :
    Agree (fun r s => r.1.withoutPositions = s.1.withoutPositions ∧ AlikeTokens r.2 s.2)
      (src.modifier slash ts) (src'.modifier slash' us) := by
  rw [src.modifier_eq, src'.modifier_eq]
  refine (agree_word alike .invalidModifier).bind ?_
  rintro ⟨name, rest⟩ ⟨name', rest'⟩ - - ⟨names, alike'⟩
  exact agree_setting names alike'

theorem agree_modifiers {ts us : List Token} (alike : AlikeTokens ts us) :
    Agree AlikeModifiers (src.modifiers ts) (src'.modifiers us) := by
  obtain ⟨rfl, rfl⟩ | ⟨t, u, ts, us, rfl, rfl, same, rest⟩ := alike.cases
  · rw [src.modifiers_stop rfl, src'.modifiers_stop rfl]
    exact ⟨rfl, rfl⟩
  · have kinds := Token.congr_placeless same Token.kind fun _ => rfl
    by_cases slash : t.kind = .slash
    · rw [src.modifiers_slash slash, src'.modifiers_slash (kinds ▸ slash)]
      refine (agree_modifier rest).bind ?_
      rintro ⟨m, after⟩ ⟨m', after'⟩ read - ⟨modifiers, alike'⟩
      have shorter := Source.modifier_length read
      refine (agree_modifiers alike').bind ?_
      rintro ⟨ms, left⟩ ⟨ms', left'⟩ - - ⟨more, alike''⟩
      refine ⟨?_, alike''⟩
      simp only at modifiers more
      simp only [List.map_cons, modifiers, more]
    · rw [src.modifiers_stop (by simpa using slash),
        src'.modifiers_stop (by simpa using kinds ▸ slash)]
      exact ⟨rfl, alike⟩
termination_by ts.length
decreasing_by
  subst_vars
  simp only [List.length_cons]
  omega

theorem agree_binding (table : PrefixTable) {first first' : Token}
    (firsts : first.placeless = first'.placeless) {ts us : List Token}
    (alike : AlikeTokens ts us) :
    Agree (fun r s => r.1 = s.1 ∧ AlikeTokens r.2 s.2)
      (src.binding table first ts) (src'.binding table first' us) := by
  have named := Token.congr_placeless firsts Token.text fun _ => rfl
  obtain ⟨rfl, rfl⟩ | ⟨t, u, ts, us, rfl, rfl, same, rest⟩ := alike.cases
  · exact ⟨congrArg (table.insert PrefixTable.defaultName) named, rfl⟩
  · have equals : t.isComparison "=" = u.isComparison "=" :=
      Token.congr_placeless same (·.isComparison "=") fun _ => rfl
    simp only [Source.binding, ← equals]
    split
    · refine (agree_word rest .expectedWord).bind ?_
      rintro ⟨uri, _⟩ ⟨uri', _⟩ - - ⟨uris, rest'⟩
      have bound : uri.text = uri'.text := Token.congr_placeless uris Token.text fun _ => rfl
      exact ⟨by rw [named, bound], rest'⟩
    · exact ⟨congrArg (table.insert PrefixTable.defaultName) named, alike⟩

theorem agree_declaration (table : PrefixTable) {ts us : List Token} (alike : AlikeTokens ts us) :
    Agree (fun r s => r.1 = s.1 ∧ AlikeTokens r.2 s.2)
      (src.declaration table ts) (src'.declaration table us) := by
  rw [src.declaration_eq, src'.declaration_eq]
  refine (agree_word alike .expectedWord).bind ?_
  rintro ⟨first, rest⟩ ⟨first', rest'⟩ - - ⟨firsts, alike'⟩
  exact agree_binding table firsts alike'

theorem withoutPositions_termClause (choices : src.choice = src'.choice) {scope scope' : IndexScope}
    (scopes : scope.withoutPositions = scope'.withoutPositions) (table : PrefixTable)
    {term term' : Token} (terms : term.placeless = term'.placeless) {ms ms' : List Modifier}
    (same : ms.map Modifier.withoutPositions = ms'.map Modifier.withoutPositions) :
    (src.termClause scope table term ms).withoutPositions =
      (src'.termClause scope' table term' ms').withoutPositions := by
  have texts := Token.congr_placeless terms Token.text fun _ => rfl
  have fields := congrArg IndexScope.field scopes
  have relations := congrArg IndexScope.relation scopes
  have inherited := congrArg IndexScope.modifiers scopes
  simp only [IndexScope.withoutPositions] at fields relations inherited
  simp only [Source.termClause, SearchClause.withoutPositions, List.map_append, choices, fields,
    relations, inherited, texts, same]

theorem withoutPositions_indexScope {name name' relation relation' : Token}
    (names : name.placeless = name'.placeless)
    (relations : relation.placeless = relation'.placeless)
    {ms ms' : List Modifier}
    (same : ms.map Modifier.withoutPositions = ms'.map Modifier.withoutPositions) :
    (Source.indexScope name relation ms).withoutPositions =
      (Source.indexScope name' relation' ms').withoutPositions := by
  have named := Token.congr_placeless names Token.text fun _ => rfl
  have related := Token.congr_placeless relations Token.text fun _ => rfl
  simp only [Source.indexScope, IndexScope.withoutPositions, named, related, same]

/-- All pairs of clauses that start with at most `n` alike tokens agree. -/
def ClausesAgree (src src' : Source) (n : Nat) : Prop :=
  ∀ (scope scope' : IndexScope) (table : PrefixTable) (ts us : List Token), ts.length ≤ n →
    scope.withoutPositions = scope'.withoutPositions → AlikeTokens ts us →
    Agree Reading.Alike (src.readClause scope table ts) (src'.readClause scope' table us)

/-- All pairs of chains of at most `n` alike tokens agree. -/
def ChainsAgree (src src' : Source) (n : Nat) : Prop :=
  ∀ (scope scope' : IndexScope) (table : PrefixTable) (left left' : Node) (ts us : List Token),
    ts.length ≤ n → scope.withoutPositions = scope'.withoutPositions →
    left.withoutPositions = left'.withoutPositions → AlikeTokens ts us →
    Agree Reading.Alike (src.readChain scope table left ts) (src'.readChain scope' table left' us)

/-- All pairs of queries that start with at most `n` alike tokens agree. -/
def QueriesAgree (src src' : Source) (n : Nat) : Prop :=
  ∀ (scope scope' : IndexScope) (table : PrefixTable) (ts us : List Token), ts.length ≤ n →
    scope.withoutPositions = scope'.withoutPositions → AlikeTokens ts us →
    Agree Reading.Alike (src.readQuery scope table ts) (src'.readQuery scope' table us)

theorem queriesAgree {n : Nat} (clauses : ClausesAgree src src' n)
    (chains : ChainsAgree src src' n) : QueriesAgree src src' n := by
  intro scope scope' table ts us bound scopes alike
  rw [src.readQuery_eq, src'.readQuery_eq]
  refine (clauses scope scope' table ts us bound scopes alike).bind ?_
  intro first first' read _ same
  have shorter := src.readClause_length scope table read
  rw [← same.table]
  exact chains scope scope' first.table _ _ _ _ (by omega) scopes same.node same.rest

theorem chainsAgree_succ {n : Nat} (clauses : ClausesAgree src src' n)
    (chains : ChainsAgree src src' n) : ChainsAgree src src' (n + 1) := by
  intro scope scope' table left left' ts us bound scopes lefts alike
  obtain ⟨rfl, rfl⟩ | ⟨t, u, ts, us, rfl, rfl, same, rest⟩ := alike.cases
  · rw [src.readChain_nil, src'.readChain_nil]
    exact ⟨lefts, rfl, rfl⟩
  · have operators : t.operator? = u.operator? :=
      Token.congr_placeless same Token.operator? fun _ => rfl
    simp only [List.length_cons] at bound
    cases operator : t.operator? with
    | none =>
      rw [src.readChain_stop scope table left operator,
        src'.readChain_stop scope' table left' (operators ▸ operator)]
      exact ⟨lefts, rfl, alike⟩
    | some op =>
      rw [src.readChain_join scope table left operator,
        src'.readChain_join scope' table left' (operators ▸ operator)]
      refine (agree_modifiers rest).bind ?_
      rintro ⟨ms, operand⟩ ⟨ms', operand'⟩ readModifiers - ⟨modifiers, operands⟩
      have fewer := Source.modifiers_length readModifiers
      refine (clauses scope scope' table operand operand' (by omega) scopes operands).bind ?_
      intro right right' readRight _ rights
      have shorter : right.rest.length < operand.length :=
        src.readClause_length scope table readRight
      rw [← rights.table]
      refine chains scope scope' right.table _ _ _ _ (by omega) scopes ?_ rights.rest
      rw [Node.withoutPositions_boolean, Node.withoutPositions_boolean, lefts, rights.node]
      simp only at modifiers
      simp only [Source.connective, Connective.withoutPositions, modifiers]

theorem agree_closeGroup {opening opening' : Token} {inner inner' : Reading}
    (alike : inner.Alike inner') :
    Agree Reading.Alike (src.closeGroup opening inner) (src'.closeGroup opening' inner') := by
  obtain ⟨node, table, ts⟩ := inner
  obtain ⟨node', table', us⟩ := inner'
  obtain ⟨nodes, tables, rests⟩ := alike
  simp only at nodes tables rests
  obtain ⟨rfl, rfl⟩ | ⟨t, u, ts, us, rfl, rfl, same, rest⟩ := rests.cases
  · exact alike_fail rfl _ _ _
  · have kinds := Token.congr_placeless same Token.kind fun _ => rfl
    simp only [Source.closeGroup, ← kinds]
    split
    · exact ⟨nodes, tables, rest⟩
    · exact alike_fail rests _ _ _

/-- A clause that starts with a word: an index if a relation comes next, else a term. -/
theorem agree_readClause_word (choices : src.choice = src'.choice) {n : Nat}
    (clauses : ClausesAgree src src' n) {scope scope' : IndexScope}
    (scopes : scope.withoutPositions = scope'.withoutPositions) (table : PrefixTable)
    {word word' : Token} (words : word.placeless = word'.placeless) (isWord : word.isWord = true)
    {ts us : List Token} (bound : ts.length ≤ n) (alike : AlikeTokens ts us) :
    Agree Reading.Alike (src.readClause scope table (word :: ts))
      (src'.readClause scope' table (word' :: us)) := by
  have isWord' : word'.isWord = true :=
    Token.congr_placeless words Token.isWord (fun _ => rfl) ▸ isWord
  cases follows : ts.head?.any Token.isRelation with
  | false =>
    have follows' : us.head?.any Token.isRelation = false := by
      rw [← follows]
      obtain ⟨rfl, rfl⟩ | ⟨t, u, ts, us, rfl, rfl, same, -⟩ := alike.cases
      · rfl
      · exact (Token.congr_placeless same Token.isRelation fun _ => rfl).symm
    rw [src.readClause_term scope table isWord follows,
      src'.readClause_term scope' table isWord' follows']
    refine (agree_modifiers alike).bind ?_
    rintro ⟨ms, rest⟩ ⟨ms', rest'⟩ - - ⟨modifiers, rests⟩
    exact ⟨congrArg Node.clause
      (withoutPositions_termClause choices scopes table words modifiers), rfl, rests⟩
  | true =>
    obtain ⟨rfl, rfl⟩ | ⟨t, u, ts, us, rfl, rfl, same, rest⟩ := alike.cases
    · cases follows
    · have isRelation : t.isRelation = true := follows
      have isRelation' : u.isRelation = true :=
        Token.congr_placeless same Token.isRelation (fun _ => rfl) ▸ isRelation
      simp only [List.length_cons] at bound
      rw [src.readClause_index scope table isWord isRelation,
        src'.readClause_index scope' table isWord' isRelation']
      refine (agree_modifiers rest).bind ?_
      rintro ⟨ms, inner⟩ ⟨ms', inner'⟩ read - ⟨modifiers, inners⟩
      have fewer := Source.modifiers_length read
      exact clauses _ _ table inner inner' (by omega)
        (withoutPositions_indexScope words same modifiers) inners

theorem clausesAgree_succ (choices : src.choice = src'.choice) {n : Nat}
    (clauses : ClausesAgree src src' n) (queries : QueriesAgree src src' n) :
    ClausesAgree src src' (n + 1) := by
  intro scope scope' table ts us bound scopes alike
  obtain ⟨rfl, rfl⟩ | ⟨t, u, ts, us, rfl, rfl, same, rest⟩ := alike.cases
  · rw [src.readClause_nil, src'.readClause_nil]
    exact alike_fail rfl _ _ _
  · have kinds := Token.congr_placeless same Token.kind fun _ => rfl
    have words := Token.congr_placeless same Token.isWord fun _ => rfl
    have marks : t.isComparison ">" = u.isComparison ">" :=
      Token.congr_placeless same (·.isComparison ">") fun _ => rfl
    simp only [List.length_cons] at bound
    by_cases opens : t.kind = .openParen
    · rw [src.readClause_group scope table opens,
        src'.readClause_group scope' table (kinds ▸ opens)]
      refine (queries _ _ table ts us (by omega) ?_ rest).bind ?_
      · exact scopes
      · intro inner inner' _ _ alike'
        exact agree_closeGroup alike'
    · cases isWord : t.isWord with
      | true =>
        exact agree_readClause_word choices clauses scopes table same isWord (by omega) rest
      | false =>
        cases mark : t.isComparison ">" with
        | true =>
          rw [src.readClause_declaration scope table mark,
            src'.readClause_declaration scope' table (marks ▸ mark)]
          refine (agree_declaration table rest).bind ?_
          rintro ⟨declared, inner⟩ ⟨declared', inner'⟩ read - ⟨tables, inners⟩
          obtain rfl : declared = declared' := tables
          have fewer := Source.declaration_length read
          exact queries scope scope' declared inner inner' (by omega) scopes inners
        | false =>
          rw [src.readClause_other scope table opens isWord mark,
            src'.readClause_other scope' table (kinds ▸ opens) (words ▸ isWord) (marks ▸ mark)]
          exact alike_fail alike _ _ _

theorem all_agree (choices : src.choice = src'.choice) (n : Nat) :
    ClausesAgree src src' n ∧ ChainsAgree src src' n := by
  induction n with
  | zero =>
    constructor
    · intro scope scope' table ts us bound _ alike
      obtain ⟨rfl, rfl⟩ | ⟨t, u, ts, us, rfl, -⟩ := alike.cases
      · rw [src.readClause_nil, src'.readClause_nil]
        exact alike_fail rfl _ _ _
      · cases bound
    · intro scope scope' table left left' ts us bound _ lefts alike
      obtain ⟨rfl, rfl⟩ | ⟨t, u, ts, us, rfl, -⟩ := alike.cases
      · rw [src.readChain_nil, src'.readChain_nil]
        exact ⟨lefts, rfl, rfl⟩
      · cases bound
  | succ n ih =>
    obtain ⟨clauses, chains⟩ := ih
    exact ⟨clausesAgree_succ choices clauses (queriesAgree clauses chains),
      chainsAgree_succ clauses chains⟩

/-- Queries of alike tokens, read in alike scopes, give alike results or fail alike. -/
theorem agree_readQuery (choices : src.choice = src'.choice) {scope scope' : IndexScope}
    (scopes : scope.withoutPositions = scope'.withoutPositions) (table : PrefixTable)
    {ts us : List Token} (alike : AlikeTokens ts us) :
    Agree Reading.Alike (src.readQuery scope table ts) (src'.readQuery scope' table us) := by
  obtain ⟨clauses, chains⟩ := all_agree choices ts.length
  exact queriesAgree clauses chains scope scope' table ts us (Nat.le_refl _) scopes alike

theorem agree_endQuery {r s : Reading} (alike : r.Alike s) :
    Agree (fun n m => n.withoutPositions = m.withoutPositions) (src.endQuery r)
      (src'.endQuery s) := by
  obtain ⟨node, table, ts⟩ := r
  obtain ⟨node', table', us⟩ := s
  obtain ⟨nodes, -, rests⟩ := alike
  simp only at nodes rests
  obtain ⟨rfl, rfl⟩ | ⟨t, u, ts, us, rfl, rfl, same, -⟩ := rests.cases
  · exact nodes
  · have kinds := Token.congr_placeless same Token.kind fun _ => rfl
    have texts := Token.congr_placeless same Token.text? fun _ => rfl
    simp only [Source.endQuery, ← kinds]
    split
    · exact ⟨rfl, rfl, kinds, texts⟩
    · exact alike_fail rests _ _ _

/-- Alike tokens are read to trees that differ in their positions only, or fail alike. -/
theorem agree_parseAll (choices : src.choice = src'.choice) {ts us : List Token}
    (alike : AlikeTokens ts us) :
    Agree (fun n m => n.withoutPositions = m.withoutPositions) (src.parseAll ts)
      (src'.parseAll us) := by
  have scopes : (IndexScope.ofChoice src.choice).withoutPositions =
      (IndexScope.ofChoice src'.choice).withoutPositions := by rw [choices]
  have query := agree_readQuery choices scopes .empty alike
  obtain ⟨rfl, rfl⟩ | ⟨t, u, ts, us, rfl, rfl, -⟩ := alike.cases
  · exact alike_fail rfl _ _ _
  · rw [src.parseAll_eq (by simp), src'.parseAll_eq (by simp)]
    exact query.bind fun _ _ _ _ same => agree_endQuery same

/-- What the parser may look at: the kinds and texts of the tokens of a query. -/
def tokenTexts (query : String) : List (TokenKind × String) :=
  (tokenize query).map fun t => (t.kind, t.text)

theorem alikeTokens_of_tokenTexts {query query' : String}
    (same : tokenTexts query = tokenTexts query') :
    AlikeTokens (tokenize query) (tokenize query') := by
  have placed : ∀ t : Token, t.placeless = Token.spelled t.kind t.text := fun _ => rfl
  have spelled (q : String) : (tokenize q).map Token.placeless =
      (tokenTexts q).map fun pair => Token.spelled pair.1 pair.2 := by
    rw [tokenTexts, List.map_map]
    exact List.map_congr_left fun t _ => placed t
  rw [AlikeTokens, spelled, spelled, same]

/-- Two queries whose tokens have the same kinds and texts, whatever blanks set them apart and
however their quoted texts are written, are both read, to trees that differ at most in positions, or
both fail, with errors that differ at most in their place. -/
theorem parse_of_same_tokens {query query' : String} (same : tokenTexts query = tokenTexts query')
    (choice : ServerChoice) :
    (∃ n n', Node.parse query choice = .ok n ∧ Node.parse query' choice = .ok n' ∧
      n.withoutPositions = n'.withoutPositions) ∨
    ∃ e e', Node.parse query choice = .error e ∧ Node.parse query' choice = .error e' ∧
      e.kind = e'.kind ∧ e.message = e'.message ∧ e.lookahead = e'.lookahead ∧
      e.token = e'.token ∧ e.tokenLower = e'.tokenLower := by
  have alike := alikeTokens_of_tokenTexts same
  have agree : Agree (fun n m => n.withoutPositions = m.withoutPositions)
      (Source.parseAll ⟨query, choice⟩ (tokenize query))
      (Source.parseAll ⟨query', choice⟩ (tokenize query')) :=
    agree_parseAll (by rfl) alike
  rw [← Node.parse, ← Node.parse] at agree
  cases parsed : Node.parse query choice with
  | ok n =>
    cases parsed' : Node.parse query' choice with
    | ok n' =>
      rw [parsed, parsed'] at agree
      exact .inl ⟨n, n', rfl, rfl, agree⟩
    | error e' =>
      rw [parsed, parsed'] at agree
      exact agree.elim
  | error e =>
    cases parsed' : Node.parse query' choice with
    | ok n' =>
      rw [parsed, parsed'] at agree
      exact agree.elim
    | error e' =>
      rw [parsed, parsed'] at agree
      have lower : e.tokenLower = e'.tokenLower := by
        rw [QueryError.tokenLower, QueryError.tokenLower, agree.token]
      exact .inr ⟨e, e', rfl, rfl, agree.kind, agree.message, agree.lookahead, agree.token, lower⟩

/-- A line break for a blank, one quotation mark for the other, and a needless escape: first in
queries that are read, then in queries that fail at a token too many. -/
theorem parse_of_same_tokens_requoted :
    (∃ n n', Node.parse "title any \"a 'b\"" {} = .ok n ∧
      Node.parse "title\nany '\\a \\'b'" {} = .ok n' ∧
      n.withoutPositions = n'.withoutPositions) ∧
    ∃ e e', Node.parse "a and \"b\") C" {} = .error e ∧
      Node.parse "a and 'b' )C" {} = .error e' ∧ e.kind = e'.kind ∧ e.message = e'.message ∧
      e.lookahead = e'.lookahead ∧ e.token = e'.token ∧ e.tokenLower = e'.tokenLower := by
  constructor
  · have same : tokenTexts "title any \"a 'b\"" = tokenTexts "title\nany '\\a \\'b'" := by
      decide +kernel
    have accepted : (Node.parse "title any \"a 'b\"" {}).isOk = true := by decide +kernel
    obtain read | ⟨e, -, failed, -⟩ := parse_of_same_tokens same {}
    · exact read
    · rw [failed] at accepted
      cases accepted
  · have same : tokenTexts "a and \"b\") C" = tokenTexts "a and 'b' )C" := by decide +kernel
    have refused : (Node.parse "a and \"b\") C" {}).isOk = false := by decide +kernel
    obtain ⟨n, -, read, -⟩ | failed := parse_of_same_tokens same {}
    · rw [read] at refused
      cases refused
    · exact failed

end ContextualQuery
