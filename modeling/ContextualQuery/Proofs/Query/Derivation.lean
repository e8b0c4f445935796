import ContextualQuery.Proofs.Query.Phrase

namespace ContextualQuery

/-- After a clause comes an operator, a closing parenthesis or the end. -/
def EndsClause (after : List Token) : Prop :=
  after.head?.all (fun t => t.isOperator || t.isKind .closeParen) = true

/-- After a query comes a closing parenthesis or the end. -/
def EndsQuery (after : List Token) : Prop := after.head?.all (Token.isKind .closeParen) = true

theorem isOperator_iff {t : Token} : t.isOperator = true ↔ ∃ op, t.operator? = some op := by
  simp [Token.isOperator, Option.isSome_iff_exists]

theorem kind_eq_bareword_of_operator? {t : Token} {op : BooleanOp} (h : t.operator? = some op) :
    t.kind = .bareword := by
  by_cases bare : t.kind = .bareword
  · exact bare
  · simp [Token.operator?, bare] at h

theorem isRelation_of_isOperator {t : Token} (h : t.isOperator = true) : t.isRelation = false := by
  obtain ⟨op, hop⟩ := isOperator_iff.mp h
  have bare := kind_eq_bareword_of_operator? hop
  rw [Token.operator?, if_pos bare] at hop
  simp [Token.isRelation, bare, hop]

theorem isWord_of_isOperator {t : Token} (h : t.isOperator = true) : t.isWord = true := by
  obtain ⟨op, hop⟩ := isOperator_iff.mp h
  simp [Token.isWord, kind_eq_bareword_of_operator? hop]

theorem not_comparison_of_isWord {t : Token} (h : t.isWord = true) :
    t.isKind .comparison = false := by
  cases kind : t.kind <;> simp [Token.isWord, Token.isKind, kind] at h ⊢

/-- A word or comparison that does not make the word before it an index is an operator. -/
theorem isOperator_of_not_isRelation {t : Token} (h : (t.isWord || t.isKind .comparison) = true)
    (not : t.isRelation = false) : t.isOperator = true := by
  cases kind : t.kind <;>
    simp [Token.isWord, Token.isKind, Token.isRelation, Token.isOperator, Token.operator?, kind]
      at h not ⊢
  exact not

theorem EndsQuery.endsClause {after : List Token} (h : EndsQuery after) : EndsClause after := by
  cases after with
  | nil => rfl
  | cons t ts =>
    simp only [EndsQuery, EndsClause, List.head?_cons, Option.all_some] at h ⊢
    simp [h]

theorem EndsQuery.not_operator {after : List Token} (h : EndsQuery after) :
    NextIsNot Token.isOperator after := by
  cases after with
  | nil => simp
  | cons t ts =>
    simp only [EndsQuery, List.head?_cons, Option.all_some, Token.isKind, beq_iff_eq] at h
    simp [Token.isOperator, Token.operator?, h]

/-- What ends a clause and is no operator ends the query as well. -/
theorem EndsClause.endsQuery {after : List Token} (h : EndsClause after)
    (stops : NextIsNot Token.isOperator after) : EndsQuery after := by
  cases after with
  | nil => rfl
  | cons t ts => simp_all [EndsQuery, EndsClause]

theorem EndsClause.not_isRelation {after : List Token} (h : EndsClause after) :
    NextIsNot Token.isRelation after := by
  cases after with
  | nil => simp
  | cons t ts =>
    simp only [EndsClause, List.head?_cons, Option.all_some, Bool.or_eq_true] at h
    obtain operator | closing := h
    · simpa using isRelation_of_isOperator operator
    · simp only [Token.isKind, beq_iff_eq] at closing
      simp [Token.isRelation, closing]

/-- What ends a clause is no token of a kind that is neither a word nor a parenthesis. -/
theorem EndsClause.not_isKind {after : List Token} (h : EndsClause after) {kind : TokenKind}
    (notWord : kind ≠ .bareword) (notQuoted : kind ≠ .quoted) (notClosing : kind ≠ .closeParen) :
    NextIsNot (Token.isKind kind) after := by
  cases after with
  | nil => simp
  | cons t ts =>
    simp only [EndsClause, List.head?_cons, Option.all_some, Bool.or_eq_true] at h
    simp only [nextIsNot_cons, Token.isKind, beq_eq_false_iff_ne]
    rintro rfl
    obtain operator | closing := h
    · have word := isWord_of_isOperator operator
      simp only [Token.isWord, Bool.or_eq_true, beq_iff_eq] at word
      exact word.elim notWord notQuoted
    · exact notClosing (by simpa [Token.isKind] using closing)

/-- Where a clause ends, a term does. -/
theorem EndsClause.settled_term {after : List Token} (h : EndsClause after) (word : Word)
    (ms : List ModifierPhrase) : (ClausePhrase.term word ms).Settled after := by
  cases ms with
  | nil => exact h.not_isRelation
  | cons m ms =>
    have kind : m.slash.1.kind = .slash := by simpa [Token.isKind] using m.slash.2
    simp [ClausePhrase.Settled, ModifierPhrase.tokens, Token.isRelation, kind]

theorem ChainPhrase.endsClause (k : ChainPhrase) {after : List Token} (h : EndsClause after) :
    EndsClause (k.tokens ++ after) := by
  cases k with
  | done => simpa [ChainPhrase.tokens] using h
  | join operator ms operand rest =>
    simp [ChainPhrase.tokens, EndsClause, operator.2]

/-- A clause starts with an opening parenthesis, a word or `>`. -/
theorem ClausePhrase.tokens_start (c : ClausePhrase) :
    ∃ t ts, c.tokens = t :: ts ∧
      (t.kind = .openParen ∨ t.isWord = true ∨ t.isComparison ">" = true) := by
  cases c with
  | group opening inner closing =>
    exact ⟨_, _, rfl, .inl (by simpa [Token.isKind] using opening.2)⟩
  | declared declaration inner => exact ⟨_, _, rfl, .inr (.inr declaration.mark.2)⟩
  | indexed name relation ms inner => exact ⟨_, _, rfl, .inr (.inl name.2)⟩
  | term word ms => exact ⟨_, _, rfl, .inr (.inl word.2)⟩

theorem ClausePhrase.not_slash (c : ClausePhrase) (after : List Token) :
    NextIsNot (Token.isKind .slash) (c.tokens ++ after) := by
  obtain ⟨t, ts, start, cases⟩ := c.tokens_start
  rw [start, List.cons_append, nextIsNot_cons, Token.isKind, beq_eq_false_iff_ne]
  intro slash
  simp [slash, Token.isWord, Token.isComparison] at cases

theorem ClausePhrase.not_equals (c : ClausePhrase) (after : List Token) :
    NextIsNot (·.isComparison "=") (c.tokens ++ after) := by
  obtain ⟨t, ts, start, cases⟩ := c.tokens_start
  rw [start, List.cons_append, nextIsNot_cons]
  cases equals : t.isComparison "=" with
  | false => rfl
  | true =>
    simp only [Token.isComparison, Bool.and_eq_true, beq_iff_eq] at equals
    simp [Token.isWord, Token.isComparison, equals.1, equals.2] at cases

theorem QueryPhrase.not_equals (q : QueryPhrase) (after : List Token) :
    NextIsNot (·.isComparison "=") (q.tokens ++ after) := by
  obtain ⟨first, rest⟩ := q
  rw [QueryPhrase.tokens, List.append_assoc]
  exact first.not_equals _

theorem ModifierPhrase.read (m : ModifierPhrase) (src : Source) {after : List Token}
    (greedy : m.setting = none → NextIsNot (Token.isKind .comparison) after) :
    src.modifiers (m.tokens ++ after) =
      (src.modifiers after).bind fun (ms, rest) => .ok (m.modifier :: ms, rest) := by
  obtain ⟨slash, name, setting⟩ := m
  have kind : slash.1.kind = .slash := by simpa [Token.isKind] using slash.2
  cases setting with
  | none =>
    have one : src.modifier slash.1 (name.1 :: after) =
        .ok (ModifierPhrase.modifier ⟨slash, name, none⟩, after) := by
      simp only [Source.modifier, Source.word_cons name.2]
      cases after with
      | nil => rfl
      | cons t ts =>
        have stops : t.kind ≠ .comparison := by simpa [Token.isKind] using greedy rfl
        simp [stops, ModifierPhrase.modifier]
    simp only [ModifierPhrase.tokens, List.cons_append, List.nil_append]
    rw [src.modifiers_slash kind, one]
    rfl
  | some pair =>
    obtain ⟨comparison, value⟩ := pair
    have kind' : comparison.1.kind = .comparison := by simpa [Token.isKind] using comparison.2
    have one : src.modifier slash.1 (name.1 :: comparison.1 :: value.1 :: after) =
        .ok (ModifierPhrase.modifier ⟨slash, name, some (comparison, value)⟩, after) := by
      simp [Source.modifier, Source.word_cons name.2, Source.word_cons value.2, kind',
        ModifierPhrase.modifier]
    simp only [ModifierPhrase.tokens, List.cons_append, List.nil_append]
    rw [src.modifiers_slash kind, one]
    rfl

theorem read_modifierTokens (src : Source) {ms : List ModifierPhrase} {after : List Token}
    (greedy : GreedyModifiers ms after) (stops : NextIsNot (Token.isKind .slash) after) :
    src.modifiers (modifierTokens ms ++ after) = .ok (ms.map ModifierPhrase.modifier, after) := by
  induction ms with
  | nil => exact src.modifiers_stop stops
  | cons m ms ih =>
    rw [modifierTokens_cons, List.append_assoc, m.read src greedy.1, ih greedy.2]
    rfl

theorem phrase_of_modifier {src : Source} {slash : Token} (kind : slash.kind = .slash)
    {ts rest : List Token} {mod : Modifier} (h : src.modifier slash ts = .ok (mod, rest)) :
    ∃ m : ModifierPhrase, slash :: ts = m.tokens ++ rest ∧ mod = m.modifier ∧
      (m.setting = none → NextIsNot (Token.isKind .comparison) rest) := by
  have kind' : slash.isKind .slash = true := by simp [Token.isKind, kind]
  unfold Source.modifier at h
  split at h
  · cases h
  · rename_i name us hname
    obtain ⟨rfl, isWord⟩ := Source.word_eq_ok_iff.mp hname
    split at h
    · cases h
      exact ⟨⟨⟨slash, kind'⟩, ⟨name, isWord⟩, none⟩, rfl, rfl, fun _ => by simp⟩
    · rename_i next tail
      split at h
      · rename_i comparison
        split at h
        · cases h
        · rename_i value vs hvalue
          obtain ⟨rfl, isWord'⟩ := Source.word_eq_ok_iff.mp hvalue
          cases h
          exact ⟨⟨⟨slash, kind'⟩, ⟨name, isWord⟩,
            some (⟨next, by simp [Token.isKind, comparison]⟩, ⟨value, isWord'⟩)⟩,
            rfl, rfl, fun absent => by cases absent⟩
      · rename_i other
        cases h
        exact ⟨⟨⟨slash, kind'⟩, ⟨name, isWord⟩, none⟩, rfl, rfl,
          fun _ => by simp [Token.isKind, other]⟩

theorem phrases_of_modifiers {src : Source} {ts rest : List Token} {mods : List Modifier}
    (h : src.modifiers ts = .ok (mods, rest)) :
    ∃ ms : List ModifierPhrase, ts = modifierTokens ms ++ rest ∧
      mods = ms.map ModifierPhrase.modifier ∧ GreedyModifiers ms rest ∧
      NextIsNot (Token.isKind .slash) rest := by
  fun_induction Source.modifiers src ts generalizing mods rest with
  | case1 =>
    cases h
    exact ⟨[], rfl, rfl, trivial, by simp⟩
  | case2 => cases h
  | case3 => cases h
  | case4 slash us kind mod after hm mods' after' hms ih =>
    cases h
    obtain ⟨m, tokens, same, greedy⟩ := phrase_of_modifier kind hm
    obtain ⟨ms, tokens', same', greedy', stops⟩ := ih hms
    refine ⟨m :: ms, ?_, ?_, ⟨?_, greedy'⟩, stops⟩
    · rw [tokens, tokens', modifierTokens_cons, List.append_assoc]
    · rw [same, same', List.map_cons]
    · rw [← tokens']
      exact greedy
  | case5 slash us other =>
    cases h
    exact ⟨[], rfl, rfl, trivial, by simp [Token.isKind, other]⟩

theorem DeclarationPhrase.read (d : DeclarationPhrase) (src : Source) (table : PrefixTable)
    {after : List Token} (stops : d.uri = none → NextIsNot (·.isComparison "=") after) :
    src.declaration table (d.tokens.tail ++ after) = .ok (d.bind table, after) := by
  obtain ⟨mark, first, uri⟩ := d
  cases uri with
  | none =>
    simp only [DeclarationPhrase.tokens, List.tail_cons, List.cons_append, List.nil_append,
      Source.declaration, Source.word_cons first.2]
    cases after with
    | nil => rfl
    | cons t ts =>
      have notEquals : t.isComparison "=" = false := by simpa using stops rfl
      simp [notEquals, DeclarationPhrase.bind]
  | some pair =>
    obtain ⟨equals, uri⟩ := pair
    simp [DeclarationPhrase.tokens, Source.declaration, Source.word_cons first.2,
      Source.word_cons uri.2, equals.2, DeclarationPhrase.bind]

theorem phrase_of_declaration {src : Source} {mark : Token} (hmark : mark.isComparison ">" = true)
    {table table' : PrefixTable} {ts rest : List Token}
    (h : src.declaration table ts = .ok (table', rest)) :
    ∃ d : DeclarationPhrase, mark :: ts = d.tokens ++ rest ∧ table' = d.bind table := by
  unfold Source.declaration at h
  split at h
  · cases h
  · rename_i first us hfirst
    obtain ⟨rfl, isWord⟩ := Source.word_eq_ok_iff.mp hfirst
    split at h
    · cases h
      exact ⟨⟨⟨mark, hmark⟩, ⟨first, isWord⟩, none⟩, rfl, rfl⟩
    · rename_i equals tail
      split at h
      · rename_i isEquals
        split at h
        · cases h
        · rename_i uri vs huri
          obtain ⟨rfl, isWord'⟩ := Source.word_eq_ok_iff.mp huri
          cases h
          exact ⟨⟨⟨mark, hmark⟩, ⟨first, isWord⟩, some (⟨equals, isEquals⟩, ⟨uri, isWord'⟩)⟩,
            rfl, rfl⟩
      · cases h
        exact ⟨⟨⟨mark, hmark⟩, ⟨first, isWord⟩, none⟩, rfl, rfl⟩

mutual

theorem QueryPhrase.read (src : Source) : ∀ (q : QueryPhrase) (scope : IndexScope)
    (table : PrefixTable) {after : List Token}, q.Greedy after → q.Settled after →
    EndsQuery after →
    src.readQuery scope table (q.tokens ++ after) =
      .ok ⟨(q.value src scope table).1, (q.value src scope table).2, after⟩
  | .chain first rest, scope, table, after, greedy, settled, ends => by
    have clause := first.read src scope table greedy.1 settled.1
      (rest.endsClause ends.endsClause)
    rw [QueryPhrase.tokens, List.append_assoc, src.readQuery_eq, clause]
    exact rest.read src scope _ _ greedy.2 settled.2 ends

theorem ChainPhrase.read (src : Source) : ∀ (k : ChainPhrase) (scope : IndexScope)
    (table : PrefixTable) (left : Node) {after : List Token}, k.Greedy after → k.Settled after →
    EndsQuery after →
    src.readChain scope table left (k.tokens ++ after) =
      .ok ⟨(k.value src scope table left).1, (k.value src scope table left).2, after⟩
  | .done, scope, table, left, after, _, _, ends => by
    have stops := ends.not_operator
    cases after with
    | nil => exact src.readChain_nil scope table left
    | cons t ts =>
      have notOperator : t.operator? = none := by
        simpa [Token.isOperator] using stops
      exact src.readChain_stop scope table left notOperator ts
  | .join operator ms operand rest, scope, table, left, after, greedy, settled, ends => by
    have hop : operator.1.operator? = some operator.op := (Option.some_get _).symm
    have mods := read_modifierTokens src greedy.1 (operand.not_slash _)
    have clause := operand.read src scope table greedy.2.1 settled.1
      (rest.endsClause ends.endsClause)
    simp only [ChainPhrase.tokens, List.cons_append, List.append_assoc]
    rw [src.readChain_join scope table left hop, mods]
    simp only [Except.bind]
    rw [clause]
    exact rest.read src scope _ _ greedy.2.2 settled.2 ends

theorem ClausePhrase.read (src : Source) : ∀ (c : ClausePhrase) (scope : IndexScope)
    (table : PrefixTable) {after : List Token}, c.Greedy after → c.Settled after →
    EndsClause after →
    src.readClause scope table (c.tokens ++ after) =
      .ok ⟨(c.value src scope table).1, (c.value src scope table).2, after⟩
  | .group opening inner closing, scope, table, after, greedy, settled, ends => by
    have opens : opening.1.kind = .openParen := by simpa [Token.isKind] using opening.2
    have closes : closing.1.kind = .closeParen := by simpa [Token.isKind] using closing.2
    have query := inner.read src { scope with start := none } table greedy settled
      (by simp [EndsQuery, closing.2])
    simp only [ClausePhrase.tokens, List.cons_append, List.append_assoc, List.nil_append]
    rw [src.readClause_group scope table opens, query]
    simp [Except.bind, Source.closeGroup, closes, ClausePhrase.value]
  | .declared declaration inner, scope, table, after, greedy, settled, ends => by
    have bound := declaration.read src table fun _ => inner.not_equals after
    have query := inner.read src scope (declaration.bind table) greedy settled.1
      (ends.endsQuery settled.2)
    have tokens : (ClausePhrase.declared declaration inner).tokens ++ after =
        declaration.mark.1 :: (declaration.tokens.tail ++ (inner.tokens ++ after)) := by
      simp [ClausePhrase.tokens, DeclarationPhrase.tokens]
    rw [tokens, src.readClause_declaration scope table declaration.mark.2, bound]
    exact query
  | .indexed name relation ms inner, scope, table, after, greedy, settled, ends => by
    have mods := read_modifierTokens src greedy.1 (inner.not_slash _)
    simp only [ClausePhrase.tokens, List.cons_append, List.append_assoc]
    rw [src.readClause_index scope table name.2 settled.1, mods]
    exact inner.read src _ table greedy.2 settled.2 ends
  | .term word ms, scope, table, after, greedy, settled, ends => by
    have mods := read_modifierTokens src greedy (ends.not_isKind (by simp) (by simp) (by simp))
    rw [ClausePhrase.tokens, List.cons_append, src.readClause_term scope table word.2 settled, mods]
    rfl

end

/-- Every clause read from at most `n` tokens is the value of a phrase. -/
def ClausesArePhrases (src : Source) (n : Nat) : Prop :=
  ∀ (scope : IndexScope) (table : PrefixTable) (ts : List Token) (r : Reading), ts.length ≤ n →
    src.readClause scope table ts = .ok r →
    ∃ c : ClausePhrase, ts = c.tokens ++ r.rest ∧ c.Greedy r.rest ∧ c.Settled r.rest ∧
      c.value src scope table = (r.node, r.table)

/-- Every chain read from at most `n` tokens is the value of a phrase, and stops only where no
operator comes next. -/
def ChainsArePhrases (src : Source) (n : Nat) : Prop :=
  ∀ (scope : IndexScope) (table : PrefixTable) (left : Node) (ts : List Token) (r : Reading),
    ts.length ≤ n → src.readChain scope table left ts = .ok r →
    ∃ k : ChainPhrase, ts = k.tokens ++ r.rest ∧ k.Greedy r.rest ∧ k.Settled r.rest ∧
      NextIsNot Token.isOperator r.rest ∧ k.value src scope table left = (r.node, r.table)

/-- Every query read from at most `n` tokens is the value of a phrase, and stops only where no
operator comes next. -/
def QueriesArePhrases (src : Source) (n : Nat) : Prop :=
  ∀ (scope : IndexScope) (table : PrefixTable) (ts : List Token) (r : Reading), ts.length ≤ n →
    src.readQuery scope table ts = .ok r →
    ∃ q : QueryPhrase, ts = q.tokens ++ r.rest ∧ q.Greedy r.rest ∧ q.Settled r.rest ∧
      NextIsNot Token.isOperator r.rest ∧ q.value src scope table = (r.node, r.table)

theorem queriesArePhrases {src : Source} {n : Nat} (clauses : ClausesArePhrases src n)
    (chains : ChainsArePhrases src n) : QueriesArePhrases src n := by
  intro scope table ts r bound h
  rw [src.readQuery_eq, Except.bind_eq_ok_iff] at h
  obtain ⟨head, hhead, htail⟩ := h
  have shorter := src.readClause_length scope table hhead
  obtain ⟨c, tokens, greedy, settled, value⟩ := clauses scope table ts head bound hhead
  obtain ⟨k, tokens', greedy', settled', stops, value'⟩ :=
    chains scope head.table head.node head.rest r (by omega) htail
  refine ⟨.chain c k, ?_, ⟨tokens' ▸ greedy, greedy'⟩, ⟨tokens' ▸ settled, settled'⟩, stops, ?_⟩
  · rw [tokens, tokens', QueryPhrase.tokens, List.append_assoc]
  · simp only [QueryPhrase.value, value, value']

theorem chainsArePhrases_succ {src : Source} {n : Nat} (clauses : ClausesArePhrases src n)
    (chains : ChainsArePhrases src n) : ChainsArePhrases src (n + 1) := by
  intro scope table left ts r bound h
  cases ts with
  | nil =>
    rw [src.readChain_nil] at h
    cases h
    exact ⟨.done, rfl, trivial, trivial, by simp, rfl⟩
  | cons word after =>
    cases hop : word.operator? with
    | none =>
      rw [src.readChain_stop scope table left hop] at h
      cases h
      exact ⟨.done, rfl, trivial, trivial, by simp [Token.isOperator, hop], rfl⟩
    | some op =>
      rw [src.readChain_join scope table left hop, Except.bind_eq_ok_iff] at h
      obtain ⟨⟨mods, operand⟩, hmods, h⟩ := h
      obtain ⟨right, hright, h⟩ := Except.bind_eq_ok_iff.mp h
      have fewer := Source.modifiers_length hmods
      have shorter := src.readClause_length scope table hright
      simp only [List.length_cons] at bound
      obtain ⟨ms, rfl, rfl, greedy, -⟩ := phrases_of_modifiers hmods
      obtain ⟨c, tokens, greedy', settled', value⟩ :=
        clauses scope table operand right (by omega) hright
      obtain ⟨k, tokens', greedy'', settled'', stops, value'⟩ :=
        chains scope right.table _ right.rest r (by omega) h
      have spelled : word.isOperator = true := by simp [Token.isOperator, hop]
      have same : Operator.op ⟨word, spelled⟩ = op := by simp [Operator.op, hop]
      subst tokens
      rw [tokens'] at greedy greedy' settled'
      refine ⟨.join ⟨word, spelled⟩ ms c k, ?_, ⟨greedy, greedy', greedy''⟩,
        ⟨settled', settled''⟩, stops, ?_⟩
      · rw [tokens']
        simp [ChainPhrase.tokens]
      · simp only [ChainPhrase.value, same, value, value']

theorem groupsArePhrases {src : Source} {n : Nat} (queries : QueriesArePhrases src n)
    {scope : IndexScope} {table : PrefixTable} {opening : Token} {after : List Token} {r : Reading}
    (opens : opening.kind = .openParen) (bound : after.length ≤ n)
    (h : src.readClause scope table (opening :: after) = .ok r) :
    ∃ c : ClausePhrase, opening :: after = c.tokens ++ r.rest ∧ c.Greedy r.rest ∧
      c.Settled r.rest ∧ c.value src scope table = (r.node, r.table) := by
  rw [src.readClause_group scope table opens, Except.bind_eq_ok_iff] at h
  obtain ⟨⟨node, declared, rest⟩, hinner, hclose⟩ := h
  obtain ⟨q, tokens, greedy, settled, -, value⟩ := queries _ table after _ bound hinner
  cases rest with
  | nil => cases hclose
  | cons closing rest =>
    simp only [Source.closeGroup] at hclose
    split at hclose
    · rename_i closes
      cases hclose
      refine ⟨.group ⟨opening, by simp [Token.isKind, opens]⟩ q
        ⟨closing, by simp [Token.isKind, closes]⟩, ?_, greedy, settled, value⟩
      rw [tokens]
      simp [ClausePhrase.tokens]
    · cases hclose

theorem declaredArePhrases {src : Source} {n : Nat} (queries : QueriesArePhrases src n)
    {scope : IndexScope} {table : PrefixTable} {mark : Token} {after : List Token} {r : Reading}
    (isMark : mark.isComparison ">" = true) (bound : after.length ≤ n)
    (h : src.readClause scope table (mark :: after) = .ok r) :
    ∃ c : ClausePhrase, mark :: after = c.tokens ++ r.rest ∧ c.Greedy r.rest ∧
      c.Settled r.rest ∧ c.value src scope table = (r.node, r.table) := by
  rw [src.readClause_declaration scope table isMark, Except.bind_eq_ok_iff] at h
  obtain ⟨⟨table', inner⟩, hd, h⟩ := h
  have fewer := Source.declaration_length hd
  obtain ⟨d, tokens, rfl⟩ := phrase_of_declaration isMark hd
  obtain ⟨q, tokens', greedy, settled, stops, value⟩ := queries scope _ inner r (by omega) h
  refine ⟨.declared d q, ?_, greedy, ⟨settled, stops⟩, value⟩
  rw [tokens, tokens', ClausePhrase.tokens, List.append_assoc]

theorem wordOrComparison_of_isRelation {t : Token} (h : t.isRelation = true) :
    (t.isWord || t.isKind .comparison) = true := by
  revert h
  cases kind : t.kind <;> simp [Token.isRelation, Token.isWord, Token.isKind, kind]

theorem indexedArePhrases {src : Source} {n : Nat} (clauses : ClausesArePhrases src n)
    {scope : IndexScope} {table : PrefixTable} {name relation : Token} {after : List Token}
    {r : Reading} (isWord : name.isWord = true) (isRelation : relation.isRelation = true)
    (bound : after.length ≤ n)
    (h : src.readClause scope table (name :: relation :: after) = .ok r) :
    ∃ c : ClausePhrase, name :: relation :: after = c.tokens ++ r.rest ∧ c.Greedy r.rest ∧
      c.Settled r.rest ∧ c.value src scope table = (r.node, r.table) := by
  rw [src.readClause_index scope table isWord isRelation, Except.bind_eq_ok_iff] at h
  obtain ⟨⟨mods, inner⟩, hmods, h⟩ := h
  have fewer := Source.modifiers_length hmods
  obtain ⟨ms, rfl, rfl, greedy, -⟩ := phrases_of_modifiers hmods
  obtain ⟨c, tokens, greedy', settled, value⟩ := clauses _ table inner r (by omega) h
  subst tokens
  refine ⟨.indexed ⟨name, isWord⟩ ⟨relation, wordOrComparison_of_isRelation isRelation⟩ ms c, ?_,
    ⟨greedy, greedy'⟩, ⟨isRelation, settled⟩, value⟩
  simp [ClausePhrase.tokens]

theorem clausesArePhrases_succ {src : Source} {n : Nat} (clauses : ClausesArePhrases src n)
    (queries : QueriesArePhrases src n) : ClausesArePhrases src (n + 1) := by
  intro scope table ts r bound h
  cases ts with
  | nil =>
    rw [src.readClause_nil] at h
    cases h
  | cons first after =>
    simp only [List.length_cons] at bound
    by_cases opens : first.kind = .openParen
    · exact groupsArePhrases queries opens (by omega) h
    · cases isWord : first.isWord with
      | true =>
        -- The token after a word tells an index from a term.
        cases follows : after.head?.any Token.isRelation with
        | false =>
          rw [src.readClause_term scope table isWord follows, Except.bind_eq_ok_iff] at h
          obtain ⟨⟨mods, rest⟩, hmods, h⟩ := h
          cases h
          obtain ⟨ms, rfl, rfl, greedy, -⟩ := phrases_of_modifiers hmods
          exact ⟨.term ⟨first, isWord⟩ ms, rfl, greedy, follows, rfl⟩
        | true =>
          cases after with
          | nil => cases follows
          | cons relation tail =>
            simp only [List.head?_cons, Option.any_some] at follows
            simp only [List.length_cons] at bound
            exact indexedArePhrases clauses isWord follows (by omega) h
      | false =>
        cases mark : first.isComparison ">" with
        | true => exact declaredArePhrases queries mark (by omega) h
        | false =>
          rw [src.readClause_other scope table opens isWord mark] at h
          cases h

theorem all_arePhrases (src : Source) (n : Nat) :
    ClausesArePhrases src n ∧ ChainsArePhrases src n := by
  induction n with
  | zero =>
    constructor
    · intro scope table ts r bound h
      obtain rfl := List.length_eq_zero_iff.mp (Nat.le_zero.mp bound)
      rw [src.readClause_nil] at h
      cases h
    · intro scope table left ts r bound h
      obtain rfl := List.length_eq_zero_iff.mp (Nat.le_zero.mp bound)
      rw [src.readChain_nil] at h
      cases h
      exact ⟨.done, rfl, trivial, trivial, by simp, rfl⟩
  | succ n ih =>
    obtain ⟨clauses, chains⟩ := ih
    exact ⟨clausesArePhrases_succ clauses (queriesArePhrases clauses chains),
      chainsArePhrases_succ clauses chains⟩

/-- What is read from tokens is the value of a phrase that keeps the lookahead rules. -/
theorem phrase_of_readQuery {src : Source} {scope : IndexScope} {table : PrefixTable}
    {ts : List Token} {r : Reading} (h : src.readQuery scope table ts = .ok r) :
    ∃ q : QueryPhrase, ts = q.tokens ++ r.rest ∧ q.Greedy r.rest ∧ q.Settled r.rest ∧
      NextIsNot Token.isOperator r.rest ∧ q.value src scope table = (r.node, r.table) := by
  obtain ⟨clauses, chains⟩ := all_arePhrases src ts.length
  exact queriesArePhrases clauses chains scope table ts r (Nat.le_refl _) h

end ContextualQuery
