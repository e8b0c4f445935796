import ContextualQuery.Proofs.Query.Derivation
import ContextualQuery.Proofs.Query.Layout

/-!
# Phrases before other tokens

The rules that a phrase keeps look at one token after it. So a phrase keeps them where another token
comes next that the rules do not mind, and a query is read alike wherever its tokens stand.

* `QueryPhrase.greedy_of_next`, `QueryPhrase.settled_of_next`: the rules under another next token;
* `QueryPhrase.closed`: no open quotation is part of a phrase;
* `QueryPhrase.parse_of_alike`: a text that spells the tokens of a settled phrase is read as its
  value.
-/
namespace ContextualQuery

/-- If `p` is ruled out after some tokens as well, it is ruled out after more tokens. -/
theorem nextIsNot_append {p : Token → Bool} {after after' : List Token}
    (next : NextIsNot p after → NextIsNot p after') (ts : List Token)
    (h : NextIsNot p (ts ++ after)) : NextIsNot p (ts ++ after') := by
  cases ts with
  | nil => exact next h
  | cons t ts => exact h

theorem greedyModifiers_of_next {ms : List ModifierPhrase} {after after' : List Token}
    (next : NextIsNot (Token.isKind .comparison) after →
      NextIsNot (Token.isKind .comparison) after')
    (greedy : GreedyModifiers ms after) : GreedyModifiers ms after' := by
  induction ms with
  | nil => trivial
  | cons m ms ih => exact ⟨fun flag => nextIsNot_append next _ (greedy.1 flag), ih greedy.2⟩

mutual

theorem QueryPhrase.greedy_of_next : ∀ (q : QueryPhrase) {after after' : List Token},
    (NextIsNot (Token.isKind .comparison) after → NextIsNot (Token.isKind .comparison) after') →
    q.Greedy after → q.Greedy after'
  | .chain first rest, _, _, next, greedy =>
    ⟨first.greedy_of_next (nextIsNot_append next _) greedy.1, rest.greedy_of_next next greedy.2⟩

theorem ChainPhrase.greedy_of_next : ∀ (k : ChainPhrase) {after after' : List Token},
    (NextIsNot (Token.isKind .comparison) after → NextIsNot (Token.isKind .comparison) after') →
    k.Greedy after → k.Greedy after'
  | .done, _, _, _, _ => trivial
  | .join _ _ operand rest, _, _, next, greedy =>
    ⟨greedyModifiers_of_next (nextIsNot_append (nextIsNot_append next _) _) greedy.1,
      operand.greedy_of_next (nextIsNot_append next _) greedy.2.1,
      rest.greedy_of_next next greedy.2.2⟩

theorem ClausePhrase.greedy_of_next : ∀ (c : ClausePhrase) {after after' : List Token},
    (NextIsNot (Token.isKind .comparison) after → NextIsNot (Token.isKind .comparison) after') →
    c.Greedy after → c.Greedy after'
  | .group _ inner closing, _, _, next, greedy =>
    inner.greedy_of_next (nextIsNot_append next [closing.1]) greedy
  | .declared _ inner, _, _, next, greedy => inner.greedy_of_next next greedy
  | .indexed _ _ _ inner, _, _, next, greedy =>
    ⟨greedyModifiers_of_next (nextIsNot_append next _) greedy.1,
      inner.greedy_of_next next greedy.2⟩
  | .term _ _, _, _, next, greedy => greedyModifiers_of_next next greedy

end

mutual

theorem QueryPhrase.settled_of_next : ∀ (q : QueryPhrase) {after after' : List Token},
    (NextIsNot Token.isRelation after → NextIsNot Token.isRelation after') →
    (NextIsNot Token.isOperator after → NextIsNot Token.isOperator after') →
    q.Settled after → q.Settled after'
  | .chain first rest, _, _, relation, operator, settled =>
    ⟨first.settled_of_next (nextIsNot_append relation _) (nextIsNot_append operator _) settled.1,
      rest.settled_of_next relation operator settled.2⟩

theorem ChainPhrase.settled_of_next : ∀ (k : ChainPhrase) {after after' : List Token},
    (NextIsNot Token.isRelation after → NextIsNot Token.isRelation after') →
    (NextIsNot Token.isOperator after → NextIsNot Token.isOperator after') →
    k.Settled after → k.Settled after'
  | .done, _, _, _, _, _ => trivial
  | .join _ _ operand rest, _, _, relation, operator, settled =>
    ⟨operand.settled_of_next (nextIsNot_append relation _) (nextIsNot_append operator _) settled.1,
      rest.settled_of_next relation operator settled.2⟩

theorem ClausePhrase.settled_of_next : ∀ (c : ClausePhrase) {after after' : List Token},
    (NextIsNot Token.isRelation after → NextIsNot Token.isRelation after') →
    (NextIsNot Token.isOperator after → NextIsNot Token.isOperator after') →
    c.Settled after → c.Settled after'
  | .group _ inner closing, _, _, relation, operator, settled =>
    inner.settled_of_next (nextIsNot_append relation [closing.1])
      (nextIsNot_append operator [closing.1]) settled
  | .declared _ inner, _, _, relation, operator, settled =>
    ⟨inner.settled_of_next relation operator settled.1, operator settled.2⟩
  | .indexed _ _ _ inner, _, _, relation, operator, settled =>
    ⟨settled.1, inner.settled_of_next relation operator settled.2⟩
  | .term _ _, _, _, relation, _, settled => nextIsNot_append relation _ settled

end

theorem kind_ne_unterminated_of_isWord {t : Token} (h : t.isWord = true) :
    t.kind ≠ .unterminated := by
  intro kind
  simp [Token.isWord, kind] at h

theorem kind_ne_unterminated_of_isComparison {t : Token} {symbol : String}
    (h : t.isComparison symbol = true) : t.kind ≠ .unterminated := by
  intro kind
  simp [Token.isComparison, kind] at h

def OfKind.spelled (kind : TokenKind) (text : String) : OfKind kind :=
  ⟨.spelled kind text, by simp [Token.isKind, Token.spelled]⟩

theorem OfKind.kind_eq {kind : TokenKind} (t : OfKind kind) : t.1.kind = kind := by
  simpa [Token.isKind] using t.2

theorem modifierTokens_closed {ms : List ModifierPhrase} {t : Token} (ht : t ∈ modifierTokens ms) :
    t.kind ≠ .unterminated := by
  obtain ⟨⟨slash, name, setting⟩, -, ht⟩ := List.mem_flatMap.mp ht
  cases setting with
  | none =>
    simp only [ModifierPhrase.tokens, List.mem_cons, List.not_mem_nil, or_false] at ht
    obtain rfl | rfl := ht
    · simp [slash.kind_eq]
    · exact kind_ne_unterminated_of_isWord name.2
  | some pair =>
    simp only [ModifierPhrase.tokens, List.mem_cons, List.not_mem_nil, or_false] at ht
    obtain rfl | rfl | rfl | rfl := ht
    · simp [slash.kind_eq]
    · exact kind_ne_unterminated_of_isWord name.2
    · simp [pair.1.kind_eq]
    · exact kind_ne_unterminated_of_isWord pair.2.2

theorem DeclarationPhrase.closed {d : DeclarationPhrase} {t : Token} (ht : t ∈ d.tokens) :
    t.kind ≠ .unterminated := by
  obtain ⟨mark, first, uri⟩ := d
  cases uri with
  | none =>
    simp only [DeclarationPhrase.tokens, List.mem_cons, List.not_mem_nil, or_false] at ht
    obtain rfl | rfl := ht
    · exact kind_ne_unterminated_of_isComparison mark.2
    · exact kind_ne_unterminated_of_isWord first.2
  | some pair =>
    simp only [DeclarationPhrase.tokens, List.mem_cons, List.not_mem_nil, or_false] at ht
    obtain rfl | rfl | rfl | rfl := ht
    · exact kind_ne_unterminated_of_isComparison mark.2
    · exact kind_ne_unterminated_of_isWord first.2
    · exact kind_ne_unterminated_of_isComparison pair.1.2
    · exact kind_ne_unterminated_of_isWord pair.2.2

mutual

theorem QueryPhrase.closed : ∀ (q : QueryPhrase) {t : Token}, t ∈ q.tokens →
    t.kind ≠ .unterminated
  | .chain first rest, _, ht => (List.mem_append.mp ht).elim first.closed rest.closed

theorem ChainPhrase.closed : ∀ (k : ChainPhrase) {t : Token}, t ∈ k.tokens →
    t.kind ≠ .unterminated
  | .done, _, ht => absurd ht List.not_mem_nil
  | .join operator ms operand rest, t, ht => by
    simp only [ChainPhrase.tokens, List.cons_append, List.append_assoc, List.mem_cons,
      List.mem_append] at ht
    obtain rfl | ht | ht | ht := ht
    · exact kind_ne_unterminated_of_isWord (isWord_of_isOperator operator.2)
    · exact modifierTokens_closed ht
    · exact operand.closed ht
    · exact rest.closed ht

theorem ClausePhrase.closed : ∀ (c : ClausePhrase) {t : Token}, t ∈ c.tokens →
    t.kind ≠ .unterminated
  | .group opening inner closing, t, ht => by
    simp only [ClausePhrase.tokens, List.cons_append, List.mem_cons, List.mem_append,
      List.not_mem_nil, or_false] at ht
    obtain rfl | ht | rfl := ht
    · simp [opening.kind_eq]
    · exact inner.closed ht
    · simp [closing.kind_eq]
  | .declared declaration inner, _, ht =>
    (List.mem_append.mp ht).elim DeclarationPhrase.closed inner.closed
  | .indexed name relation ms inner, t, ht => by
    simp only [ClausePhrase.tokens, List.cons_append, List.mem_cons, List.mem_append] at ht
    obtain rfl | rfl | ht | ht := ht
    · exact kind_ne_unterminated_of_isWord name.2
    · intro kind
      have := relation.2
      simp [Token.isWord, Token.isKind, kind] at this
    · exact modifierTokens_closed ht
    · exact inner.closed ht
  | .term word ms, t, ht => by
    obtain rfl | ht := List.mem_cons.mp ht
    · exact kind_ne_unterminated_of_isWord word.2
    · exact modifierTokens_closed ht

end

/-- The value of a phrase does not show the text it is read from. -/
theorem QueryPhrase.value_alike {q : QueryPhrase} (greedy : q.Greedy []) (settled : q.Settled [])
    (query query' : String) (choice : ServerChoice) (scope : IndexScope) (table : PrefixTable) :
    (q.value ⟨query, choice⟩ scope table).1.withoutPositions =
        (q.value ⟨query', choice⟩ scope table).1.withoutPositions ∧
      (q.value ⟨query, choice⟩ scope table).2 = (q.value ⟨query', choice⟩ scope table).2 := by
  have agree : Agree Reading.Alike (Source.readQuery ⟨query, choice⟩ scope table q.tokens)
      (Source.readQuery ⟨query', choice⟩ scope table q.tokens) :=
    agree_readQuery (by rfl) rfl table rfl
  have read := q.read ⟨query, choice⟩ scope table greedy settled rfl
  have read' := q.read ⟨query', choice⟩ scope table greedy settled rfl
  rw [List.append_nil] at read read'
  rw [read, read'] at agree
  exact ⟨agree.node, agree.table⟩

/-- A query with the tokens of a settled phrase is read as the value of the phrase. -/
theorem QueryPhrase.parse_of_tokens {q : QueryPhrase} (greedy : q.Greedy [])
    (settled : q.Settled []) {query : String} (tokens : q.tokens = tokenize query)
    (choice : ServerChoice) :
    Node.parse query choice = .ok (q.value ⟨query, choice⟩ (.ofChoice choice) .empty).1 := by
  have read := q.read ⟨query, choice⟩ (.ofChoice choice) .empty greedy settled rfl
  rw [List.append_nil, tokens] at read
  exact Node.parse_eq_ok_iff.mpr ⟨_, read⟩

/-- A text that spells the tokens of a settled phrase is read as the value of the phrase, positions
apart. -/
theorem QueryPhrase.parse_of_alike {q : QueryPhrase} (greedy : q.Greedy []) (settled : q.Settled [])
    {query : String} (alike : AlikeTokens (tokenize query) q.tokens) (choice : ServerChoice) :
    ∃ n, Node.parse query choice = .ok n ∧
      n.withoutPositions =
        (q.value ⟨query, choice⟩ (.ofChoice choice) .empty).1.withoutPositions := by
  have agree : Agree Reading.Alike
      (Source.readQuery ⟨query, choice⟩ (.ofChoice choice) .empty (tokenize query))
      (Source.readQuery ⟨query, choice⟩ (.ofChoice choice) .empty q.tokens) :=
    agree_readQuery rfl rfl .empty alike
  have read := q.read ⟨query, choice⟩ (.ofChoice choice) .empty greedy settled rfl
  rw [List.append_nil] at read
  rw [read] at agree
  cases result : Source.readQuery ⟨query, choice⟩ (.ofChoice choice) .empty (tokenize query) with
  | error e => simp [result, Agree] at agree
  | ok r =>
    rw [result] at agree
    obtain ⟨nodes, -, rests⟩ := agree
    obtain ⟨node, table, rest⟩ := r
    obtain rfl : rest = [] := by simpa [AlikeTokens] using rests
    exact ⟨node, Node.parse_eq_ok_iff.mpr ⟨table, result⟩, nodes⟩

/-- What a query is read as is the value of a settled phrase with its tokens. -/
theorem exists_phrase_of_parse {query : String} {choice : ServerChoice} {n : Node}
    (h : Node.parse query choice = .ok n) :
    ∃ (q : QueryPhrase) (table : PrefixTable),
      q.tokens = tokenize query ∧ q.Greedy [] ∧ q.Settled [] ∧
      Source.readQuery ⟨query, choice⟩ (.ofChoice choice) .empty (tokenize query) =
        .ok ⟨n, table, []⟩ ∧
      q.value ⟨query, choice⟩ (.ofChoice choice) .empty = (n, table) := by
  obtain ⟨table, read⟩ := Node.parse_eq_ok_iff.mp h
  obtain ⟨q, tokens, greedy, settled, -, value⟩ := phrase_of_readQuery read
  rw [List.append_nil] at tokens
  exact ⟨q, table, tokens.symm, greedy, settled, read, value⟩

end ContextualQuery
