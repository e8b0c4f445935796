import ContextualQuery.Proofs.Query.Canonical
import ContextualQuery.Proofs.Query.Lookahead

/-!
# Canonical text is read back

* `Node.Readable.parse_toCql`: the canonical text of a tree that a query could give is read as that
  tree, positions and prefix URIs apart;
* `Node.readable_of_parse`: every tree that a query gives is such a tree.
-/
namespace ContextualQuery

/-- A modifier as a query gives it: named in lowercase, and a flag or a comparison. -/
structure Modifier.Readable (m : Modifier) : Prop where
  named : Text.lowercase m.name = m.name
  writable : m.Writable

/-- A tree as a query gives it when it is read against a server's choice. -/
structure Node.Readable (choice : ServerChoice) (n : Node) : Prop where
  chosen : ∀ c ∈ n.clauses, c.choice = choice
  modifiers : ∀ m ∈ n.modifiers, m.Readable

theorem PrefixTable.resolveField_empty (field : String) :
    PrefixTable.empty.resolveField field = (field, "") := by
  unfold resolveField
  split
  · rfl
  · rfl

theorem Modifier.Readable.phrase_modifier {m : Modifier} (h : m.Readable) :
    m.phrase.modifier.withoutPositions = m.withoutPositions := by
  obtain ⟨relation, value⟩ | symbol := h.writable
  · have flag : m.isFlag = true := by simp [Modifier.isFlag, relation]
    simp only [ModifierPhrase.modifier, Modifier.phrase, flag, ↓reduceIte, Modifier.ofFlag,
      Modifier.ofValue, writtenWord, Token.spelled, h.named, Modifier.withoutPositions, relation,
      value]
  · have flag := isFlag_eq_false_of_isSymbol symbol
    simp only [ModifierPhrase.modifier, Modifier.phrase, flag, Bool.false_eq_true, ↓reduceIte,
      Modifier.ofFlag, Modifier.ofValue, writtenWord, Token.spelled, h.named,
      Modifier.withoutPositions]

theorem map_phrase_modifier {ms : List Modifier} (h : ∀ m ∈ ms, m.Readable) :
    ((ms.map Modifier.phrase).map ModifierPhrase.modifier).map Modifier.withoutPositions =
      ms.map Modifier.withoutPositions := by
  simp only [List.map_map]
  exact List.map_congr_left fun m hm => (h m hm).phrase_modifier

section Value

variable (src : Source)

theorem SearchClause.phrase_value {c : SearchClause} (chosen : c.choice = src.choice)
    (readable : ∀ m ∈ c.modifiers, m.Readable) :
    ∃ c', c.phrase.value src (.ofChoice src.choice) .empty = (.clause c', .empty) ∧
      c'.withoutPositions = c.withoutUris.withoutPositions := by
  have modifiers := map_phrase_modifier readable
  unfold SearchClause.phrase
  split
  · refine ⟨_, rfl, ?_⟩
    simp only [Source.termClause, PrefixTable.resolveField_empty, PrefixTable.resolveRelation,
      Source.indexScope, SearchClause.withoutPositions, SearchClause.withoutUris, writtenWord,
      writtenRelation, writtenTerm, Token.spelled, chosen, List.map_nil, List.append_nil, modifiers]
  · rename_i implicit
    simp only [SearchClause.writesIndex, SearchClause.hasExplicitField,
      SearchClause.hasExplicitRelation, Bool.or_eq_true, not_or, bne_iff_ne, ne_eq,
      Decidable.not_not, Bool.not_eq_true', Bool.not_eq_false, List.isEmpty_iff, chosen] at implicit
    obtain ⟨⟨field, relation⟩, none⟩ := implicit
    refine ⟨_, rfl, ?_⟩
    simp [Source.termClause, PrefixTable.resolveField_empty, PrefixTable.resolveRelation,
      IndexScope.ofChoice, SearchClause.withoutPositions, SearchClause.withoutUris, writtenTerm,
      Token.spelled, chosen, field, relation, none]

theorem Connective.written_value {k : Connective} (readable : ∀ m ∈ k.modifiers, m.Readable) :
    (Source.connective k.op.written.op k.op.written.1
      ((k.modifiers.map Modifier.phrase).map ModifierPhrase.modifier)).withoutPositions =
      k.withoutPositions := by
  have same : k.op.written.op = k.op := by
    simp [Operator.op, BooleanOp.written, operator?_capitals]
  simp only [Source.connective, Connective.withoutPositions, same, map_phrase_modifier readable]

namespace Node

theorem Readable.left {choice : ServerChoice} {k : Connective} {left right : Node}
    (h : (Node.boolean k left right).Readable choice) : left.Readable choice :=
  ⟨fun c hc => h.chosen c (List.mem_append_left _ hc),
    fun m hm => h.modifiers m (List.mem_append_left _ (List.mem_append_right _ hm))⟩

theorem Readable.right {choice : ServerChoice} {k : Connective} {left right : Node}
    (h : (Node.boolean k left right).Readable choice) : right.Readable choice :=
  ⟨fun c hc => h.chosen c (List.mem_append_right _ hc),
    fun m hm => h.modifiers m (List.mem_append_right _ hm)⟩

theorem Readable.connective {choice : ServerChoice} {k : Connective} {left right : Node}
    (h : (Node.boolean k left right).Readable choice) : ∀ m ∈ k.modifiers, m.Readable :=
  fun m hm => h.modifiers m (List.mem_append_left _ (List.mem_append_left _ hm))

/-- No canonical phrase declares a prefix, so all of it is read with none. -/
theorem operandPhrase_value {n : Node} (h : n.Readable src.choice) :
    ∃ n', n.operandPhrase.value src (.ofChoice src.choice) .empty = (n', .empty) ∧
      n'.withoutPositions = n.withoutUris.withoutPositions := by
  induction n with
  | clause c =>
    obtain ⟨c', value, same⟩ := c.phrase_value src (h.chosen c (by simp [clauses])) h.modifiers
    exact ⟨.clause c', value, congrArg Node.clause same⟩
  | boolean k left right ihl ihr =>
    obtain ⟨left', valueLeft, sameLeft⟩ := ihl h.left
    obtain ⟨right', valueRight, sameRight⟩ := ihr h.right
    -- A group is read in the scope it stands in, less the start of an index.
    have scope : { IndexScope.ofChoice src.choice with start := none } = .ofChoice src.choice := rfl
    simp only [operandPhrase, ClausePhrase.value, QueryPhrase.value, ChainPhrase.value, scope,
      valueLeft, valueRight]
    refine ⟨_, rfl, ?_⟩
    rw [withoutUris, withoutPositions_boolean, withoutPositions_boolean, sameLeft, sameRight,
      Connective.written_value h.connective]

theorem phrase_value {n : Node} (h : n.Readable src.choice) :
    ∃ n', n.phrase.value src (.ofChoice src.choice) .empty = (n', .empty) ∧
      n'.withoutPositions = n.withoutUris.withoutPositions := by
  cases n with
  | clause c => exact operandPhrase_value src h
  | boolean k left right => exact operandPhrase_value src h

end Node
end Value

theorem spelling_placeless (cs : List Char) : (spelling cs).map Token.placeless = spelling cs := by
  simp [spelling, Token.placeless]

/-- Canonical text is read, and gives the tree it was written for, positions and URIs apart. -/
theorem Node.Readable.parse_toCql {choice : ServerChoice} {n : Node} (h : n.Readable choice) :
    ∃ n', Node.parse n.toCql choice = .ok n' ∧
      n'.withoutPositions = n.withoutUris.withoutPositions := by
  have tokens := spelling_toCql fun m hm => (h.modifiers m hm).writable
  have alike : AlikeTokens (tokenize n.toCql) n.phrase.tokens := by
    rw [AlikeTokens, tokenize_placeless, ← tokens, spelling_placeless]
  obtain ⟨n', parsed, value⟩ := n.phrase.parse_of_alike n.phrase_greedy n.phrase_settled alike choice
  obtain ⟨n'', value', same⟩ := phrase_value ⟨n.toCql, choice⟩ h
  simp only at value'
  rw [value'] at value
  exact ⟨n', parsed, value.trans same⟩

/-- Tokens as a query has them: a comparison is a run of comparison characters. -/
def SymbolTokens (ts : List Token) : Prop :=
  ∀ t ∈ ts, t.kind = .comparison → isSymbol t.text = true

theorem SymbolTokens.append {ts us : List Token} (h : SymbolTokens (ts ++ us)) :
    SymbolTokens ts ∧ SymbolTokens us :=
  ⟨fun t ht => h t (List.mem_append_left _ ht), fun t ht => h t (List.mem_append_right _ ht)⟩

theorem SymbolTokens.tail {t : Token} {ts : List Token} (h : SymbolTokens (t :: ts)) :
    SymbolTokens ts :=
  fun u hu => h u (List.mem_cons_of_mem _ hu)

theorem ModifierPhrase.readable {m : ModifierPhrase} (symbols : SymbolTokens m.tokens) :
    m.modifier.Readable := by
  obtain ⟨slash, name, setting⟩ := m
  cases setting with
  | none => exact ⟨Text.lowercase_lowercase _, .inl ⟨rfl, rfl⟩⟩
  | some pair =>
    obtain ⟨comparison, value⟩ := pair
    have kind : comparison.1.kind = .comparison := by simpa [Token.isKind] using comparison.2
    have symbol := symbols comparison.1 (by simp [ModifierPhrase.tokens]) kind
    exact ⟨Text.lowercase_lowercase _, .inr symbol⟩

theorem readable_modifiers {ms : List ModifierPhrase} (symbols : SymbolTokens (modifierTokens ms)) :
    ∀ m ∈ ms.map ModifierPhrase.modifier, m.Readable := by
  intro m hm
  obtain ⟨p, hp, rfl⟩ := List.mem_map.mp hm
  exact p.readable fun t ht => symbols t (List.mem_flatMap.mpr ⟨p, hp, ht⟩)

section Given

variable (src : Source)

mutual

theorem QueryPhrase.value_readable : ∀ (q : QueryPhrase) (scope : IndexScope) (table : PrefixTable),
    SymbolTokens q.tokens → (∀ m ∈ scope.modifiers, m.Readable) →
    (q.value src scope table).1.Readable src.choice
  | .chain first rest, scope, table, symbols, inherited =>
    rest.value_readable scope _ symbols.append.2 inherited
      (first.value_readable scope table symbols.append.1 inherited)

theorem ChainPhrase.value_readable : ∀ (k : ChainPhrase) (scope : IndexScope)
    (table : PrefixTable) {left : Node}, SymbolTokens k.tokens →
    (∀ m ∈ scope.modifiers, m.Readable) → left.Readable src.choice →
    (k.value src scope table left).1.Readable src.choice
  | .done, _, _, _, _, _, readable => readable
  | .join operator ms operand rest, scope, table, left, symbols, inherited, readable => by
    obtain ⟨before, symbolsRest⟩ := symbols.append
    obtain ⟨symbolsModifiers, symbolsOperand⟩ := before.tail.append
    have right := operand.value_readable scope table symbolsOperand inherited
    refine rest.value_readable scope _ symbolsRest inherited ⟨?_, ?_⟩
    · intro c hc
      exact (List.mem_append.mp hc).elim (readable.chosen c) (right.chosen c)
    · intro m hm
      obtain hm | hm := List.mem_append.mp hm
      · exact (List.mem_append.mp hm).elim (readable_modifiers symbolsModifiers m)
          (readable.modifiers m)
      · exact right.modifiers m hm

theorem ClausePhrase.value_readable : ∀ (c : ClausePhrase) (scope : IndexScope)
    (table : PrefixTable), SymbolTokens c.tokens → (∀ m ∈ scope.modifiers, m.Readable) →
    (c.value src scope table).1.Readable src.choice
  | .group _ inner _, scope, table, symbols, inherited =>
    inner.value_readable { scope with start := none } table symbols.append.1.tail inherited
  | .declared _ inner, scope, _, symbols, inherited =>
    inner.value_readable scope _ symbols.append.2 inherited
  | .indexed _ _ ms inner, _, table, symbols, _ =>
    have parts := symbols.tail.tail.append
    inner.value_readable _ table parts.2 (readable_modifiers parts.1)
  | .term word ms, scope, table, symbols, inherited => by
    refine ⟨?_, ?_⟩
    · intro c hc
      rw [ClausePhrase.value, Node.clauses, List.mem_singleton] at hc
      rw [hc]
      rfl
    · intro m hm
      exact (List.mem_append.mp hm).elim (inherited m) (readable_modifiers symbols.tail m)

end

end Given

/-- Every tree that a query gives carries the server's choice and writable modifiers. -/
theorem Node.readable_of_parse {query : String} {choice : ServerChoice} {n : Node}
    (h : Node.parse query choice = .ok n) : n.Readable choice := by
  obtain ⟨table, read⟩ := Node.parse_eq_ok_iff.mp h
  obtain ⟨q, tokens, -, -, -, value⟩ := phrase_of_readQuery read
  have symbols : SymbolTokens q.tokens := by
    intro t ht
    exact isSymbol_of_mem_tokenize (tokens ▸ List.mem_append_left _ ht)
  have readable := q.value_readable ⟨query, choice⟩ (.ofChoice choice) .empty symbols
    fun m hm => absurd hm List.not_mem_nil
  rw [value] at readable
  exact readable

/-- Under every choice of the server, the canonical text of each tree that carries this choice and
has only writable modifiers is read as the same tree, positions and prefix URIs apart. Every tree
that is read from a query is one of these. -/
theorem canonical_round_trip (choice : ServerChoice) :
    (∀ n : Node, n.Readable choice →
      ∃ n', Node.parse n.toCql choice = .ok n' ∧
        n'.withoutPositions = n.withoutUris.withoutPositions) ∧
    ∀ (query : String) (n : Node), Node.parse query choice = .ok n →
      n.Readable choice ∧
      ∃ n', Node.parse n.toCql choice = .ok n' ∧
        n'.withoutPositions = n.withoutUris.withoutPositions :=
  ⟨fun _ readable => readable.parse_toCql, fun _ _ parsed =>
    have readable := Node.readable_of_parse parsed
    ⟨readable, readable.parse_toCql⟩⟩

/-- The index `and` has to be quoted, the relation is empty, the first term holds a quotation mark,
the left operand is a group, and a modifier compares with the empty text. -/
theorem canonical_round_trip_quoted :
    ∃ n n' : Node,
      n = .boolean { op := .not, modifiers := [.ofValue "x" "<=" ""] }
        (.boolean { op := .or }
          (.clause
            { field := "and", fieldUri := "u", relation := "", term := "a\"b", choice := {} })
          (.clause (.ofTerm "or" {})))
        (.clause (.ofTerm "" {})) ∧
      n.Readable {} ∧ Node.parse n.toCql {} = .ok n' ∧
      n'.withoutPositions = n.withoutUris.withoutPositions ∧ n'.Readable {} := by
  have readable : (Node.boolean { op := .not, modifiers := [.ofValue "x" "<=" ""] }
      (.boolean { op := .or }
        (.clause { field := "and", fieldUri := "u", relation := "", term := "a\"b", choice := {} })
        (.clause (.ofTerm "or" {})))
      (.clause (.ofTerm "" {}))).Readable {} := by
    refine ⟨by decide, fun m hm => ?_⟩
    obtain rfl : m = .ofValue "x" "<=" "" := by
      simpa [Node.modifiers, SearchClause.ofTerm] using hm
    exact ⟨Text.lowercase_lowercase _, .inr rfl⟩
  obtain ⟨n', parsed, same⟩ := (canonical_round_trip {}).1 _ readable
  exact ⟨_, n', rfl, readable, parsed, same, ((canonical_round_trip {}).2 _ n' parsed).1⟩

end ContextualQuery
