import ContextualQuery.Proofs.Query.Lookahead
import ContextualQuery.Proofs.Text.Lowercase
import ContextualQuery.Proofs.Token.Place

/-!
# Where the parts of a tree stand

A tree keeps the places of the tokens it was read from. An index and its relation are handed on to
all clauses of a group, so the places of a clause may lie far apart, but never out of order.

* `Node.StandsIn`: every position of a tree is that of the token it should be;
* `QueryPhrase.value_standsIn`: this holds of what a phrase stands for, wherever the phrase stands;
* `QueryPhrase.value_covers`: the terms and operators of a phrase, in order, do not overlap;
* `parse_standsIn`: both for every query that can be read.
-/
namespace ContextualQuery

def Token.span (t : Token) : Span := ⟨t.start, t.stop⟩

def tokenAt? (ts : List Token) (p : Nat) : Option Token := ts.find? (·.start == p)

/-- A modifier is a slash and its name, which a relation and its value may follow. -/
def Modifier.StandsIn (ts : List Token) (m : Modifier) : Prop :=
  ∃ slash name : Token, slash.kind = .slash ∧ name.isWord = true ∧ m.name = name.lower ∧
    m.pos = some name.start ∧
    (([slash, name] <:+: ts ∧ m.isFlag = true ∧ m.range = some ⟨slash.start, name.stop⟩) ∨
      ∃ relation value : Token, [slash, name, relation, value] <:+: ts ∧
        relation.kind = .comparison ∧ relation.text = m.relation ∧
        value.isWord = true ∧ value.text = m.value ∧
        m.range = some ⟨slash.start, value.stop⟩)

/-- A clause stands at its term. The word it starts with comes no later, its relation comes earlier,
and if no relation was written it is the server's. -/
def SearchClause.StandsIn (choice : ServerChoice) (ts : List Token) (c : SearchClause) : Prop :=
  (∃ first term : Token, first ∈ ts ∧ first.isWord = true ∧ c.pos = some first.start ∧
    first.start ≤ term.start ∧
    term ∈ ts ∧ term.isWord = true ∧ c.term = term.text ∧ c.range = some term.span ∧
    (∀ p, c.relationPos = some p → ∃ relation, tokenAt? ts p = some relation ∧
      relation.stop ≤ term.start ∧ relation.text = c.relation) ∧
    (c.relationPos = none → c.relation = choice.relation)) ∧
  ∀ m ∈ c.modifiers, m.StandsIn ts

/-- A connective is an unquoted keyword, and reaches to the end of its last modifier. -/
def Connective.StandsIn (ts : List Token) (k : Connective) : Prop :=
  (∃ (word : Token) (stop : Nat), word ∈ ts ∧ word.kind = .bareword ∧
    BooleanOp.ofKeyword? word.text = some k.op ∧
    k.pos = some word.start ∧ k.range = some ⟨word.start, stop⟩ ∧
    (k.modifiers = [] → stop = word.stop) ∧
    ∀ m ∈ k.modifiers.getLast?, m.range.map Span.stop = some stop) ∧
  ∀ m ∈ k.modifiers, m.StandsIn ts

/-- Every clause and every connective of the tree stands among the tokens. -/
def Node.StandsIn (choice : ServerChoice) (ts : List Token) : Node → Prop
  | .clause c => c.StandsIn choice ts
  | .boolean k left right => left.StandsIn choice ts ∧ k.StandsIn ts ∧ right.StandsIn choice ts

/-- The bytes of terms and connectives, from left to right. -/
def Node.spans : Node → List Span
  | .clause c => c.range.toList
  | .boolean k left right => left.spans ++ k.range.toList ++ right.spans

/-- Where a span starts and where it stops. -/
def Span.edges (s : Span) : List Nat := [s.start, s.stop]

def Modifier.offsets (m : Modifier) : List Nat :=
  m.pos.toList ++ m.range.toList.flatMap Span.edges

def Node.offsets : Node → List Nat
  | .clause c =>
    c.pos.toList ++ c.range.toList.flatMap Span.edges ++ c.relationPos.toList ++
      c.modifiers.flatMap Modifier.offsets
  | .boolean k left right =>
    left.offsets ++ right.offsets ++
      (k.pos.toList ++ k.range.toList.flatMap Span.edges ++ k.modifiers.flatMap Modifier.offsets)

/-- The last token of a modifier: its value, or its name if it has none. -/
def ModifierPhrase.last (m : ModifierPhrase) : Token :=
  match m.setting with
  | none => m.name.1
  | some (_, value) => value.1

theorem ModifierPhrase.modifier_range (m : ModifierPhrase) :
    m.modifier.range = some ⟨m.slash.1.start, m.last.stop⟩ := by
  obtain ⟨slash, name, setting⟩ := m
  cases setting <;> rfl

theorem ModifierPhrase.last_mem (m : ModifierPhrase) : m.last ∈ m.tokens := by
  obtain ⟨slash, name, setting⟩ := m
  cases setting <;> simp [ModifierPhrase.last, ModifierPhrase.tokens]

theorem ModifierPhrase.standsIn {m : ModifierPhrase} {ts : List Token} (h : m.tokens <:+: ts) :
    m.modifier.StandsIn ts := by
  obtain ⟨slash, name, setting⟩ := m
  refine ⟨slash.1, name.1, slash.kind_eq, name.2, ?_⟩
  cases setting with
  | none => exact ⟨rfl, rfl, .inl ⟨h, rfl, rfl⟩⟩
  | some pair =>
    obtain ⟨comparison, value⟩ := pair
    exact ⟨rfl, rfl, .inr
      ⟨comparison.1, value.1, h, comparison.kind_eq, rfl, value.2, rfl, rfl⟩⟩

theorem modifiers_standsIn {ms : List ModifierPhrase} {ts : List Token}
    (h : modifierTokens ms <:+: ts) : ∀ m ∈ ms.map ModifierPhrase.modifier, m.StandsIn ts := by
  intro m hm
  obtain ⟨p, hp, rfl⟩ := List.mem_map.mp hm
  obtain ⟨before, after, rfl⟩ := List.append_of_mem hp
  refine p.standsIn (List.IsInfix.trans ⟨modifierTokens before, modifierTokens after, ?_⟩ h)
  simp [modifierTokens]

/-- The last token of a connective: that of its last modifier, or the keyword. -/
def lastOfConnective (word : Token) (ms : List ModifierPhrase) : Token :=
  (ms.getLast?.map ModifierPhrase.last).getD word

theorem lastOfConnective_mem (word : Token) (ms : List ModifierPhrase) :
    lastOfConnective word ms ∈ word :: modifierTokens ms := by
  unfold lastOfConnective
  cases last : ms.getLast? with
  | none => simp
  | some m =>
    refine List.mem_cons_of_mem _ (List.mem_flatMap.mpr ⟨m, ?_, m.last_mem⟩)
    exact List.mem_of_getLast? last

theorem connective_range (op : BooleanOp) (word : Token) (ms : List ModifierPhrase) :
    (Source.connective op word (ms.map ModifierPhrase.modifier)).range =
      some ⟨word.start, (lastOfConnective word ms).stop⟩ := by
  unfold Source.connective lastOfConnective
  rw [List.getLast?_map]
  cases ms.getLast? with
  | none => rfl
  | some m => simp [m.modifier_range]

theorem connective_standsIn {operator : Operator} {ms : List ModifierPhrase} {ts : List Token}
    (h : operator.1 :: modifierTokens ms <:+: ts) :
    (Source.connective operator.op operator.1 (ms.map ModifierPhrase.modifier)).StandsIn ts := by
  have spelled : operator.1.operator? = some operator.op := (Option.some_get _).symm
  have bare := kind_eq_bareword_of_operator? spelled
  rw [Token.operator?, if_pos bare, Token.lower, BooleanOp.ofKeyword?_lowercase] at spelled
  refine ⟨⟨operator.1, _, h.mem List.mem_cons_self, bare, spelled, rfl, connective_range _ _ _, ?_,
    ?_⟩, modifiers_standsIn ((List.suffix_cons _ _).isInfix.trans h)⟩
  · intro none
    obtain rfl : ms = [] := List.map_eq_nil_iff.mp none
    rfl
  · intro m hm
    simp only [Source.connective, List.getLast?_map, Option.mem_def, Option.map_eq_some_iff] at hm
    obtain ⟨p, last, rfl⟩ := hm
    simp [p.modifier_range, lastOfConnective, last]

theorem InOrder.tokenAt?_start {ts : List Token} (ordered : InOrder ts) {t : Token}
    (ht : t ∈ ts) : tokenAt? ts t.start = some t := by
  induction ts with
  | nil => simp at ht
  | cons u us ih =>
    obtain ⟨proper, before, rest⟩ := InOrder.cons_iff.mp ordered
    obtain rfl | ht := List.mem_cons.mp ht
    · simp [tokenAt?]
    · have later := before t ht
      have other : (u.start == t.start) = false := by
        rw [beq_eq_false_iff_ne]
        omega
      rw [tokenAt?, List.find?_cons_of_neg (by simp [other])]
      exact ih rest ht

/-- What a scope hands on was written in the tokens `before`, as far as it was written at all. -/
structure IndexScope.WrittenIn (choice : ServerChoice) (before : List Token) (scope : IndexScope) :
    Prop where
  start : ∀ p ∈ scope.start, ∃ t ∈ before, t.isWord = true ∧ t.start = p
  relation : ∀ p ∈ scope.relationPos, ∃ t ∈ before, t.start = p ∧ t.text = scope.relation
  chosen : scope.relationPos = none → scope.relation = choice.relation
  modifiers : ∀ m ∈ scope.modifiers, m.StandsIn before

theorem Modifier.StandsIn.mono {ts us : List Token} {m : Modifier} (h : m.StandsIn ts)
    (more : ts <:+: us) : m.StandsIn us := by
  obtain ⟨slash, name, kind, isWord, named, pos, flag | setting⟩ := h
  · exact ⟨slash, name, kind, isWord, named, pos, .inl ⟨flag.1.trans more, flag.2⟩⟩
  · obtain ⟨relation, value, tokens, rest⟩ := setting
    exact ⟨slash, name, kind, isWord, named, pos, .inr ⟨relation, value, tokens.trans more, rest⟩⟩

theorem IndexScope.WrittenIn.append {choice : ServerChoice} {before : List Token}
    {scope : IndexScope} (h : scope.WrittenIn choice before) (more : List Token) :
    scope.WrittenIn choice (before ++ more) where
  start := by
    intro p hp
    obtain ⟨t, ht, rest⟩ := h.start p hp
    exact ⟨t, List.mem_append_left _ ht, rest⟩
  relation := by
    intro p hp
    obtain ⟨t, ht, rest⟩ := h.relation p hp
    exact ⟨t, List.mem_append_left _ ht, rest⟩
  chosen := h.chosen
  modifiers m hm := (h.modifiers m hm).mono (List.prefix_append _ _).isInfix

theorem indexScope_writtenIn (choice : ServerChoice) (before : List Token) (name : Word)
    (relation : RelationToken) (ms : List ModifierPhrase) :
    (Source.indexScope name.1 relation.1 (ms.map ModifierPhrase.modifier)).WrittenIn choice
      (before ++ name.1 :: relation.1 :: modifierTokens ms) where
  start := by
    intro p hp
    exact ⟨name.1, by simp, name.2, Option.some.inj hp⟩
  relation := by
    intro p hp
    exact ⟨relation.1, by simp, Option.some.inj hp, rfl⟩
  chosen := by
    intro none
    cases none
  modifiers := modifiers_standsIn ⟨before ++ [name.1, relation.1], [], by simp⟩

/-- A term in a scope that was written before it. -/
theorem termClause_standsIn {src : Source} {before after ts : List Token} (ordered : InOrder ts)
    {scope : IndexScope} (written : scope.WrittenIn src.choice before) (table : PrefixTable)
    (word : Word) (ms : List ModifierPhrase)
    (tokens : ts = before ++ (word.1 :: modifierTokens ms) ++ after) :
    SearchClause.StandsIn src.choice ts
      (src.termClause scope table word.1 (ms.map ModifierPhrase.modifier)) := by
  have term : word.1 ∈ ts := by simp [tokens]
  have earlier {t : Token} (ht : t ∈ before) :
      t ∈ ts ∧ t.start < t.stop ∧ t.stop ≤ word.1.start := by
    have mem : t ∈ ts := by simp [tokens, ht]
    have apart := (InOrder.append_iff.mp (InOrder.append_iff.mp (tokens ▸ ordered)).1).2.2
    exact ⟨mem, ordered.1 t mem, apart t ht word.1 (by simp)⟩
  have place : ∃ first ∈ ts, first.isWord = true ∧
      scope.start.getD word.1.start = first.start ∧ first.start ≤ word.1.start := by
    cases start : scope.start with
    | none => exact ⟨word.1, term, word.2, rfl, Nat.le_refl _⟩
    | some p =>
      obtain ⟨first, hfirst, isWord, rfl⟩ := written.start p start
      obtain ⟨mem, proper, before⟩ := earlier hfirst
      exact ⟨first, mem, isWord, rfl, by omega⟩
  obtain ⟨first, mem, isWord, pos, le⟩ := place
  refine ⟨⟨first, word.1, mem, isWord, congrArg some pos, le, term, word.2, rfl, rfl, ?_,
    written.chosen⟩, ?_⟩
  · intro p hp
    obtain ⟨relation, hrelation, rfl, text⟩ := written.relation p hp
    obtain ⟨mem, -, before⟩ := earlier hrelation
    exact ⟨relation, ordered.tokenAt?_start mem, before, text⟩
  · intro m hm
    obtain inherited | trailing := List.mem_append.mp hm
    · exact (written.modifiers m inherited).mono
        ⟨[], word.1 :: modifierTokens ms ++ after, by simp [tokens]⟩
    · exact modifiers_standsIn ⟨before ++ [word.1], after, by simp [tokens]⟩ m trailing

section Stands

variable (src : Source) {ts : List Token}

mutual

theorem QueryPhrase.value_standsIn (ordered : InOrder ts) : ∀ (q : QueryPhrase) {scope : IndexScope}
    (table : PrefixTable) {before : List Token} (after : List Token),
    ts = before ++ q.tokens ++ after → scope.WrittenIn src.choice before →
    (q.value src scope table).1.StandsIn src.choice ts
  | .chain first rest, scope, table, before, after, tokens, written => by
    have head := first.value_standsIn ordered table (rest.tokens ++ after)
      (by simp [tokens, QueryPhrase.tokens]) written
    exact rest.value_standsIn ordered _ after (by simp [tokens, QueryPhrase.tokens])
      (written.append first.tokens) head

theorem ChainPhrase.value_standsIn (ordered : InOrder ts) : ∀ (k : ChainPhrase) {scope : IndexScope}
    (table : PrefixTable) {left : Node} {before : List Token} (after : List Token),
    ts = before ++ k.tokens ++ after → scope.WrittenIn src.choice before →
    left.StandsIn src.choice ts → (k.value src scope table left).1.StandsIn src.choice ts
  | .done, _, _, _, _, _, _, _, stands => stands
  | .join operator ms operand rest, scope, table, left, before, after, tokens, written, stands => by
    have inside : operator.1 :: modifierTokens ms <:+: ts :=
      ⟨before, operand.tokens ++ rest.tokens ++ after, by simp [tokens, ChainPhrase.tokens]⟩
    have right := operand.value_standsIn ordered table (rest.tokens ++ after)
      (by simp [tokens, ChainPhrase.tokens])
      (written.append (operator.1 :: modifierTokens ms))
    exact rest.value_standsIn ordered _ after (by simp [tokens, ChainPhrase.tokens])
      (written.append (operator.1 :: modifierTokens ms ++ operand.tokens))
      ⟨stands, connective_standsIn inside, right⟩

theorem ClausePhrase.value_standsIn (ordered : InOrder ts) : ∀ (c : ClausePhrase)
    {scope : IndexScope} (table : PrefixTable) {before : List Token} (after : List Token),
    ts = before ++ c.tokens ++ after → scope.WrittenIn src.choice before →
    (c.value src scope table).1.StandsIn src.choice ts
  | .group opening inner closing, scope, table, before, after, tokens, written => by
    -- The group forgets where the index started, and nothing else.
    have unstarted : { scope with start := none }.WrittenIn src.choice before :=
      ⟨nofun, written.relation, written.chosen, written.modifiers⟩
    exact inner.value_standsIn ordered table (closing.1 :: after)
      (by simp [tokens, ClausePhrase.tokens]) (unstarted.append [opening.1])
  | .declared declaration inner, scope, table, before, after, tokens, written =>
    inner.value_standsIn ordered _ after (by simp [tokens, ClausePhrase.tokens])
      (written.append declaration.tokens)
  | .indexed name relation ms inner, scope, table, before, after, tokens, _ =>
    inner.value_standsIn ordered table after (by simp [tokens, ClausePhrase.tokens])
      (indexScope_writtenIn src.choice before name relation ms)
  | .term word ms, scope, table, before, after, tokens, written =>
    termClause_standsIn ordered written table word ms tokens

end

end Stands

/-- Spans that start and stop at edges of tokens, and stand one after another. -/
structure Covers (ts : List Token) (spans : List Span) : Prop where
  edges : ∀ s ∈ spans, s.start < s.stop ∧ (∃ t ∈ ts, s.start = t.start) ∧ ∃ t ∈ ts, s.stop = t.stop
  ordered : spans.Pairwise fun a b => a.stop ≤ b.start

theorem Covers.mono {ts us : List Token} {spans : List Span} (h : Covers ts spans)
    (more : ts ⊆ us) : Covers us spans := by
  refine ⟨?_, h.ordered⟩
  intro s hs
  obtain ⟨proper, ⟨t, ht, start⟩, u, hu, stop⟩ := h.edges s hs
  exact ⟨proper, ⟨t, more ht, start⟩, u, more hu, stop⟩

theorem Covers.append {ts us : List Token} {spans spans' : List Span} (h : Covers ts spans)
    (h' : Covers us spans') (ordered : InOrder (ts ++ us)) :
    Covers (ts ++ us) (spans ++ spans') := by
  obtain ⟨-, -, apart⟩ := InOrder.append_iff.mp ordered
  have left := h.mono (List.subset_append_left ts us)
  have right := h'.mono (List.subset_append_right ts us)
  refine ⟨?_, List.pairwise_append.mpr ⟨h.ordered, h'.ordered, ?_⟩⟩
  · intro s hs
    exact (List.mem_append.mp hs).elim (left.edges s) (right.edges s)
  · intro a ha b hb
    obtain ⟨-, -, t, ht, stop⟩ := h.edges a ha
    obtain ⟨-, ⟨u, hu, start⟩, -⟩ := h'.edges b hb
    have := apart t ht u hu
    omega

/-- The span from the first of some tokens to the end of any of them. -/
theorem Covers.single {first last : Token} {ts : List Token} (ordered : InOrder (first :: ts))
    (mem : last ∈ first :: ts) : Covers (first :: ts) [⟨first.start, last.stop⟩] := by
  obtain ⟨proper, later, rest⟩ := InOrder.cons_iff.mp ordered
  have forward : first.start < last.stop := by
    obtain rfl | hlast := List.mem_cons.mp mem
    · exact proper
    · have := later last hlast
      have := rest.1 last hlast
      omega
  refine ⟨?_, List.pairwise_singleton _ _⟩
  intro s hs
  obtain rfl := List.mem_singleton.mp hs
  exact ⟨forward, ⟨first, List.mem_cons_self, rfl⟩, last, mem, rfl⟩

section Order

variable (src : Source)

mutual

theorem QueryPhrase.value_covers : ∀ (q : QueryPhrase) (scope : IndexScope) (table : PrefixTable),
    InOrder q.tokens → Covers q.tokens (q.value src scope table).1.spans
  | .chain first rest, scope, table, ordered =>
    rest.value_covers scope _ ordered
      (first.value_covers scope table (InOrder.append_iff.mp ordered).1)

/-- A chain follows what it joins its operands to. -/
theorem ChainPhrase.value_covers : ∀ (k : ChainPhrase) (scope : IndexScope) (table : PrefixTable)
    {left : Node} {before : List Token}, InOrder (before ++ k.tokens) → Covers before left.spans →
    Covers (before ++ k.tokens) (k.value src scope table left).1.spans
  | .done, _, _, left, before, _, covers => by
    simpa [ChainPhrase.tokens, ChainPhrase.value] using covers
  | .join operator ms operand rest, scope, table, left, before, ordered, covers => by
    have tokens : before ++ (ChainPhrase.join operator ms operand rest).tokens =
        (before ++ (operator.1 :: modifierTokens ms) ++ operand.tokens) ++ rest.tokens := by
      simp [ChainPhrase.tokens]
    rw [tokens] at ordered ⊢
    have joined := (InOrder.append_iff.mp ordered).1
    obtain ⟨orderedLeft, orderedRight, -⟩ := InOrder.append_iff.mp joined
    have word := Covers.single (InOrder.append_iff.mp orderedLeft).2.1
      (lastOfConnective_mem operator.1 ms)
    have right := operand.value_covers scope table orderedRight
    refine rest.value_covers scope _ ordered ?_
    have spans := (covers.append word orderedLeft).append right joined
    simpa [Node.spans, connective_range] using spans

theorem ClausePhrase.value_covers : ∀ (c : ClausePhrase) (scope : IndexScope) (table : PrefixTable),
    InOrder c.tokens → Covers c.tokens (c.value src scope table).1.spans
  | .group opening inner closing, scope, table, ordered => by
    obtain ⟨-, -, rest⟩ := InOrder.cons_iff.mp (InOrder.append_iff.mp ordered).1
    refine (inner.value_covers { scope with start := none } table rest).mono ?_
    intro t ht
    simp [ClausePhrase.tokens, ht]
  | .declared declaration inner, scope, table, ordered =>
    (inner.value_covers scope _ (InOrder.append_iff.mp ordered).2.1).mono
      (List.subset_append_right _ _)
  | .indexed name relation ms inner, scope, table, ordered =>
    (inner.value_covers _ table (InOrder.append_iff.mp ordered).2.1).mono
      (List.subset_append_right _ _)
  | .term word ms, scope, table, ordered =>
    Covers.single ordered List.mem_cons_self

end

end Order

/-- A byte where a token starts or stops. -/
def IsEdge (ts : List Token) (p : Nat) : Prop := ∃ t ∈ ts, p = t.start ∨ p = t.stop

theorem Modifier.StandsIn.ends {ts : List Token} {m : Modifier} (h : m.StandsIn ts) :
    ∃ slash ∈ ts, ∃ name ∈ ts, ∃ last ∈ ts,
      m.pos = some name.start ∧ m.range = some ⟨slash.start, last.stop⟩ := by
  obtain ⟨slash, name, -, -, -, pos, ⟨tokens, -, range⟩ | setting⟩ := h
  · exact ⟨slash, tokens.mem (by simp), name, tokens.mem (by simp), name, tokens.mem (by simp), pos,
      range⟩
  · obtain ⟨relation, value, tokens, -, -, -, -, range⟩ := setting
    exact ⟨slash, tokens.mem (by simp), name, tokens.mem (by simp), value, tokens.mem (by simp),
      pos, range⟩

theorem isEdge_modifiers {ts : List Token} {ms : List Modifier} (h : ∀ m ∈ ms, m.StandsIn ts) :
    ∀ p ∈ ms.flatMap Modifier.offsets, IsEdge ts p := by
  intro p hp
  obtain ⟨m, hm, hp⟩ := List.mem_flatMap.mp hp
  obtain ⟨slash, hslash, name, hname, last, hlast, pos, range⟩ := (h m hm).ends
  simp only [Modifier.offsets, pos, range, Span.edges, Option.toList_some, List.flatMap_singleton,
    List.cons_append, List.nil_append, List.mem_cons, List.not_mem_nil, or_false] at hp
  obtain rfl | rfl | rfl := hp
  · exact ⟨name, hname, .inl rfl⟩
  · exact ⟨slash, hslash, .inl rfl⟩
  · exact ⟨last, hlast, .inr rfl⟩

theorem SearchClause.StandsIn.isEdge {choice : ServerChoice} {ts : List Token} {c : SearchClause}
    (h : c.StandsIn choice ts) : ∀ p ∈ (Node.clause c).offsets, IsEdge ts p := by
  intro p hp
  obtain ⟨⟨first, term, hfirst, -, pos, -, hterm, -, -, range, relation, -⟩, modifiers⟩ := h
  simp only [Node.offsets, pos, range, Token.span, Span.edges, Option.toList_some,
    List.flatMap_singleton, List.cons_append, List.nil_append, List.mem_cons, List.mem_append,
    Option.mem_toList] at hp
  obtain rfl | rfl | rfl | hrelation | hmodifier := hp
  · exact ⟨first, hfirst, .inl rfl⟩
  · exact ⟨term, hterm, .inl rfl⟩
  · exact ⟨term, hterm, .inr rfl⟩
  · obtain ⟨t, found, -, -⟩ := relation p hrelation
    have start : t.start = p := by simpa using List.find?_some found
    exact ⟨t, List.mem_of_find?_eq_some found, .inl start.symm⟩
  · exact isEdge_modifiers modifiers p hmodifier

theorem Connective.StandsIn.isEdge {ts : List Token} {k : Connective} (h : k.StandsIn ts) :
    ∀ p ∈ k.pos.toList ++ k.range.toList.flatMap Span.edges ++
      k.modifiers.flatMap Modifier.offsets, IsEdge ts p := by
  intro p hp
  obtain ⟨⟨word, stop, hword, -, -, pos, range, bare, last⟩, modifiers⟩ := h
  simp only [pos, range, Span.edges, Option.toList_some, List.flatMap_singleton, List.cons_append,
    List.nil_append, List.mem_cons] at hp
  obtain rfl | rfl | rfl | hmodifier := hp
  · exact ⟨word, hword, .inl rfl⟩
  · exact ⟨word, hword, .inl rfl⟩
  · cases ms : k.modifiers.getLast? with
    | none => exact ⟨word, hword, .inr (bare (List.getLast?_eq_none_iff.mp ms))⟩
    | some m =>
      have stops := last m ms
      obtain ⟨slash, -, name, -, token, htoken, -, ends⟩ :=
        (modifiers m (List.mem_of_getLast? ms)).ends
      rw [ends] at stops
      exact ⟨token, htoken, .inr (Option.some.inj stops).symm⟩
  · exact isEdge_modifiers modifiers p hmodifier

theorem Node.StandsIn.isEdge {choice : ServerChoice} {ts : List Token} {n : Node}
    (h : n.StandsIn choice ts) : ∀ p ∈ n.offsets, IsEdge ts p := by
  induction n with
  | clause c => exact SearchClause.StandsIn.isEdge h
  | boolean k left right ihl ihr =>
    obtain ⟨standsLeft, stands, standsRight⟩ := h
    intro p hp
    obtain hp | hp := List.mem_append.mp hp
    · exact (List.mem_append.mp hp).elim (ihl standsLeft p) (ihr standsRight p)
    · exact stands.isEdge p hp

/-- In the tree of a query, every position is that of the token it stands for, and lies between two
characters of the query. The terms and operators follow one another from left to right. -/
theorem parse_standsIn {query : String} {choice : ServerChoice} {n : Node}
    (h : Node.parse query choice = .ok n) :
    n.StandsIn choice (tokenize query) ∧
      (∀ p ∈ n.offsets, p ≤ Text.byteSize query.toList ∧ Text.IsBoundary query.toList p) ∧
      (∀ s ∈ n.spans, s.start < s.stop) ∧
      n.spans.Pairwise fun a b => a.start < b.start ∧ a.stop ≤ b.start := by
  obtain ⟨q, table, tokens, -, -, -, value⟩ := exists_phrase_of_parse h
  obtain rfl := congrArg Prod.fst value
  have ordered := tokenize_ordered query
  have written : (IndexScope.ofChoice choice).WrittenIn choice [] :=
    ⟨nofun, nofun, fun _ => rfl, nofun⟩
  have whole : tokenize query = [] ++ q.tokens ++ [] := by simp [tokens]
  have stands := q.value_standsIn ⟨query, choice⟩ ordered .empty [] whole written
  have covers := q.value_covers ⟨query, choice⟩ (.ofChoice choice) .empty (tokens ▸ ordered)
  refine ⟨stands, ?_, fun s hs => (covers.edges s hs).1, ?_⟩
  · intro p hp
    obtain ⟨t, ht, edge⟩ := stands.isEdge p hp
    obtain ⟨starts, stops⟩ := tokenize_boundary ht
    have boundary : Text.IsBoundary query.toList p := by
      obtain rfl | rfl := edge
      · exact starts
      · exact stops
    exact ⟨boundary.le, boundary⟩
  · refine covers.ordered.imp_of_mem ?_
    intro a b ha _ before
    have proper := (covers.edges a ha).1
    exact ⟨by omega, before⟩

/-- The index and its relation stand outside the group, the first term has a character of two bytes,
and the operator reaches to the value of its modifier. -/
theorem parse_standsIn_group :
    ∃ n, Node.parse "ti =/x (\"é\" Or/y<2 b)" {} = .ok n ∧
      n.spans = [⟨8, 12⟩, ⟨13, 19⟩, ⟨20, 21⟩] ∧
      n.clauses.map (fun c => (c.pos, c.relationPos)) = [(some 8, some 3), (some 20, some 3)] ∧
      n.StandsIn {} (tokenize "ti =/x (\"é\" Or/y<2 b)") := by
  have facts : (Node.parse "ti =/x (\"é\" Or/y<2 b)" {}).toOption.map
      (fun n => (n.spans, n.clauses.map fun c => (c.pos, c.relationPos))) =
      some ([⟨8, 12⟩, ⟨13, 19⟩, ⟨20, 21⟩], [(some 8, some 3), (some 20, some 3)]) := by
    decide +kernel
  cases parsed : Node.parse "ti =/x (\"é\" Or/y<2 b)" {} with
  | error e => simp [parsed, Except.toOption] at facts
  | ok n =>
    simp only [parsed, Except.toOption, Option.map_some, Option.some.injEq, Prod.mk.injEq] at facts
    exact ⟨n, rfl, facts.1, facts.2, (parse_standsIn parsed).1⟩

end ContextualQuery
