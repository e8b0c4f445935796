import ContextualQuery.Proofs.Query.Lookahead

/-!
# The parser accepts its grammar

A list of tokens can have several derivations. Every one of them can be rearranged into the one
that reading follows, and no two derivations keep the rules of preference:

* `QueryPhrase.rearrange`: every derivation has a settled one with the same tokens;
* `QueryPhrase.eq_of_tokens`: settled derivations of the same tokens are equal;
* `QueryPhrase.preferred_iff_settled`: the lookahead rules say that the query after a declaration
  is as long as it can be;
* `parse_iff_derivable`: a query is read exactly if its tokens are derivable, and its tree has the
  shape of the one preferred derivation.
-/
namespace ContextualQuery

-- A word before an operator keyword may be derived as an index; the keyword then joins the rest to
-- the word instead. A declaration may be derived with too short a query; the operators after it
-- then go on inside.
mutual

theorem QueryPhrase.rearrange : ∀ (q : QueryPhrase) (k : ChainPhrase) {after : List Token},
    q.Greedy (k.tokens ++ after) → k.Greedy after → k.Settled after → EndsQuery after →
    ∃ q' : QueryPhrase, q'.tokens = q.tokens ++ k.tokens ∧ q'.Greedy after ∧ q'.Settled after
  | .chain first rest, k, after, greedy, greedyk, settledk, ends => by
    obtain ⟨rest', tokens, greedy', settled'⟩ :=
      rest.rearrange k greedy.2 greedyk settledk ends
    have greedyFirst : first.Greedy (rest'.tokens ++ after) := by
      rw [tokens, List.append_assoc]
      exact greedy.1
    obtain ⟨q', tokens', result⟩ := first.rearrange rest' greedyFirst greedy' settled' ends
    exact ⟨q', by rw [tokens', tokens, QueryPhrase.tokens, List.append_assoc], result⟩

theorem ChainPhrase.rearrange : ∀ (r k : ChainPhrase) {after : List Token},
    r.Greedy (k.tokens ++ after) → k.Greedy after → k.Settled after → EndsQuery after →
    ∃ r' : ChainPhrase, r'.tokens = r.tokens ++ k.tokens ∧ r'.Greedy after ∧ r'.Settled after
  | .done, k, after, _, greedyk, settledk, _ => ⟨k, rfl, greedyk, settledk⟩
  | .join operator ms operand rest, k, after, greedy, greedyk, settledk, ends => by
    obtain ⟨rest', tokens, greedy', settled'⟩ :=
      rest.rearrange k greedy.2.2 greedyk settledk ends
    have greedyOperand : operand.Greedy (rest'.tokens ++ after) := by
      rw [tokens, List.append_assoc]
      exact greedy.2.1
    obtain ⟨⟨first, chain⟩, tokens', greedy'', settled''⟩ :=
      operand.rearrange rest' greedyOperand greedy' settled' ends
    rw [QueryPhrase.tokens, tokens] at tokens'
    have greedyMods : GreedyModifiers ms (first.tokens ++ (chain.tokens ++ after)) := by
      rw [← List.append_assoc, tokens', List.append_assoc, List.append_assoc]
      exact greedy.1
    refine ⟨.join operator ms first chain, ?_, ⟨greedyMods, greedy''⟩, settled''⟩
    simp only [ChainPhrase.tokens, List.cons_append, List.append_assoc, tokens']

theorem ClausePhrase.rearrange : ∀ (c : ClausePhrase) (k : ChainPhrase) {after : List Token},
    c.Greedy (k.tokens ++ after) → k.Greedy after → k.Settled after → EndsQuery after →
    ∃ q : QueryPhrase, q.tokens = c.tokens ++ k.tokens ∧ q.Greedy after ∧ q.Settled after
  | .group opening inner closing, k, after, greedy, greedyk, settledk, ends => by
    have endsInner : EndsQuery (closing.1 :: (k.tokens ++ after)) := by
      simp [EndsQuery, closing.2]
    obtain ⟨inner', tokens, greedy', settled'⟩ :=
      inner.rearrange .done greedy trivial trivial endsInner
    rw [ChainPhrase.tokens, List.append_nil] at tokens
    refine ⟨.chain (.group opening inner' closing) k, ?_, ⟨greedy', greedyk⟩,
      ⟨settled', settledk⟩⟩
    simp only [QueryPhrase.tokens, ClausePhrase.tokens, tokens]
  | .declared declaration inner, k, after, greedy, greedyk, settledk, ends => by
    -- The operators after the declared query become part of it.
    obtain ⟨inner', tokens, greedy', settled'⟩ := inner.rearrange k greedy greedyk settledk ends
    refine ⟨.chain (.declared declaration inner') .done, ?_, ⟨greedy', trivial⟩,
      ⟨⟨settled', ends.not_operator⟩, trivial⟩⟩
    simp [QueryPhrase.tokens, ClausePhrase.tokens, ChainPhrase.tokens, tokens]
  | .indexed name relation ms inner, k, after, greedy, greedyk, settledk, ends => by
    obtain ⟨⟨first, chain⟩, tokens, greedy', settled'⟩ :=
      inner.rearrange k greedy.2 greedyk settledk ends
    rw [QueryPhrase.tokens] at tokens
    have greedyMods : GreedyModifiers ms (first.tokens ++ (chain.tokens ++ after)) := by
      rw [← List.append_assoc, tokens, List.append_assoc]
      exact greedy.1
    cases isRelation : relation.1.isRelation with
    | true =>
      refine ⟨.chain (.indexed name relation ms first) chain, ?_,
        ⟨⟨greedyMods, greedy'.1⟩, greedy'.2⟩, ⟨⟨isRelation, settled'.1⟩, settled'.2⟩⟩
      simp only [QueryPhrase.tokens, ClausePhrase.tokens, List.cons_append, List.append_assoc,
        tokens]
    | false =>
      -- The relation is a keyword: the index is a term, and the keyword joins the rest to it.
      have spelled := isOperator_of_not_isRelation relation.2 isRelation
      refine ⟨.chain (.term name []) (.join ⟨relation.1, spelled⟩ ms first chain), ?_,
        ⟨trivial, greedyMods, greedy'⟩, ⟨?_, settled'⟩⟩
      · simp only [QueryPhrase.tokens, ClausePhrase.tokens, ChainPhrase.tokens, modifierTokens_nil,
          List.cons_append, List.nil_append, List.append_assoc, tokens]
      · simp [ClausePhrase.Settled, ChainPhrase.tokens, isRelation]
  | .term word ms, k, after, greedy, greedyk, settledk, ends => by
    refine ⟨.chain (.term word ms) k, rfl, ⟨greedy, greedyk⟩, ⟨?_, settledk⟩⟩
    exact (k.endsClause ends.endsClause).settled_term word ms

end

/-! ## Settled derivations are determined by their tokens -/

/-- The tokens of a mark and a word that may be left out. -/
def pairTokens {p : Token → Bool} : Option ({ t : Token // p t = true } × Word) → List Token
  | none => []
  | some (mark, word) => [mark.1, word.1]

/-- A pair is left out only where no mark comes next, so the tokens tell whether it is there. -/
theorem eq_of_pairTokens {p : Token → Bool}
    {pair pair' : Option ({ t : Token // p t = true } × Word)} {r s : List Token}
    (same : pairTokens pair ++ r = pairTokens pair' ++ s) (stops : pair = none → NextIsNot p r)
    (stops' : pair' = none → NextIsNot p s) : pair = pair' ∧ r = s := by
  cases pair with
  | none =>
    cases pair' with
    | none => exact ⟨rfl, same⟩
    | some pair' =>
      have next := stops rfl
      simp only [pairTokens, List.nil_append, List.cons_append] at same
      rw [same, nextIsNot_cons, pair'.1.2] at next
      cases next
  | some pair =>
    cases pair' with
    | none =>
      have next := stops' rfl
      simp only [pairTokens, List.nil_append, List.cons_append] at same
      rw [← same, nextIsNot_cons, pair.1.2] at next
      cases next
    | some pair' =>
      obtain ⟨mark, word⟩ := pair
      obtain ⟨mark', word'⟩ := pair'
      simp only [pairTokens, List.nil_append, List.cons_append, List.cons.injEq] at same
      obtain ⟨marks, words, rest⟩ := same
      obtain rfl := Subtype.ext marks
      obtain rfl := Subtype.ext words
      exact ⟨rfl, rest⟩

theorem ModifierPhrase.tokens_eq (m : ModifierPhrase) :
    m.tokens = m.slash.1 :: m.name.1 :: pairTokens m.setting := by
  obtain ⟨slash, name, setting⟩ := m
  cases setting <;> rfl

theorem ModifierPhrase.eq_of_tokens {m m' : ModifierPhrase} {r s : List Token}
    (same : m.tokens ++ r = m'.tokens ++ s)
    (greedy : m.setting = none → NextIsNot (Token.isKind .comparison) r)
    (greedy' : m'.setting = none → NextIsNot (Token.isKind .comparison) s) : m = m' ∧ r = s := by
  obtain ⟨slash, name, setting⟩ := m
  obtain ⟨slash', name', setting'⟩ := m'
  simp only [ModifierPhrase.tokens_eq, List.cons_append, List.cons.injEq] at same
  obtain ⟨slashes, names, same⟩ := same
  obtain rfl := Subtype.ext slashes
  obtain rfl := Subtype.ext names
  obtain ⟨rfl, rest⟩ := eq_of_pairTokens same greedy greedy'
  exact ⟨rfl, rest⟩

theorem eq_of_modifierTokens {ms ms' : List ModifierPhrase} {r s : List Token}
    (same : modifierTokens ms ++ r = modifierTokens ms' ++ s) (greedy : GreedyModifiers ms r)
    (greedy' : GreedyModifiers ms' s) (stops : NextIsNot (Token.isKind .slash) r)
    (stops' : NextIsNot (Token.isKind .slash) s) : ms = ms' ∧ r = s := by
  induction ms generalizing ms' with
  | nil =>
    cases ms' with
    | nil => exact ⟨rfl, same⟩
    | cons m' ms' =>
      rw [modifierTokens_nil, List.nil_append] at same
      rw [same, modifierTokens_cons] at stops
      simp [ModifierPhrase.tokens, m'.slash.2] at stops
  | cons m ms ih =>
    cases ms' with
    | nil =>
      rw [modifierTokens_nil, List.nil_append] at same
      rw [← same, modifierTokens_cons] at stops'
      simp [ModifierPhrase.tokens, m.slash.2] at stops'
    | cons m' ms' =>
      simp only [modifierTokens_cons, List.append_assoc] at same
      obtain ⟨rfl, rest⟩ := ModifierPhrase.eq_of_tokens same greedy.1 greedy'.1
      obtain ⟨rfl, last⟩ := ih rest greedy.2 greedy'.2
      exact ⟨rfl, last⟩

theorem DeclarationPhrase.tokens_eq (d : DeclarationPhrase) :
    d.tokens = d.mark.1 :: d.first.1 :: pairTokens d.uri := by
  obtain ⟨mark, first, uri⟩ := d
  cases uri <;> rfl

theorem DeclarationPhrase.eq_of_tokens {d d' : DeclarationPhrase} {r s : List Token}
    (same : d.tokens ++ r = d'.tokens ++ s) (stops : NextIsNot (·.isComparison "=") r)
    (stops' : NextIsNot (·.isComparison "=") s) : d = d' ∧ r = s := by
  obtain ⟨mark, first, uri⟩ := d
  obtain ⟨mark', first', uri'⟩ := d'
  simp only [DeclarationPhrase.tokens_eq, List.cons_append, List.cons.injEq] at same
  obtain ⟨marks, firsts, same⟩ := same
  obtain rfl := Subtype.ext marks
  obtain rfl := Subtype.ext firsts
  obtain ⟨rfl, rest⟩ := eq_of_pairTokens same (fun _ => stops) fun _ => stops'
  exact ⟨rfl, rest⟩

/-- The productions of a clause that its first token tells apart. -/
inductive Opening where
  | group
  | declaration
  | word
deriving DecidableEq

/-- The productions that a first token belongs to. -/
def Token.opening (t : Token) : Opening :=
  if t.isWord then .word else if t.isComparison ">" then .declaration else .group

/-- The production of a clause, index and term not told apart. -/
def ClausePhrase.opening : ClausePhrase → Opening
  | .group .. => .group
  | .declared .. => .declaration
  | .indexed .. | .term .. => .word

theorem ClausePhrase.head_opening (c : ClausePhrase) (after : List Token) :
    (c.tokens ++ after).head?.map Token.opening = some c.opening := by
  cases c with
  | group opening inner closing =>
    have kind : opening.1.kind = .openParen := by simpa [Token.isKind] using opening.2
    simp [ClausePhrase.tokens, Token.opening, Token.isWord, Token.isComparison, kind,
      ClausePhrase.opening]
  | declared declaration inner =>
    have notWord : declaration.mark.1.isWord = false := by
      have mark := declaration.mark.2
      simp only [Token.isComparison, Bool.and_eq_true, beq_iff_eq] at mark
      simp [Token.isWord, mark.1]
    simp [ClausePhrase.tokens, DeclarationPhrase.tokens, Token.opening, notWord,
      declaration.mark.2, ClausePhrase.opening]
  | indexed name relation ms inner =>
    simp [ClausePhrase.tokens, Token.opening, name.2, ClausePhrase.opening]
  | term word ms => simp [ClausePhrase.tokens, Token.opening, word.2, ClausePhrase.opening]

theorem ClausePhrase.opening_eq {c d : ClausePhrase} {r s : List Token}
    (same : c.tokens ++ r = d.tokens ++ s) : c.opening = d.opening := by
  have head := c.head_opening r
  rw [same, d.head_opening s] at head
  exact (Option.some.inj head).symm

mutual

theorem QueryPhrase.eq_of_tokens : ∀ (q q' : QueryPhrase) {r s : List Token},
    q.tokens ++ r = q'.tokens ++ s → q.Greedy r → q.Settled r → q'.Greedy s → q'.Settled s →
    EndsQuery r → EndsQuery s → q = q' ∧ r = s
  | .chain first rest, .chain first' rest', r, s, same, greedy, settled, greedy', settled',
      ends, ends' => by
    simp only [QueryPhrase.tokens, List.append_assoc] at same
    obtain ⟨rfl, same'⟩ := first.eq_of_tokens first' same greedy.1 settled.1 greedy'.1 settled'.1
      (rest.endsClause ends.endsClause) (rest'.endsClause ends'.endsClause)
    obtain ⟨rfl, same''⟩ :=
      rest.eq_of_tokens rest' same' greedy.2 settled.2 greedy'.2 settled'.2 ends ends'
    exact ⟨rfl, same''⟩

theorem ChainPhrase.eq_of_tokens : ∀ (k k' : ChainPhrase) {r s : List Token},
    k.tokens ++ r = k'.tokens ++ s → k.Greedy r → k.Settled r → k'.Greedy s → k'.Settled s →
    EndsQuery r → EndsQuery s → k = k' ∧ r = s
  | .done, .done, r, s, same, _, _, _, _, _, _ => ⟨rfl, same⟩
  | .done, .join operator _ _ _, r, s, same, _, _, _, _, ends, _ => by
    have stops := ends.not_operator
    simp only [ChainPhrase.tokens, List.nil_append, List.cons_append] at same
    rw [same, nextIsNot_cons, operator.2] at stops
    cases stops
  | .join operator _ _ _, .done, r, s, same, _, _, _, _, _, ends' => by
    have stops := ends'.not_operator
    simp only [ChainPhrase.tokens, List.nil_append, List.cons_append] at same
    rw [← same, nextIsNot_cons, operator.2] at stops
    cases stops
  | .join operator ms operand rest, .join operator' ms' operand' rest', r, s, same, greedy,
      settled, greedy', settled', ends, ends' => by
    simp only [ChainPhrase.tokens, List.cons_append, List.append_assoc, List.cons.injEq] at same
    obtain ⟨operators, same⟩ := same
    obtain rfl := Subtype.ext operators
    obtain ⟨rfl, same'⟩ := eq_of_modifierTokens same greedy.1 greedy'.1 (operand.not_slash _)
      (operand'.not_slash _)
    obtain ⟨rfl, same''⟩ := operand.eq_of_tokens operand' same' greedy.2.1 settled.1 greedy'.2.1
      settled'.1 (rest.endsClause ends.endsClause) (rest'.endsClause ends'.endsClause)
    obtain ⟨rfl, same'''⟩ :=
      rest.eq_of_tokens rest' same'' greedy.2.2 settled.2 greedy'.2.2 settled'.2 ends ends'
    exact ⟨rfl, same'''⟩

theorem ClausePhrase.eq_of_tokens : ∀ (c d : ClausePhrase) {r s : List Token},
    c.tokens ++ r = d.tokens ++ s → c.Greedy r → c.Settled r → d.Greedy s → d.Settled s →
    EndsClause r → EndsClause s → c = d ∧ r = s
  | .group opening inner closing, d, r, s, same, greedy, settled, greedy', settled', _, _ => by
    have start := ClausePhrase.opening_eq same
    cases d with
    | group opening' inner' closing' =>
      simp only [ClausePhrase.tokens, List.cons_append, List.append_assoc, List.nil_append,
        List.cons.injEq] at same
      obtain ⟨openings, same⟩ := same
      obtain rfl := Subtype.ext openings
      obtain ⟨rfl, rest⟩ := inner.eq_of_tokens inner' same greedy settled greedy' settled'
        (by simp [EndsQuery, closing.2]) (by simp [EndsQuery, closing'.2])
      obtain ⟨closings, last⟩ := List.cons.inj rest
      obtain rfl := Subtype.ext closings
      exact ⟨rfl, last⟩
    | declared => cases start
    | indexed => cases start
    | term => cases start
  | .declared declaration inner, d, r, s, same, greedy, settled, greedy', settled', ends,
    ends' => by
    have start := ClausePhrase.opening_eq same
    cases d with
    | declared declaration' inner' =>
      simp only [ClausePhrase.tokens, List.append_assoc] at same
      obtain ⟨rfl, same'⟩ :=
        DeclarationPhrase.eq_of_tokens same (inner.not_equals _) (inner'.not_equals _)
      obtain ⟨rfl, rest⟩ := inner.eq_of_tokens inner' same' greedy settled.1 greedy' settled'.1
        (ends.endsQuery settled.2) (ends'.endsQuery settled'.2)
      exact ⟨rfl, rest⟩
    | group => cases start
    | indexed => cases start
    | term => cases start
  | .indexed name relation ms inner, d, r, s, same, greedy, settled, greedy', settled',
      ends, ends' => by
    have start := ClausePhrase.opening_eq same
    cases d with
    | indexed name' relation' ms' inner' =>
      simp only [ClausePhrase.tokens, List.cons_append, List.append_assoc,
        List.cons.injEq] at same
      obtain ⟨names, relations, same⟩ := same
      obtain rfl := Subtype.ext names
      obtain rfl := Subtype.ext relations
      obtain ⟨rfl, same'⟩ := eq_of_modifierTokens same greedy.1 greedy'.1 (inner.not_slash _)
        (inner'.not_slash _)
      obtain ⟨rfl, rest⟩ := inner.eq_of_tokens inner' same' greedy.2 settled.2 greedy'.2
        settled'.2 ends ends'
      exact ⟨rfl, rest⟩
    | term word ms' =>
      -- A relation comes next, so the word is no term.
      simp only [ClausePhrase.tokens, List.cons_append, List.append_assoc,
        List.cons.injEq] at same
      rw [ClausePhrase.Settled, ← same.2, nextIsNot_cons, settled.1] at settled'
      cases settled'
    | group => cases start
    | declared => cases start
  | .term word ms, d, r, s, same, greedy, settled, greedy', settled', ends, ends' => by
    have start := ClausePhrase.opening_eq same
    cases d with
    | indexed name' relation' ms' inner' =>
      simp only [ClausePhrase.tokens, List.cons_append, List.append_assoc,
        List.cons.injEq] at same
      rw [ClausePhrase.Settled, same.2, nextIsNot_cons, settled'.1] at settled
      cases settled
    | term word' ms' =>
      simp only [ClausePhrase.tokens, List.cons_append, List.cons.injEq] at same
      obtain ⟨words, same⟩ := same
      obtain rfl := Subtype.ext words
      obtain ⟨rfl, rest⟩ := eq_of_modifierTokens same greedy greedy'
        (ends.not_isKind (by simp) (by simp) (by simp))
        (ends'.not_isKind (by simp) (by simp) (by simp))
      exact ⟨rfl, rest⟩
    | group => cases start
    | declared => cases start

end

/-- The number of groups open after tokens, from `depth` on; none if a group is closed that was
not opened. -/
def depthAfter : Nat → List Token → Option Nat
  | depth, [] => some depth
  | depth, t :: ts =>
    if t.kind = .openParen then depthAfter (depth + 1) ts
    else if t.kind = .closeParen then
      match depth with
      | 0 => none
      | outer + 1 => depthAfter outer ts
    else depthAfter depth ts

theorem depthAfter_cons {t : Token} (opens : t.kind ≠ .openParen) (closes : t.kind ≠ .closeParen)
    (depth : Nat) (ts : List Token) : depthAfter depth (t :: ts) = depthAfter depth ts := by
  cases depth <;> simp [depthAfter, opens, closes]

theorem depthAfter_word {t : Token} (h : (t.isWord || t.isKind .comparison) = true) (depth : Nat)
    (ts : List Token) : depthAfter depth (t :: ts) = depthAfter depth ts := by
  apply depthAfter_cons
  · intro opens
    simp [Token.isWord, Token.isKind, opens] at h
  · intro closes
    simp [Token.isWord, Token.isKind, closes] at h

theorem depthAfter_comparison {t : Token} {symbol : String} (h : t.isComparison symbol = true)
    (depth : Nat) (ts : List Token) : depthAfter depth (t :: ts) = depthAfter depth ts := by
  apply depthAfter_word
  simp only [Token.isComparison, Bool.and_eq_true] at h
  simp [Token.isKind, h.1]

theorem depthAfter_modifierTokens (ms : List ModifierPhrase) (depth : Nat) (after : List Token) :
    depthAfter depth (modifierTokens ms ++ after) = depthAfter depth after := by
  induction ms with
  | nil => rfl
  | cons m ms ih =>
    obtain ⟨slash, name, setting⟩ := m
    have kind : slash.1.kind = .slash := by simpa [Token.isKind] using slash.2
    simp only [modifierTokens_cons, ModifierPhrase.tokens, List.cons_append]
    rw [depthAfter_cons (by simp [kind]) (by simp [kind]), depthAfter_word (by simp [name.2])]
    cases setting with
    | none => exact ih
    | some pair =>
      simp only [List.cons_append, List.nil_append]
      rw [depthAfter_word (by simp [pair.1.2]), depthAfter_word (by simp [pair.2.2])]
      exact ih

theorem DeclarationPhrase.depthAfter_tokens (d : DeclarationPhrase) (depth : Nat)
    (after : List Token) : depthAfter depth (d.tokens ++ after) = depthAfter depth after := by
  obtain ⟨mark, first, uri⟩ := d
  simp only [DeclarationPhrase.tokens, List.cons_append]
  rw [depthAfter_comparison mark.2, depthAfter_word (by simp [first.2])]
  cases uri with
  | none => rfl
  | some pair =>
    simp only [List.cons_append, List.nil_append]
    rw [depthAfter_comparison pair.1.2, depthAfter_word (by simp [pair.2.2])]

mutual

theorem QueryPhrase.depthAfter_tokens : ∀ (q : QueryPhrase) (depth : Nat) (after : List Token),
    depthAfter depth (q.tokens ++ after) = depthAfter depth after
  | .chain first rest, depth, after => by
    rw [QueryPhrase.tokens, List.append_assoc, first.depthAfter_tokens, rest.depthAfter_tokens]

theorem ChainPhrase.depthAfter_tokens : ∀ (k : ChainPhrase) (depth : Nat) (after : List Token),
    depthAfter depth (k.tokens ++ after) = depthAfter depth after
  | .done, _, _ => rfl
  | .join operator ms operand rest, depth, after => by
    simp only [ChainPhrase.tokens, List.cons_append, List.append_assoc]
    rw [depthAfter_word (by simp [isWord_of_isOperator operator.2]), depthAfter_modifierTokens,
      operand.depthAfter_tokens, rest.depthAfter_tokens]

theorem ClausePhrase.depthAfter_tokens : ∀ (c : ClausePhrase) (depth : Nat) (after : List Token),
    depthAfter depth (c.tokens ++ after) = depthAfter depth after
  | .group opening inner closing, depth, after => by
    have opens : opening.1.kind = .openParen := by simpa [Token.isKind] using opening.2
    have closes : closing.1.kind = .closeParen := by simpa [Token.isKind] using closing.2
    simp only [ClausePhrase.tokens, List.cons_append, List.append_assoc, List.nil_append]
    have inside : depthAfter depth (opening.1 :: (inner.tokens ++ closing.1 :: after)) =
        depthAfter (depth + 1) (inner.tokens ++ closing.1 :: after) := by
      cases depth <;> simp [depthAfter, opens]
    rw [inside, inner.depthAfter_tokens]
    simp [depthAfter, closes]
  | .declared declaration inner, depth, after => by
    rw [ClausePhrase.tokens, List.append_assoc, declaration.depthAfter_tokens,
      inner.depthAfter_tokens]
  | .indexed name relation ms inner, depth, after => by
    simp only [ClausePhrase.tokens, List.cons_append, List.append_assoc]
    rw [depthAfter_word (by simp [name.2]), depthAfter_word relation.2, depthAfter_modifierTokens,
      inner.depthAfter_tokens]
  | .term word ms, depth, after => by
    rw [ClausePhrase.tokens, List.cons_append, depthAfter_word (by simp [word.2]),
      depthAfter_modifierTokens]

end

/-! ## The rules of preference -/

/-- No derivable query takes more of the tokens than `q` does. -/
def QueryPhrase.Longest (q : QueryPhrase) (after : List Token) : Prop :=
  ∀ (other : QueryPhrase) (rest : List Token), other.Greedy rest →
    other.tokens ++ rest = q.tokens ++ after → after.length ≤ rest.length

mutual

def QueryPhrase.Preferred : QueryPhrase → List Token → Prop
  | .chain first rest, after => first.Preferred (rest.tokens ++ after) ∧ rest.Preferred after

def ChainPhrase.Preferred : ChainPhrase → List Token → Prop
  | .done, _ => True
  | .join _ _ operand rest, after =>
    operand.Preferred (rest.tokens ++ after) ∧ rest.Preferred after

/-- A word before a quoted text, a comparison or a word that is no operator is an index, any other
word a term, and the query after a declaration is as long as it can be. -/
def ClausePhrase.Preferred : ClausePhrase → List Token → Prop
  | .group _ inner closing, after => inner.Preferred (closing.1 :: after)
  | .declared _ inner, after => inner.Preferred after ∧ inner.Longest after
  | .indexed _ relation _ inner, after => relation.1.isRelation = true ∧ inner.Preferred after
  | .term _ ms, after => NextIsNot Token.isRelation (modifierTokens ms ++ after)

end

/-- A query that a parenthesis or the end follows cannot be longer: what closes a group was opened
before it. -/
theorem QueryPhrase.longest_of_endsQuery (q : QueryPhrase) {after : List Token}
    (ends : EndsQuery after) : q.Longest after := by
  intro other rest _ same
  obtain ⟨extra, tokens, left⟩ | ⟨extra, tokens, left⟩ := List.append_eq_append_iff.mp same
  · simp [left]
  · cases extra with
    | nil => simp [left]
    | cons t ts =>
      have closes : t.kind = .closeParen := by
        simpa [EndsQuery, left, Token.isKind] using ends
      have balanced := other.depthAfter_tokens 0 []
      have unbalanced := q.depthAfter_tokens 0 (t :: ts)
      rw [← tokens] at unbalanced
      rw [List.append_nil, unbalanced] at balanced
      simp [depthAfter, closes] at balanced

/-- A chain with further operators at its end. -/
def ChainPhrase.append : ChainPhrase → ChainPhrase → ChainPhrase
  | .done, k => k
  | .join operator ms operand rest, k => .join operator ms operand (rest.append k)

theorem ChainPhrase.append_tokens : ∀ r k : ChainPhrase, (r.append k).tokens = r.tokens ++ k.tokens
  | .done, k => rfl
  | .join operator ms operand rest, k => by
    simp [ChainPhrase.append, ChainPhrase.tokens, ChainPhrase.append_tokens rest k]

theorem ChainPhrase.append_greedy : ∀ (r k : ChainPhrase) {after : List Token},
    r.Greedy (k.tokens ++ after) → k.Greedy after → (r.append k).Greedy after
  | .done, k, _, _, greedy => greedy
  | .join operator ms operand rest, k, after, greedy, greedyk => by
    simp only [ChainPhrase.append, ChainPhrase.Greedy, ChainPhrase.append_tokens,
      List.append_assoc]
    exact ⟨greedy.1, greedy.2.1, rest.append_greedy k greedy.2.2 greedyk⟩

/-- The longest query is not followed by a chain that could go on. -/
theorem QueryPhrase.Longest.chain_done {q : QueryPhrase} {k : ChainPhrase} {after : List Token}
    (longest : q.Longest (k.tokens ++ after)) (greedy : q.Greedy (k.tokens ++ after))
    (greedyk : k.Greedy after) : k = .done := by
  cases k with
  | done => rfl
  | join operator ms operand rest =>
    obtain ⟨first, chain⟩ := q
    have greedy' : (QueryPhrase.chain first (chain.append (.join operator ms operand rest))).Greedy
        after := by
      refine ⟨?_, chain.append_greedy _ greedy.2 greedyk⟩
      rw [ChainPhrase.append_tokens, List.append_assoc]
      exact greedy.1
    have more := longest _ after greedy' (by
      simp [QueryPhrase.tokens, ChainPhrase.append_tokens])
    simp only [ChainPhrase.tokens, List.length_append, List.length_cons] at more
    omega

mutual

theorem QueryPhrase.settled_of_preferred : ∀ (q : QueryPhrase) {after : List Token},
    q.Greedy after → q.Preferred after → EndsQuery after → q.Settled after
  | .chain first rest, _, greedy, preferred, ends =>
    ⟨first.settled_of_preferred rest greedy.1 greedy.2 preferred.1 ends,
      rest.settled_of_preferred greedy.2 preferred.2 ends⟩

theorem ChainPhrase.settled_of_preferred : ∀ (k : ChainPhrase) {after : List Token},
    k.Greedy after → k.Preferred after → EndsQuery after → k.Settled after
  | .done, _, _, _, _ => trivial
  | .join _ _ operand rest, _, greedy, preferred, ends =>
    ⟨operand.settled_of_preferred rest greedy.2.1 greedy.2.2 preferred.1 ends,
      rest.settled_of_preferred greedy.2.2 preferred.2 ends⟩

/-- In a chain, the query after a declaration has to take all operators that come after it. -/
theorem ClausePhrase.settled_of_preferred : ∀ (c : ClausePhrase) (k : ChainPhrase)
    {after : List Token}, c.Greedy (k.tokens ++ after) → k.Greedy after →
    c.Preferred (k.tokens ++ after) → EndsQuery after → c.Settled (k.tokens ++ after)
  | .group _ inner closing, _, _, greedy, _, preferred, _ =>
    inner.settled_of_preferred greedy preferred (by simp [EndsQuery, closing.2])
  | .declared _ inner, k, after, greedy, greedyk, preferred, ends => by
    obtain rfl := preferred.2.chain_done greedy greedyk
    exact ⟨inner.settled_of_preferred greedy preferred.1 ends, ends.not_operator⟩
  | .indexed _ _ _ inner, k, _, greedy, greedyk, preferred, ends =>
    ⟨preferred.1, inner.settled_of_preferred k greedy.2 greedyk preferred.2 ends⟩
  | .term _ _, _, _, _, _, preferred, _ => preferred

end

mutual

theorem QueryPhrase.preferred_of_settled : ∀ (q : QueryPhrase) {after : List Token},
    q.Settled after → EndsQuery after → q.Preferred after
  | .chain first rest, _, settled, ends =>
    ⟨first.preferred_of_settled settled.1 (rest.endsClause ends.endsClause),
      rest.preferred_of_settled settled.2 ends⟩

theorem ChainPhrase.preferred_of_settled : ∀ (k : ChainPhrase) {after : List Token},
    k.Settled after → EndsQuery after → k.Preferred after
  | .done, _, _, _ => trivial
  | .join _ _ operand rest, _, settled, ends =>
    ⟨operand.preferred_of_settled settled.1 (rest.endsClause ends.endsClause),
      rest.preferred_of_settled settled.2 ends⟩

theorem ClausePhrase.preferred_of_settled : ∀ (c : ClausePhrase) {after : List Token},
    c.Settled after → EndsClause after → c.Preferred after
  | .group _ inner closing, _, settled, _ =>
    inner.preferred_of_settled settled (by simp [EndsQuery, closing.2])
  | .declared _ inner, _, settled, ends =>
    have endsQuery := ends.endsQuery settled.2
    ⟨inner.preferred_of_settled settled.1 endsQuery, inner.longest_of_endsQuery endsQuery⟩
  | .indexed _ _ _ inner, _, settled, ends =>
    ⟨settled.1, inner.preferred_of_settled settled.2 ends⟩
  | .term _ _, _, settled, _ => settled

end

/-- The rules of preference and the lookahead rules choose the same derivations. -/
theorem QueryPhrase.preferred_iff_settled {q : QueryPhrase} (greedy : q.Greedy []) :
    q.Preferred [] ↔ q.Settled [] :=
  ⟨fun preferred => q.settled_of_preferred greedy preferred rfl,
    fun settled => q.preferred_of_settled settled rfl⟩

/-- The shape of a tree: its operators and terms. -/
inductive Shape where
  | term (text : String)
  | join (op : BooleanOp) (left right : Shape)
deriving DecidableEq

def Node.shape : Node → Shape
  | .clause c => .term c.term
  | .boolean k left right => .join k.op left.shape right.shape

mutual

def QueryPhrase.shape : QueryPhrase → Shape
  | .chain first rest => rest.shapeFrom first.shape

/-- The shape that a chain gives to what stands before it: operators join to the left. -/
def ChainPhrase.shapeFrom : ChainPhrase → Shape → Shape
  | .done, left => left
  | .join operator _ operand rest, left =>
    rest.shapeFrom (.join operator.op left operand.shape)

def ClausePhrase.shape : ClausePhrase → Shape
  | .group _ inner _ => inner.shape
  | .declared _ inner => inner.shape
  | .indexed _ _ _ inner => inner.shape
  | .term word _ => .term word.1.text

end

mutual

theorem QueryPhrase.shape_value (src : Source) : ∀ (q : QueryPhrase) (scope : IndexScope)
    (table : PrefixTable), (q.value src scope table).1.shape = q.shape
  | .chain first rest, scope, table => by
    rw [QueryPhrase.value, QueryPhrase.shape, ← first.shape_value src scope table]
    exact rest.shape_value src scope _ _

theorem ChainPhrase.shape_value (src : Source) : ∀ (k : ChainPhrase) (scope : IndexScope)
    (table : PrefixTable) (left : Node),
    (k.value src scope table left).1.shape = k.shapeFrom left.shape
  | .done, _, _, _ => rfl
  | .join operator ms operand rest, scope, table, left => by
    rw [ChainPhrase.value, ChainPhrase.shapeFrom, ← operand.shape_value src scope table]
    exact rest.shape_value src scope _ _

theorem ClausePhrase.shape_value (src : Source) : ∀ (c : ClausePhrase) (scope : IndexScope)
    (table : PrefixTable), (c.value src scope table).1.shape = c.shape
  | .group _ inner _, _, table => inner.shape_value src _ table
  | .declared _ inner, scope, _ => inner.shape_value src scope _
  | .indexed _ _ _ inner, _, table => inner.shape_value src _ table
  | .term _ _, _, _ => rfl

end

/-- A derivation of a list of tokens, in which a comparison after the name of a modifier belongs to
the modifier. -/
def QueryPhrase.Derives (q : QueryPhrase) (ts : List Token) : Prop := q.tokens = ts ∧ q.Greedy []

theorem exists_settled_of_parse {query : String} {choice : ServerChoice} {n : Node}
    (h : Node.parse query choice = .ok n) :
    ∃ q : QueryPhrase, q.Derives (tokenize query) ∧ q.Settled [] ∧ n.shape = q.shape := by
  obtain ⟨q, table, tokens, greedy, settled, -, value⟩ := exists_phrase_of_parse h
  refine ⟨q, ⟨tokens, greedy⟩, settled, ?_⟩
  rw [← q.shape_value ⟨query, choice⟩ (.ofChoice choice) .empty, value]

theorem parse_of_settled {query : String} {q : QueryPhrase} (derives : q.Derives (tokenize query))
    (settled : q.Settled []) (choice : ServerChoice) : ∃ n, Node.parse query choice = .ok n :=
  ⟨_, q.parse_of_tokens derives.2 settled derives.1 choice⟩

/-- A query is read exactly if its tokens are derivable. Just one of the derivations keeps the rules
of preference, and the tree that is read has its shape. -/
theorem parse_iff_derivable (query : String) (choice : ServerChoice) :
    ((∃ n, Node.parse query choice = .ok n) ↔ ∃ q : QueryPhrase, q.Derives (tokenize query)) ∧
    ∀ n, Node.parse query choice = .ok n →
      ∃ q : QueryPhrase, (q.Derives (tokenize query) ∧ q.Preferred []) ∧
        (∀ q' : QueryPhrase, q'.Derives (tokenize query) ∧ q'.Preferred [] → q' = q) ∧
        n.shape = q.shape := by
  refine ⟨⟨?_, ?_⟩, ?_⟩
  · rintro ⟨n, h⟩
    obtain ⟨q, derives, -, -⟩ := exists_settled_of_parse h
    exact ⟨q, derives⟩
  · rintro ⟨q, tokens, greedy⟩
    obtain ⟨q', tokens', greedy', settled'⟩ := q.rearrange .done greedy trivial trivial rfl
    rw [ChainPhrase.tokens, List.append_nil, tokens] at tokens'
    exact parse_of_settled ⟨tokens', greedy'⟩ settled' choice
  · intro n h
    obtain ⟨q, derives, settled, shape⟩ := exists_settled_of_parse h
    refine ⟨q, ⟨derives, (QueryPhrase.preferred_iff_settled derives.2).mpr settled⟩, ?_, shape⟩
    rintro q' ⟨derives', preferred'⟩
    have settled' := (QueryPhrase.preferred_iff_settled derives'.2).mp preferred'
    exact (q'.eq_of_tokens q (by rw [derives'.1, derives.1]) derives'.2 settled' derives.2 settled
      rfl rfl).1

/-- Keywords as words: the first `and` is a URI, the second an operator, and of the three `or` only
the one in the middle is an operator. -/
theorem parse_iff_derivable_keywords :
    (Node.parse "> and any and or or or" {}).toOption.map Node.shape =
        some (.join .or (.join .and (.term "any") (.term "or")) (.term "or")) ∧
      ∃ q : QueryPhrase, (q.Derives (tokenize "> and any and or or or") ∧ q.Preferred []) ∧
        (∀ q' : QueryPhrase,
          q'.Derives (tokenize "> and any and or or or") ∧ q'.Preferred [] → q' = q) ∧
        q.shape = .join .or (.join .and (.term "any") (.term "or")) (.term "or") := by
  have shape : (Node.parse "> and any and or or or" {}).toOption.map Node.shape =
      some (.join .or (.join .and (.term "any") (.term "or")) (.term "or")) := by decide +kernel
  refine ⟨shape, ?_⟩
  cases parsed : Node.parse "> and any and or or or" {} with
  | error e => simp [parsed, Except.toOption] at shape
  | ok n =>
    obtain ⟨q, preferred, unique, same⟩ := (parse_iff_derivable _ _).2 n parsed
    refine ⟨q, preferred, unique, ?_⟩
    rw [← same]
    simpa [parsed, Except.toOption] using shape

end ContextualQuery
