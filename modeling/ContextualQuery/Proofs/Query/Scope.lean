import ContextualQuery.Proofs.Query.Grammar
import ContextualQuery.Proofs.Query.SourceOrder
import Mathlib.Data.List.DropRight

/-!
# How far a declaration in a group reaches

A query is read with the declarations inside one of its groups and without them, and the clauses
outside that group are compared.

* `QueryContext`: a query around a group that is left open;
* `QueryContext.outside`: the declarations and terms before the group and after it;
* `QueryContext.exists_leftOf`: without the declarations inside, the query can still be read;
* `parse_undeclaredGroup`: the clauses before the group are the same, those after it can differ in
  the index only, and they do exactly where a declaration of the group is the last one of a prefix;
* `parse_undeclaredGroup_leak`: so a declaration is not confined to its group.
-/
namespace ContextualQuery

mutual

/-- A query phrase with an open place for the query inside one of its groups. -/
inductive QueryContext where
  | first (place : ClauseContext) (rest : ChainPhrase)
  | later (first : ClausePhrase) (place : ChainContext)

inductive ChainContext where
  | operand (operator : Operator) (modifiers : List ModifierPhrase) (place : ClauseContext)
      (rest : ChainPhrase)
  | later (operator : Operator) (modifiers : List ModifierPhrase) (operand : ClausePhrase)
      (place : ChainContext)

inductive ClauseContext where
  | here (opening : OfKind .openParen) (closing : OfKind .closeParen)
  | group (opening : OfKind .openParen) (place : QueryContext) (closing : OfKind .closeParen)
  | declared (declaration : DeclarationPhrase) (place : QueryContext)
  | indexed (name : Word) (relation : RelationToken) (modifiers : List ModifierPhrase)
      (place : ClauseContext)

end

mutual

def QueryContext.fill (q : QueryPhrase) : QueryContext → QueryPhrase
  | .first place rest => .chain (place.fill q) rest
  | .later first place => .chain first (place.fill q)

def ChainContext.fill (q : QueryPhrase) : ChainContext → ChainPhrase
  | .operand operator ms place rest => .join operator ms (place.fill q) rest
  | .later operator ms operand place => .join operator ms operand (place.fill q)

def ClauseContext.fill (q : QueryPhrase) : ClauseContext → ClausePhrase
  | .here opening closing => .group opening q closing
  | .group opening place closing => .group opening (place.fill q) closing
  | .declared declaration place => .declared declaration (place.fill q)
  | .indexed name relation ms place => .indexed name relation ms (place.fill q)

end

mutual

/-- The tokens of the query with the tokens `inside` between the parentheses of the group. -/
def QueryContext.tokens (inside : List Token) : QueryContext → List Token
  | .first place rest => place.tokens inside ++ rest.tokens
  | .later first place => first.tokens ++ place.tokens inside

def ChainContext.tokens (inside : List Token) : ChainContext → List Token
  | .operand operator ms place rest =>
    operator.1 :: modifierTokens ms ++ place.tokens inside ++ rest.tokens
  | .later operator ms operand place =>
    operator.1 :: modifierTokens ms ++ operand.tokens ++ place.tokens inside

def ClauseContext.tokens (inside : List Token) : ClauseContext → List Token
  | .here opening closing => opening.1 :: inside ++ [closing.1]
  | .group opening place closing => opening.1 :: place.tokens inside ++ [closing.1]
  | .declared declaration place => declaration.tokens ++ place.tokens inside
  | .indexed name relation ms place =>
    name.1 :: relation.1 :: modifierTokens ms ++ place.tokens inside

end

mutual

theorem QueryContext.tokens_fill (q : QueryPhrase) : ∀ ctx : QueryContext,
    (ctx.fill q).tokens = ctx.tokens q.tokens
  | .first place rest => by
    rw [QueryContext.fill, QueryPhrase.tokens, place.tokens_fill, QueryContext.tokens]
  | .later first place => by
    rw [QueryContext.fill, QueryPhrase.tokens, place.tokens_fill, QueryContext.tokens]

theorem ChainContext.tokens_fill (q : QueryPhrase) : ∀ ctx : ChainContext,
    (ctx.fill q).tokens = ctx.tokens q.tokens
  | .operand operator ms place rest => by
    rw [ChainContext.fill, ChainPhrase.tokens, place.tokens_fill, ChainContext.tokens]
  | .later operator ms operand place => by
    rw [ChainContext.fill, ChainPhrase.tokens, place.tokens_fill, ChainContext.tokens]

theorem ClauseContext.tokens_fill (q : QueryPhrase) : ∀ ctx : ClauseContext,
    (ctx.fill q).tokens = ctx.tokens q.tokens
  | .here opening closing => rfl
  | .group opening place closing => by
    rw [ClauseContext.fill, ClausePhrase.tokens, place.tokens_fill, ClauseContext.tokens]
  | .declared declaration place => by
    rw [ClauseContext.fill, ClausePhrase.tokens, place.tokens_fill, ClauseContext.tokens]
  | .indexed name relation ms place => by
    rw [ClauseContext.fill, ClausePhrase.tokens, place.tokens_fill, ClauseContext.tokens]

end

/-- The scope of a group, and the declarations and terms before it and after it. -/
structure Outside where
  before : List Step
  scope : IndexScope
  after : List Step

mutual

/-- What is outside of the group in a query that is read in a scope. -/
def QueryContext.outside : QueryContext → IndexScope → Outside
  | .first place rest, scope =>
    let s := place.outside scope
    { s with after := s.after ++ rest.steps scope }
  | .later first place, scope =>
    let s := place.outside scope
    { s with before := first.steps scope ++ s.before }

def ChainContext.outside : ChainContext → IndexScope → Outside
  | .operand _ _ place rest, scope =>
    let s := place.outside scope
    { s with after := s.after ++ rest.steps scope }
  | .later _ _ operand place, scope =>
    let s := place.outside scope
    { s with before := operand.steps scope ++ s.before }

def ClauseContext.outside : ClauseContext → IndexScope → Outside
  | .here _ _, scope => ⟨[], { scope with start := none }, []⟩
  | .group _ place _, scope => place.outside { scope with start := none }
  | .declared declaration place, scope =>
    let s := place.outside scope
    { s with before := declaration.step :: s.before }
  | .indexed name relation ms place, _ =>
    place.outside (Source.indexScope name.1 relation.1 (ms.map ModifierPhrase.modifier))

end

/-- The steps of the whole query with those of the group. -/
def Outside.steps (s : Outside) (inside : List Step) : List Step :=
  s.before ++ (inside ++ s.after)

mutual

theorem QueryContext.steps_fill (q : QueryPhrase) : ∀ (ctx : QueryContext) (scope : IndexScope),
    (ctx.fill q).steps scope = (ctx.outside scope).steps (q.steps (ctx.outside scope).scope)
  | .first place rest, scope => by
    rw [QueryContext.fill, QueryPhrase.steps, place.steps_fill]
    simp [QueryContext.outside, Outside.steps]
  | .later first place, scope => by
    rw [QueryContext.fill, QueryPhrase.steps, place.steps_fill]
    simp [QueryContext.outside, Outside.steps]

theorem ChainContext.steps_fill (q : QueryPhrase) : ∀ (ctx : ChainContext) (scope : IndexScope),
    (ctx.fill q).steps scope = (ctx.outside scope).steps (q.steps (ctx.outside scope).scope)
  | .operand operator ms place rest, scope => by
    rw [ChainContext.fill, ChainPhrase.steps, place.steps_fill]
    simp [ChainContext.outside, Outside.steps]
  | .later operator ms operand place, scope => by
    rw [ChainContext.fill, ChainPhrase.steps, place.steps_fill]
    simp [ChainContext.outside, Outside.steps]

theorem ClauseContext.steps_fill (q : QueryPhrase) : ∀ (ctx : ClauseContext) (scope : IndexScope),
    (ctx.fill q).steps scope = (ctx.outside scope).steps (q.steps (ctx.outside scope).scope)
  | .here opening closing, scope => by
    simp [ClauseContext.fill, ClausePhrase.steps, ClauseContext.outside, Outside.steps]
  | .group opening place closing, scope => by
    rw [ClauseContext.fill, ClausePhrase.steps, place.steps_fill, ClauseContext.outside]
  | .declared declaration place, scope => by
    rw [ClauseContext.fill, ClausePhrase.steps, place.steps_fill]
    simp [ClauseContext.outside, Outside.steps]
  | .indexed name relation ms place, scope => by
    rw [ClauseContext.fill, ClausePhrase.steps, place.steps_fill, ClauseContext.outside]

end

mutual

/-- The tokens of a query without those of its declarations. -/
def QueryPhrase.bareTokens : QueryPhrase → List Token
  | .chain first rest => first.bareTokens ++ rest.bareTokens

def ChainPhrase.bareTokens : ChainPhrase → List Token
  | .done => []
  | .join operator ms operand rest =>
    operator.1 :: modifierTokens ms ++ operand.bareTokens ++ rest.bareTokens

def ClausePhrase.bareTokens : ClausePhrase → List Token
  | .group opening inner closing => opening.1 :: inner.bareTokens ++ [closing.1]
  | .declared _ inner => inner.bareTokens
  | .indexed name relation ms inner =>
    name.1 :: relation.1 :: modifierTokens ms ++ inner.bareTokens
  | .term word ms => word.1 :: modifierTokens ms

end

/-- A query that keeps the lookahead rules and declares nothing. -/
structure QueryPhrase.Undeclared (q : QueryPhrase) (after : List Token) : Prop where
  greedy : q.Greedy after
  settled : q.Settled after
  terms : ∀ scope, ∀ step ∈ q.steps scope, step.isTerm = true

/-- A chain that keeps the lookahead rules and declares nothing. -/
structure ChainPhrase.Undeclared (k : ChainPhrase) (after : List Token) : Prop where
  greedy : k.Greedy after
  settled : k.Settled after
  terms : ∀ scope, ∀ step ∈ k.steps scope, step.isTerm = true

theorem ChainPhrase.undeclared_done (after : List Token) :
    ChainPhrase.Undeclared .done after where
  greedy := trivial
  settled := trivial
  terms := by simp [ChainPhrase.steps]

/-- Only a declaration starts with a comparison. -/
theorem QueryPhrase.Undeclared.not_comparison {first : ClausePhrase} {rest : ChainPhrase}
    {after : List Token} (h : (QueryPhrase.chain first rest).Undeclared after)
    (next : List Token) : NextIsNot (Token.isKind .comparison) (first.tokens ++ next) := by
  cases first with
  | group opening inner closing => simp [ClausePhrase.tokens, Token.isKind, opening.kind_eq]
  | declared declaration inner =>
    obtain ⟨mark, first, uri⟩ := declaration
    have declares := h.terms (.ofChoice {}) _ List.mem_cons_self
    cases uri <;> cases declares
  | indexed name relation ms inner =>
    simpa [ClausePhrase.tokens] using not_comparison_of_isWord name.2
  | term word ms => simpa [ClausePhrase.tokens] using not_comparison_of_isWord word.2

theorem greedyModifiers_before {ms : List ModifierPhrase} {next after : List Token}
    (greedy : GreedyModifiers ms next) (stops : NextIsNot (Token.isKind .comparison) after) :
    GreedyModifiers ms after :=
  greedyModifiers_of_next (fun _ => stops) greedy

mutual

/-- The tokens that are left of a query, with a chain after them, are those of a query. It is nested
in another way where operators came after a declaration. -/
theorem QueryPhrase.exists_undeclared : ∀ (q : QueryPhrase) (k : ChainPhrase)
    {next after : List Token}, q.Greedy next → q.Settled next → k.Undeclared after →
    EndsQuery after → ∃ p : QueryPhrase, p.tokens = q.bareTokens ++ k.tokens ∧ p.Undeclared after
  | .chain first rest, k, _, after, greedy, settled, undeclared, ends => by
    obtain ⟨rest', tokens, undeclared'⟩ :=
      rest.exists_undeclared k greedy.2 settled.2 undeclared ends
    obtain ⟨p, tokens', result⟩ :=
      first.exists_undeclared rest' greedy.1 settled.1 undeclared' ends
    exact ⟨p, by rw [tokens', tokens, QueryPhrase.bareTokens, List.append_assoc], result⟩

theorem ChainPhrase.exists_undeclared : ∀ (r k : ChainPhrase)
    {next after : List Token}, r.Greedy next → r.Settled next → k.Undeclared after →
    EndsQuery after → ∃ p : ChainPhrase, p.tokens = r.bareTokens ++ k.tokens ∧ p.Undeclared after
  | .done, k, _, _, _, _, undeclared, _ => ⟨k, rfl, undeclared⟩
  | .join operator ms operand rest, k, _, after, greedy, settled, undeclared, ends => by
    obtain ⟨rest', tokens, undeclared'⟩ :=
      rest.exists_undeclared k greedy.2.2 settled.2 undeclared ends
    obtain ⟨⟨first, chain⟩, tokens', result⟩ :=
      operand.exists_undeclared rest' greedy.2.1 settled.1 undeclared' ends
    refine ⟨.join operator ms first chain, ?_, ?_, result.settled, result.terms⟩
    · rw [QueryPhrase.tokens, tokens] at tokens'
      simp only [ChainPhrase.tokens, ChainPhrase.bareTokens, List.cons_append, List.append_assoc,
        tokens']
    · exact ⟨greedyModifiers_before greedy.1 (result.not_comparison _), result.greedy⟩

theorem ClausePhrase.exists_undeclared : ∀ (c : ClausePhrase) (k : ChainPhrase)
    {next after : List Token}, c.Greedy next → c.Settled next → k.Undeclared after →
    EndsQuery after → ∃ p : QueryPhrase, p.tokens = c.bareTokens ++ k.tokens ∧ p.Undeclared after
  | .group opening inner closing, k, _, after, greedy, settled, undeclared, ends => by
    have endsInner : EndsQuery (closing.1 :: (k.tokens ++ after)) := by
      simp [EndsQuery, closing.2]
    obtain ⟨inner', tokens, result⟩ :=
      inner.exists_undeclared .done greedy settled (ChainPhrase.undeclared_done _) endsInner
    rw [ChainPhrase.tokens, List.append_nil] at tokens
    refine ⟨.chain (.group opening inner' closing) k, ?_, ⟨result.greedy, undeclared.greedy⟩,
      ⟨result.settled, undeclared.settled⟩, ?_⟩
    · simp only [QueryPhrase.tokens, ClausePhrase.tokens, ClausePhrase.bareTokens, tokens]
    · intro scope step hstep
      exact (List.mem_append.mp hstep).elim (result.terms _ step) (undeclared.terms _ step)
  | .declared declaration inner, k, _, after, greedy, settled, undeclared, ends =>
    inner.exists_undeclared k greedy settled.1 undeclared ends
  | .indexed name relation ms inner, k, _, after, greedy, settled, undeclared, ends => by
    obtain ⟨⟨first, chain⟩, tokens, result⟩ :=
      inner.exists_undeclared k greedy.2 settled.2 undeclared ends
    refine ⟨.chain (.indexed name relation ms first) chain, ?_, ⟨⟨?_, result.greedy.1⟩,
      result.greedy.2⟩, ⟨⟨settled.1, result.settled.1⟩, result.settled.2⟩, ?_⟩
    · rw [QueryPhrase.tokens] at tokens
      simp only [QueryPhrase.tokens, ClausePhrase.tokens, ClausePhrase.bareTokens,
        List.cons_append, List.append_assoc, tokens]
    · exact greedyModifiers_before greedy.1 (result.not_comparison _)
    · intro scope step hstep
      obtain hstep | hstep := List.mem_append.mp hstep
      · exact result.terms _ step (List.mem_append_left _ hstep)
      · exact result.terms scope step (List.mem_append_right _ hstep)
  | .term word ms, k, _, after, greedy, _, undeclared, ends => by
    have stops := k.endsClause ends.endsClause
    refine ⟨.chain (.term word ms) k, rfl, ⟨?_, undeclared.greedy⟩, ⟨?_, undeclared.settled⟩, ?_⟩
    · exact greedyModifiers_before greedy (stops.not_isKind nofun nofun nofun)
    · exact stops.settled_term word ms
    · intro scope step hstep
      obtain hstep | hstep := List.mem_append.mp hstep
      · obtain rfl := List.mem_singleton.mp hstep
        rfl
      · exact undeclared.terms scope step hstep

end

/-- What follows an operator and its modifiers, or an index, does not depend on the group. -/
theorem ClauseContext.next_fill {p : Token → Bool} (ctx : ClauseContext) (q q' : QueryPhrase)
    {after after' : List Token} (h : NextIsNot p ((ctx.fill q).tokens ++ after)) :
    NextIsNot p ((ctx.fill q').tokens ++ after') := by
  cases ctx <;> exact h

theorem ChainContext.next_fill {p : Token → Bool} (ctx : ChainContext) (q q' : QueryPhrase)
    {after after' : List Token} (h : NextIsNot p ((ctx.fill q).tokens ++ after)) :
    NextIsNot p ((ctx.fill q').tokens ++ after') := by
  cases ctx <;> exact h

/-- `p` is what is left of `q` without its declarations. -/
structure QueryPhrase.LeftOf (p q : QueryPhrase) : Prop where
  tokens : p.tokens = q.bareTokens
  terms : ∀ scope, ∀ step ∈ p.steps scope, step.isTerm = true

mutual

/-- Around what is left of a group, the rules are kept as around the group. -/
theorem QueryContext.exists_leftOf {q : QueryPhrase} : ∀ (ctx : QueryContext) {after : List Token},
    (ctx.fill q).Greedy after → (ctx.fill q).Settled after →
    ∃ p : QueryPhrase, p.LeftOf q ∧ (ctx.fill p).Greedy after ∧ (ctx.fill p).Settled after
  | .first place rest, _, greedy, settled => by
    obtain ⟨p, left, greedy', settled'⟩ := place.exists_leftOf greedy.1 settled.1
    exact ⟨p, left, ⟨greedy', greedy.2⟩, ⟨settled', settled.2⟩⟩
  | .later first place, _, greedy, settled => by
    obtain ⟨p, left, greedy', settled'⟩ := place.exists_leftOf greedy.2 settled.2
    refine ⟨p, left, ⟨first.greedy_of_next (place.next_fill q p) greedy.1, greedy'⟩, ?_, settled'⟩
    exact first.settled_of_next (place.next_fill q p) (place.next_fill q p) settled.1

theorem ChainContext.exists_leftOf {q : QueryPhrase} : ∀ (ctx : ChainContext) {after : List Token},
    (ctx.fill q).Greedy after → (ctx.fill q).Settled after →
    ∃ p : QueryPhrase, p.LeftOf q ∧ (ctx.fill p).Greedy after ∧ (ctx.fill p).Settled after
  | .operand _ _ place rest, _, greedy, settled => by
    obtain ⟨p, left, greedy', settled'⟩ := place.exists_leftOf greedy.2.1 settled.1
    refine ⟨p, left, ⟨?_, greedy', greedy.2.2⟩, ⟨settled', settled.2⟩⟩
    exact greedyModifiers_of_next (place.next_fill q p) greedy.1
  | .later _ _ operand place, _, greedy, settled => by
    obtain ⟨p, left, greedy', settled'⟩ := place.exists_leftOf greedy.2.2 settled.2
    refine ⟨p, left, ⟨?_, ?_, greedy'⟩, ?_, settled'⟩
    · exact greedyModifiers_of_next (nextIsNot_append (place.next_fill q p) _) greedy.1
    · exact operand.greedy_of_next (place.next_fill q p) greedy.2.1
    · exact operand.settled_of_next (place.next_fill q p) (place.next_fill q p) settled.1

theorem ClauseContext.exists_leftOf {q : QueryPhrase} : ∀ (ctx : ClauseContext)
    {after : List Token}, (ctx.fill q).Greedy after → (ctx.fill q).Settled after →
    ∃ p : QueryPhrase, p.LeftOf q ∧ (ctx.fill p).Greedy after ∧ (ctx.fill p).Settled after
  | .here _ closing, after, greedy, settled => by
    have ends : EndsQuery (closing.1 :: after) := by simp [EndsQuery, closing.2]
    obtain ⟨p, tokens, undeclared⟩ :=
      q.exists_undeclared .done greedy settled (ChainPhrase.undeclared_done _) ends
    rw [ChainPhrase.tokens, List.append_nil] at tokens
    exact ⟨p, ⟨tokens, undeclared.terms⟩, undeclared.greedy, undeclared.settled⟩
  | .group _ place _, _, greedy, settled => place.exists_leftOf greedy settled
  | .declared _ place, _, greedy, settled => by
    obtain ⟨p, left, greedy', settled'⟩ := place.exists_leftOf greedy settled.1
    exact ⟨p, left, greedy', settled', settled.2⟩
  | .indexed _ _ _ place, _, greedy, settled => by
    obtain ⟨p, left, greedy', settled'⟩ := place.exists_leftOf greedy.2 settled.2
    refine ⟨p, left, ⟨?_, greedy'⟩, settled.1, settled'⟩
    exact greedyModifiers_of_next (place.next_fill q p) greedy.1

end

namespace Outside

/-- The clauses of a tree before the group, without positions. -/
def clausesBefore (s : Outside) (n : Node) : List SearchClause :=
  n.withoutPositions.clauses.take (s.before.countP Step.isTerm)

/-- The clauses of a tree after the group, without positions. -/
def clausesAfter (s : Outside) (n : Node) : List SearchClause :=
  n.withoutPositions.clauses.rtake (s.after.countP Step.isTerm)

/-- No declaration in the group reaches an index after it. The prefix of such an index is declared
again in between, or the group does not declare it, or the group gives it the URI that it had. -/
def Shielded (s : Outside) (group : List Step) : Prop :=
  ∀ i scope word ms, s.after[i]? = some (.term scope word ms) →
    ∀ qualifier rest, PrefixTable.splitAtDot scope.field = some (qualifier, rest) →
      (declaredUri? qualifier (s.after.take i)).isSome = true ∨
        declaredUri? qualifier group = none ∨
        declaredUri? qualifier group = declaredUri? qualifier s.before

/-- The prefixes where the group starts. -/
def prefixes (s : Outside) : PrefixTable := prefixesAfter .empty s.before

variable {s : Outside} {src : Source} {n : Node} {group : List Step}

theorem clausesBefore_eq (h : n.withoutPositions.clauses =
      (src.clauses .empty (s.steps group)).map SearchClause.withoutPositions) :
    s.clausesBefore n = (src.clauses .empty s.before).map SearchClause.withoutPositions := by
  rw [clausesBefore, h, steps, Source.clauses_append, List.map_append]
  exact List.take_left' (by rw [List.length_map, Source.length_clauses])

theorem clausesAfter_eq (h : n.withoutPositions.clauses =
      (src.clauses .empty (s.steps group)).map SearchClause.withoutPositions) :
    s.clausesAfter n =
      (src.clauses (prefixesAfter s.prefixes group) s.after).map
        SearchClause.withoutPositions := by
  rw [clausesAfter, h, steps, Source.clauses_append, Source.clauses_append, ← List.append_assoc,
    List.map_append, List.rtake]
  refine List.drop_left' ?_
  simp only [List.length_map, List.length_append, Source.length_clauses]
  omega

/-- The declarations of the group give other clauses after it exactly if they reach one. -/
theorem shielded_iff (s : Outside) (src : Source) (group : List Step) :
    s.Shielded group ↔
      (src.clauses s.prefixes s.after).map SearchClause.withoutPositions =
        (src.clauses (prefixesAfter s.prefixes group) s.after).map
          SearchClause.withoutPositions := by
  rw [Source.clauses_alike_iff, Shielded]
  refine forall₄_congr fun i scope word ms => forall₄_congr fun _ qualifier rest _ => ?_
  simp only [prefixes, lookup_prefixesAfter]
  -- The last of the declarations counts, and without a declaration there is no URI.
  have unbound : PrefixTable.empty.lookup qualifier = none := rfl
  rw [unbound, Option.or_none]
  cases declaredUri? qualifier (s.after.take i) with
  | some uri => simp
  | none =>
    cases declaredUri? qualifier group with
    | none => simp
    | some uri => simp [eq_comm]

end Outside

/-- The clauses of a query are given by the steps of the group between those around it. -/
theorem QueryContext.clauses_fill (ctx : QueryContext) (q : QueryPhrase) (src : Source)
    (scope : IndexScope) :
    ((ctx.fill q).value src scope .empty).1.withoutPositions.clauses =
      (src.clauses .empty ((ctx.outside scope).steps (q.steps (ctx.outside scope).scope))).map
        SearchClause.withoutPositions := by
  rw [Node.clauses_withoutPositions, QueryPhrase.clauses_value, ctx.steps_fill]

/-- A query, by the derivation that it is read by, has a group, and in another text the declarations
inside that group are left out. That text can be read as well, and gives the same clauses before the
group, positions apart. The clauses after the group are the same but for their indexes, and they are
the same altogether exactly if none of their indexes has a prefix that was last declared, with
another URI, inside the group. -/
theorem parse_undeclaredGroup {query query' : String} {ctx : QueryContext} {q : QueryPhrase}
    (derives : (ctx.fill q).Derives (tokenize query)) (preferred : (ctx.fill q).Preferred [])
    (removed : AlikeTokens (tokenize query') (ctx.tokens q.bareTokens)) (choice : ServerChoice) :
    ∃ n n', Node.parse query choice = .ok n ∧ Node.parse query' choice = .ok n' ∧
      let s := ctx.outside (.ofChoice choice)
      s.clausesBefore n' = s.clausesBefore n ∧
      (s.clausesAfter n').map SearchClause.withoutField =
        (s.clausesAfter n).map SearchClause.withoutField ∧
      (s.clausesAfter n' = s.clausesAfter n ↔ s.Shielded (q.steps s.scope)) := by
  have settled := (QueryPhrase.preferred_iff_settled derives.2).mp preferred
  obtain ⟨p, left, greedy', settled'⟩ := ctx.exists_leftOf derives.2 settled
  rw [← left.tokens, ← ctx.tokens_fill] at removed
  obtain ⟨n', parsed, same⟩ := (ctx.fill p).parse_of_alike greedy' settled' removed choice
  -- What was read from the other text is compared as if it had been read from this one.
  have alike := same.trans
    ((ctx.fill p).value_alike greedy' settled' query' query choice (.ofChoice choice) .empty).1
  refine ⟨_, n', (ctx.fill q).parse_of_tokens derives.2 settled derives.1 choice, parsed, ?_⟩
  intro s
  have clauses := ctx.clauses_fill q ⟨query, choice⟩ (.ofChoice choice)
  have clauses' := ctx.clauses_fill p ⟨query, choice⟩ (.ofChoice choice)
  rw [← alike] at clauses'
  have after' := s.clausesAfter_eq clauses'
  rw [prefixesAfter_of_isTerm _ (left.terms _)] at after'
  refine ⟨?_, ?_, ?_⟩
  · rw [s.clausesBefore_eq clauses, s.clausesBefore_eq clauses']
  · rw [after', s.clausesAfter_eq clauses]
    exact Source.clauses_withoutField _ _ _ _
  · rw [after', s.clausesAfter_eq clauses, s.shielded_iff ⟨query, choice⟩]

/-- The prefix is declared again after the group, before the index that has it. -/
theorem parse_undeclaredGroup_redeclared :
    ∃ (ctx : QueryContext) (q : QueryPhrase),
      (ctx.fill q).Derives (tokenize "(> dc = u a) and > dc = w dc.x = b") ∧
      (ctx.fill q).Preferred [] ∧
      AlikeTokens (tokenize "(a) and > dc = w dc.x = b") (ctx.tokens q.bareTokens) ∧
      ∃ n n', Node.parse "(> dc = u a) and > dc = w dc.x = b" {} = .ok n ∧
        Node.parse "(a) and > dc = w dc.x = b" {} = .ok n' ∧
        (ctx.outside (.ofChoice {})).clausesAfter n' =
          (ctx.outside (.ofChoice {})).clausesAfter n := by
  let q : QueryPhrase := .chain
    (.declared ⟨⟨⟨.comparison, ">", 1, 2⟩, rfl⟩, ⟨⟨.bareword, "dc", 3, 5⟩, rfl⟩,
        some (⟨⟨.comparison, "=", 6, 7⟩, rfl⟩, ⟨⟨.bareword, "u", 8, 9⟩, rfl⟩)⟩
      (.chain (.term ⟨⟨.bareword, "a", 10, 11⟩, rfl⟩ []) .done)) .done
  let ctx : QueryContext := .first
    (.here ⟨⟨.openParen, "(", 0, 1⟩, rfl⟩ ⟨⟨.closeParen, ")", 11, 12⟩, rfl⟩)
    (.join ⟨⟨.bareword, "and", 13, 16⟩, by decide +kernel⟩ []
      (.declared ⟨⟨⟨.comparison, ">", 17, 18⟩, rfl⟩, ⟨⟨.bareword, "dc", 19, 21⟩, rfl⟩,
          some (⟨⟨.comparison, "=", 22, 23⟩, rfl⟩, ⟨⟨.bareword, "w", 24, 25⟩, rfl⟩)⟩
        (.chain (.indexed ⟨⟨.bareword, "dc.x", 26, 30⟩, rfl⟩ ⟨⟨.comparison, "=", 31, 32⟩, rfl⟩ []
          (.term ⟨⟨.bareword, "b", 33, 34⟩, rfl⟩ [])) .done))
      .done)
  have derives : (ctx.fill q).Derives (tokenize "(> dc = u a) and > dc = w dc.x = b") :=
    ⟨by decide +kernel, ⟨⟨trivial, trivial⟩, trivial⟩, trivial, ⟨⟨trivial, trivial⟩, trivial⟩,
      trivial⟩
  have settled : (ctx.fill q).Settled [] :=
    ⟨⟨⟨⟨rfl, trivial⟩, rfl⟩, trivial⟩, ⟨⟨⟨rfl, rfl⟩, trivial⟩, rfl⟩, trivial⟩
  have preferred := (QueryPhrase.preferred_iff_settled derives.2).mpr settled
  have removed : AlikeTokens (tokenize "(a) and > dc = w dc.x = b") (ctx.tokens q.bareTokens) := by
    rw [AlikeTokens]
    decide +kernel
  obtain ⟨n, n', parsed, parsed', -, -, same⟩ := parse_undeclaredGroup derives preferred removed {}
  refine ⟨ctx, q, derives, preferred, removed, n, n', parsed, parsed', same.mpr ?_⟩
  intro i scope word ms found qualifier rest cut
  match i with
  | 0 => cases found
  | 1 =>
    cases found
    have dc : PrefixTable.splitAtDot "dc.x" = some ("dc", "x") := by decide
    cases dc.symm.trans cut
    exact .inl rfl
  | i + 2 => cases found

/-- The clause after the group takes the URI from inside it, and keeps its prefix where the
declaration is left out. -/
theorem parse_undeclaredGroup_leak :
    (Node.parse "(> dc = \"u\" a) and dc.title = x" {}).toOption.map
        (fun n => n.withoutPositions.clauses) =
      some [.ofTerm "a" {},
        { field := "title", fieldUri := "u", relation := "=", term := "x", choice := {} }] ∧
    (Node.parse "(a) and dc.title = x" {}).toOption.map (fun n => n.withoutPositions.clauses) =
      some [.ofTerm "a" {},
        { field := "dc.title", relation := "=", term := "x", choice := {} }] := by
  decide +kernel

end ContextualQuery
