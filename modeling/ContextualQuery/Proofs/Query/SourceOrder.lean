import ContextualQuery.Proofs.Query.Phrase
import ContextualQuery.Proofs.Query.Tree
import Mathlib.Data.List.TakeDrop

/-!
# Declarations and terms in source order

One table of prefixes goes through the whole query. So the clauses of a query are told by the
declarations and terms in it, one after another, however they are nested.

* `QueryPhrase.steps`: the declarations and terms of a phrase in their order;
* `QueryPhrase.clauses_value`: the clauses of a tree are those that the steps of its phrase give;
* `lookup_prefixesAfter`: the last declaration of a name is the one that counts;
* `Source.clauses_alike_iff`: when two tables give the same clauses.
-/
namespace ContextualQuery

/-- What a query declares or searches for at one place. -/
inductive Step where
  | declare (name uri : String)
  | term (scope : IndexScope) (word : Token) (modifiers : List Modifier)

def Step.isTerm : Step → Bool
  | .declare _ _ => false
  | .term _ _ _ => true

def DeclarationPhrase.step (d : DeclarationPhrase) : Step :=
  match d.uri with
  | none => .declare PrefixTable.defaultName d.first.1.text
  | some (_, uri) => .declare d.first.1.text uri.1.text

mutual

/-- The declarations and terms of a query in a scope, in their order. -/
def QueryPhrase.steps : QueryPhrase → IndexScope → List Step
  | .chain first rest, scope => first.steps scope ++ rest.steps scope

def ChainPhrase.steps : ChainPhrase → IndexScope → List Step
  | .done, _ => []
  | .join _ _ operand rest, scope => operand.steps scope ++ rest.steps scope

def ClausePhrase.steps : ClausePhrase → IndexScope → List Step
  | .group _ inner _, scope => inner.steps { scope with start := none }
  | .declared declaration inner, scope => declaration.step :: inner.steps scope
  | .indexed name relation ms inner, _ =>
    inner.steps (Source.indexScope name.1 relation.1 (ms.map ModifierPhrase.modifier))
  | .term word ms, scope => [.term scope word.1 (ms.map ModifierPhrase.modifier)]

end

def Step.bind (table : PrefixTable) : Step → PrefixTable
  | .declare name uri => table.insert name uri
  | .term _ _ _ => table

def prefixesAfter (table : PrefixTable) (steps : List Step) : PrefixTable :=
  steps.foldl Step.bind table

/-- The clauses that steps give, each with the prefixes declared before it. -/
def Source.clauses (src : Source) : PrefixTable → List Step → List SearchClause
  | _, [] => []
  | table, .declare name uri :: steps => src.clauses (table.insert name uri) steps
  | table, .term scope word ms :: steps =>
    src.termClause scope table word ms :: src.clauses table steps

theorem prefixesAfter_cons (table : PrefixTable) (step : Step) (steps : List Step) :
    prefixesAfter table (step :: steps) = prefixesAfter (step.bind table) steps := rfl

theorem prefixesAfter_append (table : PrefixTable) (front back : List Step) :
    prefixesAfter table (front ++ back) = prefixesAfter (prefixesAfter table front) back :=
  List.foldl_append

/-- Terms declare nothing. -/
theorem prefixesAfter_of_isTerm (table : PrefixTable) {steps : List Step}
    (terms : ∀ step ∈ steps, step.isTerm = true) : prefixesAfter table steps = table := by
  induction steps with
  | nil => rfl
  | cons step steps ih =>
    have rest := ih fun s hs => terms s (List.mem_cons_of_mem _ hs)
    cases step with
    | declare name uri => cases terms _ List.mem_cons_self
    | term scope word ms => exact rest

theorem Source.clauses_append (src : Source) (table : PrefixTable) (front back : List Step) :
    src.clauses table (front ++ back) =
      src.clauses table front ++ src.clauses (prefixesAfter table front) back := by
  induction front generalizing table with
  | nil => rfl
  | cons step front ih =>
    cases step with
    | declare name uri => exact ih _
    | term scope word ms => exact congrArg _ (ih table)

/-- There is one clause for each term. -/
theorem Source.length_clauses (src : Source) (table : PrefixTable) (steps : List Step) :
    (src.clauses table steps).length = steps.countP Step.isTerm := by
  induction steps generalizing table with
  | nil => rfl
  | cons step steps ih =>
    cases step with
    | declare name uri => simpa [Source.clauses, List.countP_cons, Step.isTerm] using ih _
    | term scope word ms => simpa [Source.clauses, List.countP_cons, Step.isTerm] using ih table

theorem DeclarationPhrase.bind_step (d : DeclarationPhrase) (table : PrefixTable) :
    d.step.bind table = d.bind table := by
  obtain ⟨mark, first, uri⟩ := d
  cases uri <;> rfl

theorem Source.clauses_declaration (src : Source) (d : DeclarationPhrase) (table : PrefixTable)
    (steps : List Step) :
    src.clauses table (d.step :: steps) = src.clauses (d.bind table) steps := by
  obtain ⟨mark, first, uri⟩ := d
  cases uri <;> rfl

mutual

/-- The prefixes that a query leaves are those after its steps. -/
theorem QueryPhrase.prefixes_value (src : Source) : ∀ (q : QueryPhrase) (scope : IndexScope)
    (table : PrefixTable), (q.value src scope table).2 = prefixesAfter table (q.steps scope)
  | .chain first rest, scope, table => by
    rw [QueryPhrase.value, rest.prefixes_value, first.prefixes_value, QueryPhrase.steps,
      prefixesAfter_append]

theorem ChainPhrase.prefixes_value (src : Source) : ∀ (k : ChainPhrase) (scope : IndexScope)
    (table : PrefixTable) (left : Node),
    (k.value src scope table left).2 = prefixesAfter table (k.steps scope)
  | .done, _, _, _ => rfl
  | .join _ _ operand rest, scope, table, left => by
    rw [ChainPhrase.value, rest.prefixes_value, operand.prefixes_value, ChainPhrase.steps,
      prefixesAfter_append]

theorem ClausePhrase.prefixes_value (src : Source) : ∀ (c : ClausePhrase) (scope : IndexScope)
    (table : PrefixTable), (c.value src scope table).2 = prefixesAfter table (c.steps scope)
  | .group _ inner _, _, table => inner.prefixes_value src _ table
  | .declared declaration inner, scope, table => by
    rw [ClausePhrase.value, inner.prefixes_value, ← declaration.bind_step]
    rfl
  | .indexed _ _ _ inner, _, table => inner.prefixes_value src _ table
  | .term _ _, _, _ => rfl

end

mutual

/-- The clauses of a tree are those that the steps of its phrase give. -/
theorem QueryPhrase.clauses_value (src : Source) : ∀ (q : QueryPhrase) (scope : IndexScope)
    (table : PrefixTable), (q.value src scope table).1.clauses = src.clauses table (q.steps scope)
  | .chain first rest, scope, table => by
    rw [QueryPhrase.value, rest.clauses_value, first.clauses_value, first.prefixes_value,
      QueryPhrase.steps, Source.clauses_append]

theorem ChainPhrase.clauses_value (src : Source) : ∀ (k : ChainPhrase) (scope : IndexScope)
    (table : PrefixTable) (left : Node),
    (k.value src scope table left).1.clauses = left.clauses ++ src.clauses table (k.steps scope)
  | .done, _, _, left => (List.append_nil left.clauses).symm
  | .join _ _ operand rest, scope, table, left => by
    rw [ChainPhrase.value, rest.clauses_value, Node.clauses, operand.clauses_value,
      operand.prefixes_value, ChainPhrase.steps, Source.clauses_append, List.append_assoc]

theorem ClausePhrase.clauses_value (src : Source) : ∀ (c : ClausePhrase) (scope : IndexScope)
    (table : PrefixTable), (c.value src scope table).1.clauses = src.clauses table (c.steps scope)
  | .group _ inner _, _, table => inner.clauses_value src _ table
  | .declared declaration inner, scope, table => by
    rw [ClausePhrase.value, inner.clauses_value, ClausePhrase.steps, Source.clauses_declaration]
  | .indexed _ _ _ inner, _, table => inner.clauses_value src _ table
  | .term _ _, _, _ => rfl

end

/-- The URI that a step binds a name to. -/
def Step.uri? (name : String) : Step → Option String
  | .declare name' uri => if name = name' then some uri else none
  | .term _ _ _ => none

/-- The URI that the last declaration of a name gives. -/
def declaredUri? (name : String) : List Step → Option String
  | [] => none
  | step :: steps => (declaredUri? name steps).or (step.uri? name)

/-- A name has the URI of its last declaration, or else the one it had before. -/
theorem lookup_prefixesAfter (table : PrefixTable) (steps : List Step) (name : String) :
    (prefixesAfter table steps).lookup name =
      (declaredUri? name steps).or (table.lookup name) := by
  induction steps generalizing table with
  | nil => rfl
  | cons step steps ih =>
    rw [prefixesAfter_cons, ih, declaredUri?, Option.or_assoc]
    cases step with
    | declare name' uri =>
      rw [Step.bind, PrefixTable.lookup_insert, Step.uri?]
      split <;> rfl
    | term scope word ms => rfl

theorem PrefixTable.length_of_splitAtDot {name qualifier rest : String}
    (h : splitAtDot name = some (qualifier, rest)) : rest.length < name.length := by
  unfold splitAtDot at h
  split at h
  · cases h
  · rename_i front c back cut
    rw [List.span_eq_takeWhile_dropWhile] at cut
    have parts := List.takeWhile_append_dropWhile (p := (· != '.')) (l := name.toList)
    rw [(Prod.mk.inj cut).1, (Prod.mk.inj cut).2] at parts
    obtain ⟨-, rfl⟩ := Prod.mk.inj (Option.some.inj h)
    have size := congrArg List.length parts
    simp only [List.length_append, List.length_cons, String.length_toList] at size
    rw [String.length_ofList]
    omega

/-- An index is resolved alike by two tables exactly if they bind its qualifier alike. -/
theorem PrefixTable.resolveField_eq_iff (table table' : PrefixTable) (field : String) :
    table.resolveField field = table'.resolveField field ↔
      ∀ qualifier rest, splitAtDot field = some (qualifier, rest) →
        table.lookup qualifier = table'.lookup qualifier := by
  unfold resolveField
  cases split : splitAtDot field with
  | none => simp
  | some parts =>
    obtain ⟨qualifier, rest⟩ := parts
    have shorter := length_of_splitAtDot split
    have shortened : field ≠ rest := by
      rintro rfl
      omega
    cases bound : table.lookup qualifier <;> cases bound' : table'.lookup qualifier <;>
      simp [bound, bound', shortened, Ne.symm shortened]

/-- The clause without its index. -/
def SearchClause.withoutField (c : SearchClause) : SearchClause :=
  { c with field := "", fieldUri := "" }

/-- Prefixes show in the index of a clause only. -/
theorem Source.clauses_withoutField (src : Source) (table table' : PrefixTable)
    (steps : List Step) :
    ((src.clauses table steps).map SearchClause.withoutPositions).map SearchClause.withoutField =
      ((src.clauses table' steps).map SearchClause.withoutPositions).map
        SearchClause.withoutField := by
  induction steps generalizing table table' with
  | nil => rfl
  | cons step steps ih =>
    cases step with
    | declare name uri => exact ih _ _
    | term scope word ms => exact congrArg (List.cons _) (ih table table')

theorem Source.termClause_alike_iff (src : Source) (scope : IndexScope)
    (table table' : PrefixTable) (word : Token) (ms : List Modifier) :
    (src.termClause scope table word ms).withoutPositions =
        (src.termClause scope table' word ms).withoutPositions ↔
      table.resolveField scope.field = table'.resolveField scope.field := by
  simp [Source.termClause, SearchClause.withoutPositions, PrefixTable.resolveRelation,
    Prod.ext_iff]

/-- Two tables give the same clauses exactly if they, with the declarations before each term, bind
the qualifier of its index alike. -/
theorem Source.clauses_alike_iff (src : Source) (table table' : PrefixTable)
    (steps : List Step) :
    (src.clauses table steps).map SearchClause.withoutPositions =
        (src.clauses table' steps).map SearchClause.withoutPositions ↔
      ∀ i scope word ms, steps[i]? = some (.term scope word ms) →
        ∀ qualifier rest, PrefixTable.splitAtDot scope.field = some (qualifier, rest) →
          (prefixesAfter table (steps.take i)).lookup qualifier =
            (prefixesAfter table' (steps.take i)).lookup qualifier := by
  induction steps generalizing table table' with
  | nil => simp [Source.clauses]
  | cons step steps ih =>
    -- The first step is looked at by itself, the others with the prefixes after it.
    rw [← Nat.and_forall_add_one]
    simp only [List.getElem?_cons_zero, List.getElem?_cons_succ, List.take_succ_cons,
      prefixesAfter_cons]
    cases step with
    | declare name uri => simpa [Source.clauses, Step.bind] using ih _ _
    | term scope word ms =>
      rw [Source.clauses, Source.clauses, List.map_cons, List.map_cons, List.cons.injEq,
        src.termClause_alike_iff, PrefixTable.resolveField_eq_iff, ih]
      simp [Step.bind, prefixesAfter]

end ContextualQuery
