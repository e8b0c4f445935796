import ContextualQuery.Proofs.Query.Grammar
import ContextualQuery.Proofs.Query.SourceOrder
import ContextualQuery.Proofs.Query.Span
import Mathlib.Data.List.Forall2

/-!
# Which declarations resolve an index

An index is resolved where the term is reached that it is for, with the declarations that stand
before that term, at whatever depth.

* `QueryPhrase.items`: the declarations and terms of a phrase as they follow one another, each term
  with the index written for it;
* `QueryPhrase.items_sublist`: they follow one another as their tokens do;
* `resolved_clauses`: in a list of such items in order, the clauses are resolved as stated;
* `parse_resolves`: this holds for every query that can be read.
-/
namespace ContextualQuery

/-- A term and the nearest index written for it, or for a group or a declared query around it. -/
structure TermSite where
  index : Option (Word × RelationToken)
  word : Word

/-- The name of the index: the server's choice where none is written. -/
def TermSite.field (choice : ServerChoice) (s : TermSite) : String :=
  (s.index.map fun index => index.1.1.text).getD choice.field

/-- The relation that was written with the index, or the server's choice. -/
def TermSite.relation (choice : ServerChoice) (s : TermSite) : String :=
  (s.index.map fun index => index.2.1.text).getD choice.relation

inductive Item where
  | declaration (d : DeclarationPhrase)
  | term (s : TermSite)

namespace Item

/-- The token that the item starts with. -/
def token : Item → Token
  | .declaration d => d.mark.1
  | .term s => s.word.1

def declaration? : Item → Option DeclarationPhrase
  | .declaration d => some d
  | .term _ => none

def term? : Item → Option TermSite
  | .declaration _ => none
  | .term s => some s

end Item

mutual

/-- The declarations and terms of a query, in their order. -/
def QueryPhrase.items : QueryPhrase → Option (Word × RelationToken) → List Item
  | .chain first rest, index => first.items index ++ rest.items index

def ChainPhrase.items : ChainPhrase → Option (Word × RelationToken) → List Item
  | .done, _ => []
  | .join _ _ operand rest, index => operand.items index ++ rest.items index

def ClausePhrase.items : ClausePhrase → Option (Word × RelationToken) → List Item
  | .group _ inner _, index => inner.items index
  | .declared declaration inner, index => .declaration declaration :: inner.items index
  | .indexed name relation _ inner, _ => inner.items (some (name, relation))
  | .term word _, index => [.term ⟨index, word⟩]

end

def QueryPhrase.declarations (q : QueryPhrase) : List DeclarationPhrase :=
  (q.items none).filterMap Item.declaration?

def QueryPhrase.sites (q : QueryPhrase) : List TermSite := (q.items none).filterMap Item.term?

/-- The table that declarations make, one after another: `> name = uri` binds the name, and `> uri`
the name `default`. -/
def tableOf (declarations : List DeclarationPhrase) : PrefixTable :=
  declarations.foldl (fun table d =>
    match d.uri with
    | none => table.insert "default" d.first.1.text
    | some (_, uri) => table.insert d.first.1.text uri.1.text) .empty

/-- The table that the declarations before a token make. -/
def tableBefore (declarations : List DeclarationPhrase) (t : Token) : PrefixTable :=
  tableOf (declarations.filter (·.mark.1.start < t.start))

/-- The clause is that of the term, its index resolved by the declarations before the term and its
relation as it was written. -/
structure SearchClause.ResolvedAt (choice : ServerChoice) (declarations : List DeclarationPhrase)
    (c : SearchClause) (s : TermSite) : Prop where
  term : c.term = s.word.1.text
  range : c.range = some s.word.1.span
  field : (c.field, c.fieldUri) =
    (tableBefore declarations s.word.1).resolveField (s.field choice)
  relation : c.relation = s.relation choice
  relationUri : c.relationUri = ""

/-- The items start at different bytes, each before the next. -/
def ItemsInOrder (items : List Item) : Prop :=
  items.Pairwise fun a b => a.token.start < b.token.start

mutual

theorem QueryPhrase.items_sublist : ∀ (q : QueryPhrase) (index : Option (Word × RelationToken)),
    ((q.items index).map Item.token).Sublist q.tokens
  | .chain first rest, index => by
    rw [QueryPhrase.items, QueryPhrase.tokens, List.map_append]
    exact (first.items_sublist index).append (rest.items_sublist index)

theorem ChainPhrase.items_sublist : ∀ (k : ChainPhrase) (index : Option (Word × RelationToken)),
    ((k.items index).map Item.token).Sublist k.tokens
  | .done, _ => List.Sublist.slnil
  | .join operator ms operand rest, index => by
    rw [ChainPhrase.items, ChainPhrase.tokens, List.map_append]
    exact ((operand.items_sublist index).trans (List.sublist_append_right _ _)).append
      (rest.items_sublist index)

theorem ClausePhrase.items_sublist : ∀ (c : ClausePhrase) (index : Option (Word × RelationToken)),
    ((c.items index).map Item.token).Sublist c.tokens
  | .group opening inner _, index =>
    ((inner.items_sublist index).cons opening.1).trans (List.sublist_append_left _ _)
  | .declared declaration inner, index =>
    ((List.nil_sublist _).cons_cons declaration.mark.1).append (inner.items_sublist index)
  | .indexed name relation _ inner, _ =>
    (inner.items_sublist (some (name, relation))).trans (List.sublist_append_right _ _)
  | .term word _, _ => (List.nil_sublist _).cons_cons word.1

end

theorem QueryPhrase.items_inOrder {q : QueryPhrase} (ordered : InOrder q.tokens)
    (index : Option (Word × RelationToken)) : ItemsInOrder (q.items index) := by
  have starts : q.tokens.Pairwise fun a b => a.start < b.start := by
    refine ordered.2.imp_of_mem ?_
    intro a b ha _ before
    have proper := ordered.1 a ha
    omega
  have sorted := List.Pairwise.sublist (q.items_sublist index) starts
  rwa [List.pairwise_map] at sorted

/-- Of items in order, those that start before one of them are those listed before it. -/
theorem filter_of_itemsInOrder {earlier later : List Item} {item : Item}
    (ordered : ItemsInOrder (earlier ++ item :: later)) :
    (earlier ++ item :: later).filter (·.token.start < item.token.start) = earlier := by
  obtain ⟨-, ordered', before⟩ := List.pairwise_append.mp ordered
  obtain ⟨after, -⟩ := List.pairwise_cons.mp ordered'
  have kept : earlier.filter (·.token.start < item.token.start) = earlier :=
    List.filter_eq_self.mpr fun a ha => decide_eq_true (before a ha item List.mem_cons_self)
  have dropped : later.filter (·.token.start < item.token.start) = [] := by
    refine List.filter_eq_nil_iff.mpr fun a ha => ?_
    have := after a ha
    simp only [decide_eq_true_eq]
    omega
  rw [List.filter_append, kept, List.filter_cons_of_neg (by simp), dropped, List.append_nil]

theorem filter_declarations (items : List Item) (t : Token) :
    (items.filterMap Item.declaration?).filter (·.mark.1.start < t.start) =
      (items.filter (·.token.start < t.start)).filterMap Item.declaration? := by
  rw [List.filter_filterMap, List.filterMap_filter]
  congr 1
  funext item
  cases item with
  | declaration d => rfl
  | term s => simp [Item.declaration?]

/-- A step declares or searches for what an item shows. -/
inductive Step.Shows (choice : ServerChoice) : Step → Item → Prop where
  | declaration (d : DeclarationPhrase) : Shows choice d.step (.declaration d)
  | term (scope : IndexScope) (s : TermSite) (modifiers : List Modifier)
      (field : scope.field = s.field choice) (relation : scope.relation = s.relation choice) :
      Shows choice (.term scope s.word.1 modifiers) (.term s)

/-- The scope has the index and relation that were written, or else the server's choice. -/
def IndexScope.Names (choice : ServerChoice) (scope : IndexScope)
    (index : Option (Word × RelationToken)) : Prop :=
  ∀ word, scope.field = TermSite.field choice ⟨index, word⟩ ∧
    scope.relation = TermSite.relation choice ⟨index, word⟩

/-- Where an index was written does not matter to its name. -/
theorem IndexScope.Names.unplaced {choice : ServerChoice} {scope : IndexScope}
    {index : Option (Word × RelationToken)} (names : scope.Names choice index) :
    { scope with start := none }.Names choice index := names

mutual

theorem QueryPhrase.steps_show (choice : ServerChoice) : ∀ (q : QueryPhrase) {scope : IndexScope}
    {index : Option (Word × RelationToken)}, scope.Names choice index →
    List.Forall₂ (Step.Shows choice) (q.steps scope) (q.items index)
  | .chain first rest, _, _, names =>
    List.rel_append (first.steps_show choice names) (rest.steps_show choice names)

theorem ChainPhrase.steps_show (choice : ServerChoice) : ∀ (k : ChainPhrase) {scope : IndexScope}
    {index : Option (Word × RelationToken)}, scope.Names choice index →
    List.Forall₂ (Step.Shows choice) (k.steps scope) (k.items index)
  | .done, _, _, _ => .nil
  | .join _ _ operand rest, _, _, names =>
    List.rel_append (operand.steps_show choice names) (rest.steps_show choice names)

theorem ClausePhrase.steps_show (choice : ServerChoice) : ∀ (c : ClausePhrase) {scope : IndexScope}
    {index : Option (Word × RelationToken)}, scope.Names choice index →
    List.Forall₂ (Step.Shows choice) (c.steps scope) (c.items index)
  | .group _ inner _, _, _, names => inner.steps_show choice names.unplaced
  | .declared declaration inner, _, _, names =>
    .cons (.declaration declaration) (inner.steps_show choice names)
  | .indexed _ _ _ inner, _, _, _ => inner.steps_show choice fun _ => ⟨rfl, rfl⟩
  | .term word _, scope, index, names =>
    .cons (.term scope ⟨index, word⟩ _ (names word).1 (names word).2) .nil

end

theorem tableOf_append_singleton (declarations : List DeclarationPhrase) (d : DeclarationPhrase) :
    tableOf (declarations ++ [d]) = d.step.bind (tableOf declarations) := by
  obtain ⟨mark, first, uri⟩ := d
  rw [tableOf, List.foldl_append]
  cases uri <;> rfl

/-- The clauses of steps that follow `earlier` items, with the table that these have made. The
declarations looked at are those of all items, so that the order alone tells which of them count. -/
theorem resolved_clauses (src : Source) {steps : List Step} {items : List Item}
    (shows : List.Forall₂ (Step.Shows src.choice) steps items) : ∀ {earlier : List Item},
    ItemsInOrder (earlier ++ items) →
    List.Forall₂ (SearchClause.ResolvedAt src.choice
        ((earlier ++ items).filterMap Item.declaration?))
      (src.clauses (tableOf (earlier.filterMap Item.declaration?)) steps)
      (items.filterMap Item.term?) := by
  induction shows with
  | nil => exact fun _ => .nil
  | @cons step item steps items shown _ ih =>
    intro earlier ordered
    have rest := @ih (earlier ++ [item]) (by simpa using ordered)
    have through : (earlier ++ [item]).filterMap Item.declaration? =
        earlier.filterMap Item.declaration? ++ item.declaration?.toList := by
      rw [List.filterMap_append, List.filterMap_cons, List.filterMap_nil]
      cases item.declaration? <;> rfl
    rw [List.append_assoc, List.singleton_append, through] at rest
    cases shown with
    | declaration d =>
      rw [Item.declaration?, Option.toList_some, tableOf_append_singleton] at rest
      rw [List.filterMap_cons_none rfl, Source.clauses_declaration, ← d.bind_step]
      exact rest
    | term scope s ms field relation =>
      rw [Item.declaration?, Option.toList_none, List.append_nil] at rest
      have before : tableBefore ((earlier ++ .term s :: items).filterMap Item.declaration?)
          s.word.1 = tableOf (earlier.filterMap Item.declaration?) := by
        have kept := filter_of_itemsInOrder ordered
        rw [Item.token] at kept
        rw [tableBefore, filter_declarations, kept]
      refine List.Forall₂.cons ⟨rfl, rfl, ?_, relation, rfl⟩ rest
      rw [before, ← field]
      rfl

/-- A query that can be read has a preferred derivation, and in every such derivation the clauses of
the tree are, one for one, its terms. The index of a clause is resolved with all declarations before
the term and no others, wherever they stand. -/
theorem parse_resolves {query : String} {choice : ServerChoice} {n : Node}
    (h : Node.parse query choice = .ok n) :
    (∃ q : QueryPhrase, q.Derives (tokenize query) ∧ q.Preferred []) ∧
    ∀ q : QueryPhrase, q.Derives (tokenize query) → q.Preferred [] →
      List.Forall₂ (SearchClause.ResolvedAt choice q.declarations) n.clauses q.sites := by
  constructor
  · obtain ⟨q, derives, settled, -⟩ := exists_settled_of_parse h
    exact ⟨q, derives, (QueryPhrase.preferred_iff_settled derives.2).mpr settled⟩
  · rintro q ⟨tokens, greedy⟩ preferred
    have settled := (QueryPhrase.preferred_iff_settled greedy).mp preferred
    have value := q.parse_of_tokens greedy settled tokens choice
    obtain rfl := Except.ok.inj (h.symm.trans value)
    have ordered : ItemsInOrder (q.items none) :=
      QueryPhrase.items_inOrder (tokens ▸ tokenize_ordered query) none
    have names : (IndexScope.ofChoice choice).Names choice none := fun _ => ⟨rfl, rfl⟩
    rw [QueryPhrase.clauses_value]
    exact @resolved_clauses ⟨query, choice⟩ _ _ (q.steps_show choice names) [] ordered

/-- The index of the group is resolved at `a` and again at `b`, where its prefix has another URI,
and the index of `c` with the declaration inside the group. -/
theorem parse_resolves_redeclared :
    ∃ n, Node.parse "dc.x = > dc = u (a or > dc = v b) and dc.y any c" {} = .ok n ∧
      n.clauses.map (fun c => (c.term, c.field, c.fieldUri, c.relation)) =
        [("a", "x", "u", "="), ("b", "x", "v", "="), ("c", "y", "v", "any")] ∧
      ∃ q : QueryPhrase,
        (q.Derives (tokenize "dc.x = > dc = u (a or > dc = v b) and dc.y any c") ∧
          q.Preferred []) ∧
        List.Forall₂ (SearchClause.ResolvedAt {} q.declarations) n.clauses q.sites := by
  have facts : (Node.parse "dc.x = > dc = u (a or > dc = v b) and dc.y any c" {}).toOption.map
      (fun n => n.clauses.map fun c => (c.term, c.field, c.fieldUri, c.relation)) =
      some [("a", "x", "u", "="), ("b", "x", "v", "="), ("c", "y", "v", "any")] := by
    decide +kernel
  cases parsed : Node.parse "dc.x = > dc = u (a or > dc = v b) and dc.y any c" {} with
  | error e => simp [parsed, Except.toOption] at facts
  | ok n =>
    simp only [parsed, Except.toOption, Option.map_some, Option.some.injEq] at facts
    obtain ⟨⟨q, derives, preferred⟩, resolved⟩ := parse_resolves parsed
    exact ⟨n, rfl, facts, q, ⟨derives, preferred⟩, resolved q derives preferred⟩

end ContextualQuery
