import ContextualQuery.Proofs.Query.Lookahead

/-!
# Viable prefixes

Tokens are viable if a derivation starts with them. Where reading fails, the tokens read so far are
viable, so the next token is the first that cannot be right. And reading never looks further than
that token, so whatever comes after it cannot help.

* `Viable`: some tokens that a query text can always go on with complete a phrase;
* `Raised`: what an error says about the tokens read before it, which are viable;
* `Steady`: what a reader does is decided by the tokens it takes and the one that comes next;
* `Steady.bind`: steady readers one after another are steady;
* `steady_query`, `steady_parseAll`: reading a whole query is steady.
-/
namespace ContextualQuery

/-- A word that may stand wherever a word may. -/
def fillerWord : Word := ⟨.spelled .quoted "", rfl⟩

/-- A parenthesis that closes a group. -/
def fillerClosing : OfKind .closeParen := .spelled .closeParen ")"

def fillerClause : ClausePhrase := .term fillerWord []

/-- Words and closing parentheses that fill up a phrase. -/
def Filler (ts : List Token) : Prop := ∀ t ∈ ts, t = fillerWord.1 ∨ t = fillerClosing.1

@[simp]
theorem filler_nil : Filler [] := nofun

@[simp]
theorem filler_append {ts us : List Token} : Filler (ts ++ us) ↔ Filler ts ∧ Filler us :=
  List.forall_mem_append

@[simp]
theorem filler_word : Filler [fillerWord.1] := by simp [Filler]

@[simp]
theorem filler_closing : Filler [fillerClosing.1] := by simp [Filler]

theorem Filler.not_comparison {ts : List Token} (h : Filler ts) :
    NextIsNot (Token.isKind .comparison) ts := by
  cases ts with
  | nil => rfl
  | cons t ts =>
    rw [nextIsNot_cons]
    obtain rfl | rfl := h t List.mem_cons_self
    · rfl
    · rfl

/-- What is not followed by a comparison is not followed by one where a filler takes over. -/
theorem Filler.next {more : List Token} (h : Filler more) (read rest : List Token) :
    NextIsNot (Token.isKind .comparison) (read ++ rest) →
      NextIsNot (Token.isKind .comparison) (read ++ more) :=
  nextIsNot_append (fun _ => h.not_comparison) read

/-- Tokens that some filler completes to a phrase, whose modifiers are greedy at the end. -/
def Viable {Phrase : Type} (tokens : Phrase → List Token) (greedy : Phrase → List Token → Prop)
    (read : List Token) : Prop :=
  ∃ (phrase : Phrase) (more : List Token),
    tokens phrase = read ++ more ∧ Filler more ∧ greedy phrase []

abbrev ViableModifier := Viable ModifierPhrase.tokens fun _ _ => True

abbrev ViableModifiers := Viable modifierTokens GreedyModifiers

abbrev ViableDeclaration := Viable DeclarationPhrase.tokens fun _ _ => True

abbrev ViableQuery := Viable QueryPhrase.tokens QueryPhrase.Greedy

abbrev ViableChain := Viable ChainPhrase.tokens ChainPhrase.Greedy

abbrev ViableClause := Viable ClausePhrase.tokens ClausePhrase.Greedy

section Contexts

variable {read rest : List Token}

/-! ## Viable parts make viable wholes

Each lemma puts a part that is not complete into the place of the phrase it stands in. What follows
the part in that place is filled up. -/

theorem ViableModifier.modifiers (h : ViableModifier read) : ViableModifiers read := by
  obtain ⟨m, more, tokens, filler, -⟩ := h
  exact ⟨[m], more, by simp [tokens], filler, by simp, trivial⟩

theorem ViableModifiers.after (h : ViableModifiers read) {m : ModifierPhrase}
    (greedy : m.setting = none → NextIsNot (Token.isKind .comparison) (read ++ rest)) :
    ViableModifiers (m.tokens ++ read) := by
  obtain ⟨ms, more, tokens, filler, greedy'⟩ := h
  refine ⟨m :: ms, more, by simp [tokens], filler, ?_, greedy'⟩
  intro flag
  rw [List.append_nil, tokens]
  exact filler.next read rest (greedy flag)

theorem ViableClause.query (h : ViableClause read) : ViableQuery read := by
  obtain ⟨c, more, tokens, filler, greedy⟩ := h
  exact ⟨.chain c .done, more, by simp [QueryPhrase.tokens, ChainPhrase.tokens, tokens], filler,
    greedy, trivial⟩

theorem ViableChain.query (h : ViableChain read) {c : ClausePhrase}
    (greedy : c.Greedy (read ++ rest)) : ViableQuery (c.tokens ++ read) := by
  obtain ⟨k, more, tokens, filler, greedy'⟩ := h
  refine ⟨.chain c k, more, by simp [QueryPhrase.tokens, tokens], filler, ?_, greedy'⟩
  rw [List.append_nil, tokens]
  exact c.greedy_of_next (filler.next read rest) greedy

theorem ViableModifiers.chain (h : ViableModifiers read) (operator : Operator) :
    ViableChain (operator.1 :: read) := by
  obtain ⟨ms, more, tokens, filler, greedy⟩ := h
  refine ⟨.join operator ms fillerClause .done, more ++ [fillerWord.1], ?_, by simp [filler], ?_⟩
  · simp [ChainPhrase.tokens, ClausePhrase.tokens, fillerClause, tokens]
  · exact ⟨greedyModifiers_of_next (fun _ => rfl) greedy, trivial, trivial⟩

theorem ViableClause.chain (h : ViableClause read) (operator : Operator) {ms : List ModifierPhrase}
    (greedy : GreedyModifiers ms (read ++ rest)) :
    ViableChain (operator.1 :: modifierTokens ms ++ read) := by
  obtain ⟨c, more, tokens, filler, greedy'⟩ := h
  refine ⟨.join operator ms c .done, more, by simp [ChainPhrase.tokens, tokens], filler, ?_,
    greedy', trivial⟩
  rw [ChainPhrase.tokens, List.nil_append, List.append_nil, tokens]
  exact greedyModifiers_of_next (filler.next read rest) greedy

theorem ViableChain.chain (h : ViableChain read) (operator : Operator) {ms : List ModifierPhrase}
    {c : ClausePhrase} (greedy : GreedyModifiers ms (c.tokens ++ (read ++ rest)))
    (greedy' : c.Greedy (read ++ rest)) :
    ViableChain (operator.1 :: modifierTokens ms ++ (c.tokens ++ read)) := by
  obtain ⟨k, more, tokens, filler, greedy''⟩ := h
  refine ⟨.join operator ms c k, more, by simp [ChainPhrase.tokens, tokens], filler, ?_, ?_,
    greedy''⟩
  · rw [List.append_nil, tokens]
    exact greedyModifiers_of_next (nextIsNot_append (filler.next read rest) c.tokens) greedy
  · rw [List.append_nil, tokens]
    exact c.greedy_of_next (filler.next read rest) greedy'

theorem ViableQuery.group (h : ViableQuery read) (opening : OfKind .openParen) :
    ViableClause (opening.1 :: read) := by
  obtain ⟨q, more, tokens, filler, greedy⟩ := h
  refine ⟨.group opening q fillerClosing, more ++ [fillerClosing.1], ?_, by simp [filler], ?_⟩
  · simp [ClausePhrase.tokens, tokens]
  · exact q.greedy_of_next (fun _ => rfl) greedy

theorem ViableQuery.declared (h : ViableQuery read) (declaration : DeclarationPhrase) :
    ViableClause (declaration.tokens ++ read) := by
  obtain ⟨q, more, tokens, filler, greedy⟩ := h
  exact ⟨.declared declaration q, more, by simp [ClausePhrase.tokens, tokens], filler, greedy⟩

theorem ViableDeclaration.clause (h : ViableDeclaration read) : ViableClause read := by
  obtain ⟨d, more, tokens, filler, -⟩ := h
  refine ⟨.declared d (.chain fillerClause .done), more ++ [fillerWord.1], ?_, by simp [filler],
    trivial, trivial⟩
  simp [ClausePhrase.tokens, QueryPhrase.tokens, ChainPhrase.tokens, fillerClause, tokens]

theorem ViableModifiers.term (h : ViableModifiers read) (word : Word) :
    ViableClause (word.1 :: read) := by
  obtain ⟨ms, more, tokens, filler, greedy⟩ := h
  exact ⟨.term word ms, more, by simp [ClausePhrase.tokens, tokens], filler, greedy⟩

theorem ViableModifiers.indexed (h : ViableModifiers read) (name : Word)
    (relation : RelationToken) : ViableClause (name.1 :: relation.1 :: read) := by
  obtain ⟨ms, more, tokens, filler, greedy⟩ := h
  refine ⟨.indexed name relation ms fillerClause, more ++ [fillerWord.1], ?_, by simp [filler],
    greedyModifiers_of_next (fun _ => rfl) greedy, trivial⟩
  simp [ClausePhrase.tokens, fillerClause, tokens]

theorem ViableClause.indexed (h : ViableClause read) (name : Word) (relation : RelationToken)
    {ms : List ModifierPhrase} (greedy : GreedyModifiers ms (read ++ rest)) :
    ViableClause (name.1 :: relation.1 :: (modifierTokens ms ++ read)) := by
  obtain ⟨c, more, tokens, filler, greedy'⟩ := h
  refine ⟨.indexed name relation ms c, more, by simp [ClausePhrase.tokens, tokens], filler, ?_,
    greedy'⟩
  rw [List.append_nil, tokens]
  exact greedyModifiers_of_next (filler.next read rest) greedy

theorem QueryPhrase.viable {q : QueryPhrase} (greedy : q.Greedy rest) : ViableQuery q.tokens :=
  ⟨q, [], (List.append_nil _).symm, filler_nil, q.greedy_of_next (fun _ => rfl) greedy⟩

theorem viableClause_nil : ViableClause [] := ⟨fillerClause, _, rfl, by simp, trivial⟩

end Contexts

/-- The error is about the first of the tokens `ts`: it records this token, and its place unless the
fault is an opening parenthesis or an empty query. -/
structure QueryError.FoundAt (src : Source) (ts : List Token) (e : QueryError) : Prop where
  lookahead : e.lookahead = (src.look ts).kind
  token : e.token = (src.look ts).text?
  position : e.kind ≠ .missingClosingParen → e.kind ≠ .emptyInput →
    e.position = (src.look ts).start

theorem Source.foundAt_failHere (src : Source) (kind : ErrorKind) (ts : List Token) :
    (src.failHere kind ts).FoundAt src ts :=
  ⟨rfl, rfl, fun _ _ => rfl⟩

theorem QueryError.FoundAt.of_head {src : Source} {ts us : List Token} {e : QueryError}
    (h : e.FoundAt src ts) (head : us.head? = ts.head?) : e.FoundAt src us := by
  have same : src.look us = src.look ts := by
    cases ts with
    | nil => rw [List.head?_eq_none_iff.mp head]
    | cons t ts =>
      obtain ⟨us, rfl⟩ := List.head?_eq_some_iff.mp head
      rfl
  exact ⟨same ▸ h.lookahead, same ▸ h.token, same ▸ h.position⟩

/-- The kinds of errors in which the next token goes on with no phrase. -/
def ErrorKind.isLocal : ErrorKind → Bool
  | .invalidModifier | .invalidModifierRelation | .expectedWord | .invalidClause => true
  | _ => false

/-- A parenthesis among the tokens `read` opens a group that the next token does not close. -/
structure QueryError.IsUnclosed (read : List Token) (e : QueryError) : Prop where
  kind : e.kind = .missingClosingParen
  lookahead : e.lookahead ≠ .closeParen
  opening : ∃ (before : List Token) (opening : OfKind .openParen) (q : QueryPhrase),
    read = before ++ opening.1 :: q.tokens ∧ e.position = opening.1.start

theorem QueryError.IsUnclosed.of_suffix {e : QueryError} {read whole : List Token}
    (h : e.IsUnclosed read) (inside : read <:+ whole) : e.IsUnclosed whole := by
  obtain ⟨kind, lookahead, before, opening, q, rfl, position⟩ := h
  obtain ⟨front, rfl⟩ := inside
  exact ⟨kind, lookahead, front ++ before, opening, q, by rw [List.append_assoc], position⟩

/-- Reading a phrase fails with the error after the tokens `read`, which are viable. -/
structure Raised (src : Source) (viable : List Token → Prop) (read : List Token) (e : QueryError) :
    Prop where
  viable : viable read
  query : e.query = some src.query
  cause : e.kind.isLocal = true ∨ e.IsUnclosed read

/-! ## Steady readers -/

section Readers

variable {α β : Type}

/-- The reader takes the tokens `read`, whatever follows that starts as `rest` does. -/
def Takes (result : α → List Token → β) (reader : List Token → Except QueryError β)
    (read rest : List Token) : Prop :=
  ∃ a, ∀ us : List Token, us.head? = rest.head? → reader (read ++ us) = .ok (result a us)

/-- The reader fails with the error after the tokens `read`, whatever follows that starts as `rest`
does. -/
def Refuses (src : Source) (reader : List Token → Except QueryError β) (read rest : List Token)
    (e : QueryError) : Prop :=
  e.FoundAt src rest ∧ ∀ us : List Token, us.head? = rest.head? → reader (read ++ us) = .error e

/-- The reader does the same on all tokens that start with those it takes of `ts` and the one next
to them. If it fails, the error is the `fault` of those it has taken. -/
def Steady (src : Source) (result : α → List Token → β) (fault : List Token → QueryError → Prop)
    (reader : List Token → Except QueryError β) (ts : List Token) : Prop :=
  ∃ read rest, ts = read ++ rest ∧
    (Takes result reader read rest ∨ ∃ e, fault read e ∧ Refuses src reader read rest e)

theorem forall_head_nil {p : List Token → Prop} :
    (∀ us : List Token, us.head? = ([] : List Token).head? → p us) ↔ p [] := by
  simp [List.head?_eq_none_iff]

theorem forall_head_cons {p : List Token → Prop} {t : Token} {ts : List Token} :
    (∀ us : List Token, us.head? = (t :: ts).head? → p us) ↔ ∀ us, p (t :: us) := by
  simp only [List.head?_cons, List.head?_eq_some_iff]
  constructor
  · intro h us
    exact h _ ⟨us, rfl⟩
  · rintro h _ ⟨us, rfl⟩
    exact h us

theorem head?_append_of_head? {us rest : List Token} (h : us.head? = rest.head?)
    (read : List Token) : (read ++ us).head? = (read ++ rest).head? := by
  cases read with
  | nil => exact h
  | cons t ts => rfl

namespace Steady

variable {src : Source} {result : α → List Token → β}
  {fault fault' : List Token → QueryError → Prop}
  {reader reader' : List Token → Except QueryError β} {ts : List Token}

/-- A reader that takes nothing. -/
theorem take (a : α) (h : ∀ us : List Token, us.head? = ts.head? → reader us = .ok (result a us)) :
    Steady src result fault reader ts :=
  ⟨[], ts, rfl, .inl ⟨a, h⟩⟩

/-- A reader that fails at once. -/
theorem refuse {e : QueryError} (h : fault [] e) (found : e.FoundAt src ts)
    (fails : ∀ us : List Token, us.head? = ts.head? → reader us = .error e) :
    Steady src result fault reader ts :=
  ⟨[], ts, rfl, .inr ⟨e, h, found, fails⟩⟩

theorem cons {t : Token}
    (h : Steady src result (fun read => fault (t :: read)) (fun us => reader (t :: us)) ts) :
    Steady src result fault reader (t :: ts) := by
  obtain ⟨read, rest, rfl, outcome⟩ := h
  exact ⟨t :: read, rest, rfl, outcome⟩

theorem congr (h : Steady src result fault reader ts)
    (same : ∀ us : List Token, us.head? = ts.head? → reader' us = reader us) :
    Steady src result fault reader' ts := by
  obtain ⟨read, rest, rfl, ⟨a, takes⟩ | ⟨e, raised, found, refuses⟩⟩ := h
  · refine ⟨read, rest, rfl, .inl ⟨a, ?_⟩⟩
    intro us next
    rw [same _ (head?_append_of_head? next read)]
    exact takes us next
  · refine ⟨read, rest, rfl, .inr ⟨e, raised, found, ?_⟩⟩
    intro us next
    rw [same _ (head?_append_of_head? next read)]
    exact refuses us next

theorem mono (h : Steady src result fault reader ts)
    (more : ∀ read rest e, ts = read ++ rest → fault read e → fault' read e) :
    Steady src result fault' reader ts := by
  obtain ⟨read, rest, split, takes | ⟨e, raised, refuses⟩⟩ := h
  · exact ⟨read, rest, split, .inl takes⟩
  · exact ⟨read, rest, split, .inr ⟨e, more read rest e split raised, refuses⟩⟩

/-- A phrase stands inside another: the tokens read of it are the last of those read. -/
theorem within {viable viable' : List Token → Prop} {extend : List Token → List Token}
    (h : Steady src result (Raised src viable) reader ts) (inside : ∀ read, read <:+ extend read)
    (more : ∀ read rest, ts = read ++ rest → viable read → viable' (extend read)) :
    Steady src result (fun read => Raised src viable' (extend read)) reader ts := by
  apply h.mono
  rintro read rest e split ⟨viable, query, cause⟩
  exact ⟨more read rest split viable, query, cause.imp_right (·.of_suffix (inside read))⟩

/-- A steady reader followed by another is steady: what the first looks at is the first token that
the second takes, or the one that the second looks at. -/
theorem bind {γ δ : Type} {result' : γ → List Token → δ} {next : β → Except QueryError δ}
    (h : Steady src result fault reader ts)
    (steady : ∀ a read rest, ts = read ++ rest → reader ts = .ok (result a rest) →
      Steady src result' (fun more => fault (read ++ more)) (fun us => next (result a us)) rest) :
    Steady src result' fault (fun us => (reader us).bind next) ts := by
  obtain ⟨read, rest, rfl, ⟨a, takes⟩ | ⟨e, raised, found, refuses⟩⟩ := h
  · obtain ⟨read', rest', rfl, outcome⟩ := steady a read rest rfl (takes rest rfl)
    have first (us : List Token) (head : us.head? = rest'.head?) :
        (reader (read ++ read' ++ us)).bind next = next (result a (read' ++ us)) := by
      rw [List.append_assoc, takes _ (head?_append_of_head? head read')]
      rfl
    refine ⟨read ++ read', rest', (List.append_assoc ..).symm, ?_⟩
    obtain ⟨c, takes'⟩ | ⟨e, raised, found, refuses'⟩ := outcome
    · refine .inl ⟨c, ?_⟩
      intro us head
      exact (first us head).trans (takes' us head)
    · refine .inr ⟨e, raised, found, ?_⟩
      intro us head
      exact (first us head).trans (refuses' us head)
  · refine ⟨read, rest, rfl, .inr ⟨e, raised, found, ?_⟩⟩
    intro us head
    exact congrArg (Except.bind · next) (refuses us head)

end Steady
end Readers

variable {src : Source}

theorem steady_word {kind : ErrorKind} (isLocal : kind.isLocal = true) (ts : List Token) :
    Steady src Prod.mk (Raised src (· = [])) (src.word kind) ts := by
  have raised : Raised src (· = []) [] (src.failHere kind ts) := ⟨rfl, rfl, .inl isLocal⟩
  cases ts with
  | nil => exact .refuse raised (src.foundAt_failHere kind []) (forall_head_nil.mpr rfl)
  | cons t ts =>
    cases isWord : t.isWord with
    | true => exact .cons (.take t fun us _ => Source.word_cons isWord kind us)
    | false =>
      refine .refuse raised (src.foundAt_failHere kind _) (forall_head_cons.mpr ?_)
      intro us
      simp [Source.word, isWord, Source.failHere, Source.fail, Source.look]

/-- A mark that may be left out, and the word that has to follow it. -/
theorem steady_optional {α : Type} {p : Token → Prop} [DecidablePred p] (kind : ErrorKind)
    (isLocal : kind.isLocal = true) {reader : List Token → Except QueryError (α × List Token)}
    {absent : α} (present : Token → Token → α) (nil : reader [] = .ok (absent, []))
    (other : ∀ t us, ¬ p t → reader (t :: us) = .ok (absent, t :: us))
    (mark : ∀ t us, p t → reader (t :: us) =
      (src.word kind us).bind fun (word, rest) => .ok (present t word, rest))
    (ts : List Token) :
    Steady src Prod.mk (Raised src fun read => ∃ t, p t ∧ read = [t]) reader ts := by
  cases ts with
  | nil => exact .take absent (forall_head_nil.mpr nil)
  | cons t ts =>
    by_cases marks : p t
    · refine .cons (.congr (.bind ((steady_word isLocal ts).within (by simp) ?_) ?_) fun us _ =>
        mark t us marks)
      · rintro _ _ - rfl
        exact ⟨t, marks, rfl⟩
      · intro word read rest _ _
        exact .take (present t word) fun us _ => rfl
    · exact .take absent (forall_head_cons.mpr fun us => other t us marks)

theorem steady_setting (slash name : Token) (ts : List Token) :
    Steady src Prod.mk (Raised src fun read => ∃ t : Token, t.kind = .comparison ∧ read = [t])
      (src.setting slash name) ts := by
  refine steady_optional .invalidModifierRelation rfl (fun relation value =>
    { Source.flagAt slash name with
      relation := relation.text, value := value.text
      range := some ⟨slash.start, value.stop⟩ }) rfl ?_ ?_ ts
  · intro t us other
    rw [Source.setting, if_neg other]
  · intro t us comparison
    rw [Source.setting, if_pos comparison]

theorem steady_modifier {slash : Token} (kind : slash.kind = .slash) (ts : List Token) :
    Steady src Prod.mk (Raised src fun read => ViableModifier (slash :: read)) (src.modifier slash)
      ts := by
  have isSlash : slash.isKind .slash = true := by simp [Token.isKind, kind]
  rw [funext (src.modifier_eq slash)]
  refine .bind ((steady_word rfl ts).within (by simp) ?_) ?_
  · rintro _ _ - rfl
    exact ⟨⟨⟨slash, isSlash⟩, fillerWord, none⟩, _, rfl, filler_word, trivial⟩
  · intro name read rest split taken
    obtain ⟨tokens, isWord⟩ := Source.word_eq_ok_iff.mp taken
    obtain rfl : read = [name] := List.append_cancel_right (split.symm.trans tokens)
    refine (steady_setting slash name rest).within (by simp) ?_
    rintro _ _ - ⟨t, comparison, rfl⟩
    have isComparison : t.isKind .comparison = true := by simp [Token.isKind, comparison]
    exact ⟨⟨⟨slash, isSlash⟩, ⟨name, isWord⟩, some (⟨t, isComparison⟩, fillerWord)⟩, _, rfl,
      filler_word, trivial⟩

theorem steady_modifiers (ts : List Token) :
    Steady src Prod.mk (Raised src ViableModifiers) src.modifiers ts := by
  cases ts with
  | nil => exact .take [] (forall_head_nil.mpr (src.modifiers_stop rfl))
  | cons slash ts =>
    by_cases kind : slash.kind = .slash
    · refine .cons (.congr (.bind ((steady_modifier kind ts).within (by simp) ?_) ?_) fun us _ =>
        src.modifiers_slash kind us)
      · intro read rest _ viable
        exact viable.modifiers
      · -- The first modifier is complete, so the failure is in one of the others.
        intro m read rest split taken
        have shorter := Source.modifier_length taken
        obtain ⟨phrase, tokens, -, greedy⟩ := phrase_of_modifier kind taken
        have same : slash :: read = phrase.tokens :=
          List.append_cancel_right (by rw [← tokens, split, List.cons_append])
        refine .bind ((steady_modifiers rest).within (fun _ => ⟨slash :: read, rfl⟩) ?_) ?_
        · intro more rest' split' viable
          rw [← List.cons_append, same]
          exact viable.after (split' ▸ greedy)
        · intro ms _ _ _ _
          exact .take (m :: ms) fun us _ => rfl
    · refine .take [] (forall_head_cons.mpr fun us => src.modifiers_stop ?_)
      simpa using kind
termination_by ts.length
decreasing_by
  simp only [List.length_cons]
  omega

theorem steady_binding (table : PrefixTable) (first : Token) (ts : List Token) :
    Steady src Prod.mk (Raised src fun read => ∃ t : Token, t.isComparison "=" = true ∧ read = [t])
      (src.binding table first) ts := by
  refine steady_optional .expectedWord rfl (fun _ uri => table.insert first.text uri.text)
    rfl ?_ ?_ ts
  · intro t us other
    rw [Source.binding, if_neg other]
  · intro t us equals
    rw [Source.binding, if_pos equals]

theorem steady_declaration {mark : Token} (isMark : mark.isComparison ">" = true)
    (table : PrefixTable) (ts : List Token) :
    Steady src Prod.mk (Raised src fun read => ViableDeclaration (mark :: read))
      (src.declaration table) ts := by
  rw [funext (src.declaration_eq table)]
  refine .bind ((steady_word rfl ts).within (by simp) ?_) ?_
  · rintro _ _ - rfl
    exact ⟨⟨⟨mark, isMark⟩, fillerWord, none⟩, _, rfl, filler_word, trivial⟩
  · intro first read rest split taken
    obtain ⟨tokens, isWord⟩ := Source.word_eq_ok_iff.mp taken
    obtain rfl : read = [first] := List.append_cancel_right (split.symm.trans tokens)
    refine (steady_binding table first rest).within (by simp) ?_
    rintro _ _ - ⟨t, equals, rfl⟩
    exact ⟨⟨⟨mark, isMark⟩, ⟨first, isWord⟩, some (⟨t, equals⟩, fillerWord)⟩, _, rfl, filler_word,
      trivial⟩

/-- What reading gives, with the tokens left put apart. -/
def Reading.of (value : Node × PrefixTable) (rest : List Token) : Reading :=
  ⟨value.1, value.2, rest⟩

/-- Reading a clause from at most `n` tokens is steady. -/
def ClausesSteady (src : Source) (n : Nat) : Prop :=
  ∀ (scope : IndexScope) (table : PrefixTable) (ts : List Token), ts.length ≤ n →
    Steady src Reading.of (Raised src ViableClause) (src.readClause scope table) ts

/-- Reading a chain from at most `n` tokens is steady. -/
def ChainsSteady (src : Source) (n : Nat) : Prop :=
  ∀ (scope : IndexScope) (table : PrefixTable) (left : Node) (ts : List Token), ts.length ≤ n →
    Steady src Reading.of (Raised src ViableChain) (src.readChain scope table left) ts

/-- Reading a query from at most `n` tokens is steady. -/
def QueriesSteady (src : Source) (n : Nat) : Prop :=
  ∀ (scope : IndexScope) (table : PrefixTable) (ts : List Token), ts.length ≤ n →
    Steady src Reading.of (Raised src ViableQuery) (src.readQuery scope table) ts

/-- What a clause is read from is the tokens of a phrase. -/
theorem phrase_of_readClause {scope : IndexScope} {table : PrefixTable} {ts : List Token}
    {r : Reading} (h : src.readClause scope table ts = .ok r) :
    ∃ c : ClausePhrase, ts = c.tokens ++ r.rest ∧ c.Greedy r.rest := by
  obtain ⟨c, tokens, greedy, -, -⟩ :=
    (all_arePhrases src ts.length).1 scope table ts r (Nat.le_refl _) h
  exact ⟨c, tokens, greedy⟩

theorem queriesSteady {n : Nat} (clauses : ClausesSteady src n) (chains : ChainsSteady src n) :
    QueriesSteady src n := by
  intro scope table ts bound
  rw [funext (src.readQuery_eq scope table)]
  refine .bind ((clauses scope table ts bound).within (by simp) ?_) ?_
  · intro read rest _ viable
    exact viable.query
  · intro value read rest split taken
    have shorter : rest.length < ts.length := src.readClause_length scope table taken
    obtain ⟨c, tokens, greedy⟩ := phrase_of_readClause taken
    obtain rfl : read = c.tokens := List.append_cancel_right (split.symm.trans tokens)
    refine (chains scope value.2 value.1 rest (by omega)).within (by simp) ?_
    intro more rest' split' viable
    exact viable.query (split' ▸ greedy)

theorem steady_readChain_nil (scope : IndexScope) (table : PrefixTable) (left : Node) :
    Steady src Reading.of (Raised src ViableChain) (src.readChain scope table left) [] :=
  .take (left, table) (forall_head_nil.mpr (src.readChain_nil scope table left))

theorem chainsSteady_succ {n : Nat} (clauses : ClausesSteady src n) (chains : ChainsSteady src n) :
    ChainsSteady src (n + 1) := by
  intro scope table left ts bound
  cases ts with
  | nil => exact steady_readChain_nil scope table left
  | cons word after =>
    simp only [List.length_cons] at bound
    cases hop : word.operator? with
    | none =>
      exact .take (left, table)
        (forall_head_cons.mpr fun us => src.readChain_stop scope table left hop us)
    | some op =>
      have spelled : word.isOperator = true := by simp [Token.isOperator, hop]
      refine .cons (.congr (.bind ((steady_modifiers after).within (by simp) ?_) ?_) fun us _ =>
        src.readChain_join scope table left hop us)
      · intro read rest _ viable
        exact viable.chain ⟨word, spelled⟩
      · intro mods read operand split taken
        have fewer := Source.modifiers_length taken
        obtain ⟨ms, tokens, -, greedy, -⟩ := phrases_of_modifiers taken
        obtain rfl : read = modifierTokens ms := List.append_cancel_right (split.symm.trans tokens)
        refine .bind ((clauses scope table operand (by omega)).within
          (fun _ => ⟨word :: modifierTokens ms, rfl⟩) ?_) ?_
        · intro more rest split' viable
          exact viable.chain ⟨word, spelled⟩ (split' ▸ greedy)
        · intro right read rest split' taken'
          have shorter : rest.length < operand.length := src.readClause_length scope table taken'
          obtain ⟨c, tokens', greedy'⟩ := phrase_of_readClause taken'
          obtain rfl : read = c.tokens := List.append_cancel_right (split'.symm.trans tokens')
          refine (chains scope right.2 (.boolean (Source.connective op word mods) left right.1) rest
            (by omega)).within (fun _ => ⟨word :: (modifierTokens ms ++ c.tokens), by simp⟩) ?_
          intro more rest' split'' viable
          subst split''
          exact viable.chain ⟨word, spelled⟩ (split' ▸ greedy) greedy'

theorem steady_closeGroup (opening : Token) (value : Node × PrefixTable) (ts : List Token) :
    Steady src Reading.of (fun read e => read = [] ∧ e.query = some src.query ∧
        e.kind = .missingClosingParen ∧ e.lookahead ≠ .closeParen ∧ e.position = opening.start)
      (fun us => src.closeGroup opening (.of value us)) ts := by
  have found : (src.fail .missingClosingParen opening.start ts).FoundAt src ts :=
    ⟨rfl, rfl, fun other => absurd rfl other⟩
  cases ts with
  | nil =>
    have other : TokenKind.finish ≠ .closeParen := nofun
    exact .refuse ⟨rfl, rfl, rfl, other, rfl⟩ found (forall_head_nil.mpr rfl)
  | cons closing ts =>
    by_cases closes : closing.kind = .closeParen
    · refine .cons (.take value ?_)
      intro us _
      simp [Source.closeGroup, Reading.of, closes]
    · refine .refuse ⟨rfl, rfl, rfl, closes, rfl⟩ found (forall_head_cons.mpr ?_)
      intro us
      simp [Source.closeGroup, Reading.of, closes, Source.fail, Source.look]

theorem steady_group {n : Nat} (queries : QueriesSteady src n) (scope : IndexScope)
    (table : PrefixTable) {opening : Token} (opens : opening.kind = .openParen) {ts : List Token}
    (bound : ts.length ≤ n) :
    Steady src Reading.of (Raised src ViableClause) (src.readClause scope table)
      (opening :: ts) := by
  have isOpening : opening.isKind .openParen = true := by simp [Token.isKind, opens]
  refine .cons (.congr (.bind ((queries { scope with start := none } table ts bound).within
    (by simp) ?_) ?_) fun us _ => src.readClause_group scope table opens us)
  · intro read rest _ viable
    exact viable.group ⟨opening, isOpening⟩
  · intro value read rest split taken
    obtain ⟨q, tokens, greedy, -⟩ := phrase_of_readQuery taken
    obtain rfl : read = q.tokens := List.append_cancel_right (split.symm.trans tokens)
    apply (steady_closeGroup opening value rest).mono
    rintro _ _ e - ⟨rfl, query, kind, lookahead, position⟩
    rw [List.append_nil]
    exact ⟨(QueryPhrase.viable greedy).group ⟨opening, isOpening⟩, query,
      .inr ⟨kind, lookahead, [], ⟨opening, isOpening⟩, q, rfl, position⟩⟩

theorem steady_declared {n : Nat} (queries : QueriesSteady src n) (scope : IndexScope)
    (table : PrefixTable) {mark : Token} (isMark : mark.isComparison ">" = true) {ts : List Token}
    (bound : ts.length ≤ n) :
    Steady src Reading.of (Raised src ViableClause) (src.readClause scope table) (mark :: ts) := by
  refine .cons (.congr (.bind ((steady_declaration isMark table ts).within (by simp) ?_) ?_)
    fun us _ => src.readClause_declaration scope table isMark us)
  · intro read rest _ viable
    exact viable.clause
  · intro declared read rest split taken
    have fewer := Source.declaration_length taken
    obtain ⟨d, tokens, -⟩ := phrase_of_declaration isMark taken
    have same : mark :: read = d.tokens :=
      List.append_cancel_right (by rw [← tokens, split, List.cons_append])
    refine (queries scope declared rest (by omega)).within (fun _ => ⟨mark :: read, rfl⟩) ?_
    intro more _ _ viable
    rw [← List.cons_append, same]
    exact viable.declared d

theorem steady_indexed {n : Nat} (clauses : ClausesSteady src n) (scope : IndexScope)
    (table : PrefixTable) {name relation : Token} (isWord : name.isWord = true)
    (isRelation : relation.isRelation = true) {ts : List Token} (bound : ts.length ≤ n) :
    Steady src Reading.of (Raised src ViableClause) (src.readClause scope table)
      (name :: relation :: ts) := by
  have related := wordOrComparison_of_isRelation isRelation
  refine .cons (.cons (.congr (.bind ((steady_modifiers ts).within
    (fun _ => ⟨[name, relation], rfl⟩) ?_) ?_) fun us _ =>
    src.readClause_index scope table isWord isRelation us))
  · intro read rest _ viable
    exact viable.indexed ⟨name, isWord⟩ ⟨relation, related⟩
  · intro mods read rest split taken
    have fewer := Source.modifiers_length taken
    obtain ⟨ms, tokens, -, greedy, -⟩ := phrases_of_modifiers taken
    obtain rfl : read = modifierTokens ms := List.append_cancel_right (split.symm.trans tokens)
    refine (clauses (Source.indexScope name relation mods) table rest (by omega)).within
      (fun _ => ⟨name :: relation :: modifierTokens ms, rfl⟩) ?_
    intro more rest' split' viable
    exact viable.indexed ⟨name, isWord⟩ ⟨relation, related⟩ (split' ▸ greedy)

theorem steady_term (scope : IndexScope) (table : PrefixTable) {word : Token}
    (isWord : word.isWord = true) {ts : List Token}
    (stops : ts.head?.any Token.isRelation = false) :
    Steady src Reading.of (Raised src ViableClause) (src.readClause scope table) (word :: ts) := by
  refine .cons (.congr (.bind ((steady_modifiers ts).within (by simp) ?_) ?_) fun us next =>
    src.readClause_term scope table isWord (next ▸ stops))
  · intro read rest _ viable
    exact viable.term ⟨word, isWord⟩
  · intro mods _ _ _ _
    exact .take (.clause (src.termClause scope table word mods), table) fun us _ => rfl

theorem steady_readClause_nil (scope : IndexScope) (table : PrefixTable) :
    Steady src Reading.of (Raised src ViableClause) (src.readClause scope table) [] := by
  exact .refuse ⟨viableClause_nil, rfl, .inl rfl⟩ (src.foundAt_failHere .invalidClause [])
    (forall_head_nil.mpr (src.readClause_nil scope table))

theorem clausesSteady_succ {n : Nat} (clauses : ClausesSteady src n)
    (queries : QueriesSteady src n) : ClausesSteady src (n + 1) := by
  intro scope table ts bound
  cases ts with
  | nil => exact steady_readClause_nil scope table
  | cons first after =>
    simp only [List.length_cons] at bound
    by_cases opens : first.kind = .openParen
    · exact steady_group queries scope table opens (by omega)
    · cases isWord : first.isWord with
      | true =>
        -- Only the next token is looked at, and it is the same for all that may follow.
        cases follows : after.head?.any Token.isRelation with
        | false => exact steady_term scope table isWord follows
        | true =>
          cases after with
          | nil => cases follows
          | cons relation tail =>
            simp only [List.length_cons] at bound
            exact steady_indexed clauses scope table isWord follows (by omega)
      | false =>
        cases mark : first.isComparison ">" with
        | true => exact steady_declared queries scope table mark (by omega)
        | false =>
          refine .refuse ⟨viableClause_nil, rfl, .inl rfl⟩
            (src.foundAt_failHere .invalidClause (first :: after)) (forall_head_cons.mpr ?_)
          exact fun us => src.readClause_other scope table opens isWord mark us

theorem all_steady (src : Source) (n : Nat) : ClausesSteady src n ∧ ChainsSteady src n := by
  induction n with
  | zero =>
    constructor
    · intro scope table ts bound
      obtain rfl := List.length_eq_zero_iff.mp (Nat.le_zero.mp bound)
      exact steady_readClause_nil scope table
    · intro scope table left ts bound
      obtain rfl := List.length_eq_zero_iff.mp (Nat.le_zero.mp bound)
      exact steady_readChain_nil scope table left
  | succ n ih =>
    obtain ⟨clauses, chains⟩ := ih
    exact ⟨clausesSteady_succ clauses (queriesSteady clauses chains),
      chainsSteady_succ clauses chains⟩

/-- Reading a whole query fails with the error after the tokens `read`, unless there are none. -/
structure RaisedByQuery (src : Source) (read : List Token) (e : QueryError) : Prop where
  viable : ViableQuery read
  query : e.query = some src.query
  cause : e.kind.isLocal = true ∨ e.IsUnclosed read ∨
    e.kind = .trailingInput ∧ ∃ q : QueryPhrase, read = q.tokens

theorem steady_endQuery (value : Node × PrefixTable) (ts : List Token) :
    Steady src (fun n _ => n) (fun read e => read = [] ∧ e.query = some src.query ∧
        (e.kind.isLocal = true ∨ e.kind = .trailingInput))
      (fun us => src.endQuery (.of value us)) ts := by
  cases ts with
  | nil => exact .take value.1 (forall_head_nil.mpr rfl)
  | cons t ts =>
    by_cases unclosed : t.kind = .unterminated
    · refine .refuse (e := { src.failHere .invalidClause (t :: ts) with
        message := "invalid search clause: unterminated quoted string" })
        ⟨rfl, rfl, .inl rfl⟩ ⟨rfl, rfl, fun _ _ => rfl⟩ (forall_head_cons.mpr ?_)
      intro us
      simp [Source.endQuery, Reading.of, unclosed, Source.failHere, Source.fail, Source.look]
    · refine .refuse ⟨rfl, rfl, .inr rfl⟩ (src.foundAt_failHere .trailingInput (t :: ts))
        (forall_head_cons.mpr ?_)
      intro us
      simp [Source.endQuery, Reading.of, unclosed, Source.failHere, Source.fail, Source.look]

theorem steady_query (src : Source) {ts : List Token} (given : ts ≠ []) :
    Steady src (fun n _ => n) (RaisedByQuery src) src.parseAll ts := by
  obtain ⟨clauses, chains⟩ := all_steady src ts.length
  have queries := queriesSteady clauses chains
  have same (us : List Token) (head : us.head? = ts.head?) : us ≠ [] := by
    rintro rfl
    exact given (List.head?_eq_none_iff.mp head.symm)
  refine .congr (.bind ((queries (.ofChoice src.choice) .empty ts (Nat.le_refl _)).mono ?_) ?_)
    fun us head => src.parseAll_eq (same us head)
  · rintro read rest e - ⟨viable, query, isLocal | unclosed⟩
    · exact ⟨viable, query, .inl isLocal⟩
    · exact ⟨viable, query, .inr (.inl unclosed)⟩
  · -- What is left after a complete query can be wrong, and the query is viable as it stands.
    intro value read rest split taken
    obtain ⟨q, tokens, greedy, -⟩ := phrase_of_readQuery taken
    obtain rfl : read = q.tokens := List.append_cancel_right (split.symm.trans tokens)
    apply (steady_endQuery value rest).mono
    rintro _ _ e - ⟨rfl, query, isLocal | trailing⟩
    · rw [List.append_nil]
      exact ⟨QueryPhrase.viable greedy, query, .inl isLocal⟩
    · rw [List.append_nil]
      exact ⟨QueryPhrase.viable greedy, query, .inr (.inr ⟨trailing, q, rfl⟩)⟩

/-- Reading a whole query, or none, fails only after viable tokens, in the same way whatever follows
the next token. -/
theorem steady_parseAll (src : Source) (ts : List Token) :
    ∃ read rest, ts = read ++ rest ∧ (Takes (fun n _ => n) src.parseAll read rest ∨
      ViableQuery read ∧ ∃ kind, ∀ us : List Token, us.head? = rest.head? →
        ∃ e, src.parseAll (read ++ us) = .error e ∧ e.kind = kind ∧ e.FoundAt src us) := by
  cases ts with
  | nil =>
    refine ⟨[], [], rfl, .inr ⟨viableClause_nil.query, .emptyInput, forall_head_nil.mpr ?_⟩⟩
    exact ⟨_, rfl, rfl, rfl, rfl, fun _ other => absurd rfl other⟩
  | cons t ts =>
    obtain ⟨read, rest, split, takes | ⟨e, raised, found, refuses⟩⟩ :=
      steady_query src (List.cons_ne_nil t ts)
    · exact ⟨read, rest, split, .inl takes⟩
    · refine ⟨read, rest, split, .inr ⟨raised.viable, e.kind, ?_⟩⟩
      intro us head
      exact ⟨e, refuses us head, rfl, found.of_head head⟩

end ContextualQuery
