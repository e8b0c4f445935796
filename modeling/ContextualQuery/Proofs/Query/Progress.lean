import ContextualQuery.Proofs.Query.Budget
import ContextualQuery.Proofs.Query.Derivation

/-!
# Reading makes progress and ends

Reading from a stream within a budget is followed side by side with reading a list of tokens. The
two give the same, unless the budget is used up; and as every production takes a token of its own,
or calls one that does, a budget linear in the number of tokens is not.

* `Follows`: a reader of streams gives what a reader of lists gives, or has run out of its budget;
* `follows_modifiersWithin`, `all_follow`: every production follows its twin on lists, and two units
  for each token, and one or two more, are enough for it;
* `follows_parseWithin`: so does reading a whole query;
* `Source.Progresses`: an answer that takes at least one token, whenever the budget is enough;
* `parse_progresses`: tokens, productions and rounds of loops all move on, and so reading ends.
-/
namespace ContextualQuery

/-- What a reader of streams gives is, seen through `view`, what a reader of lists gives, or else its
budget has run out and was not `enough`. -/
inductive Follows {α β : Type} (enough : Prop) (view : α → β) :
    Except Halt α → Except QueryError β → Prop where
  | ok (a : α) : Follows enough view (.ok a) (.ok (view a))
  | error (e : QueryError) : Follows enough view (.error (.error e)) (.error e)
  | exhausted (short : ¬ enough) (y : Except QueryError β) :
      Follows enough view (.error .exhausted) y

namespace Follows

variable {α β γ δ : Type} {enough : Prop} {view : α → β} {view' : γ → δ} {x : Except Halt α}
  {y : Except QueryError β}

theorem mono (h : Follows enough view x y) {enough' : Prop} (weaker : enough' → enough) :
    Follows enough' view x y := by
  cases h with
  | ok a => exact .ok a
  | error e => exact .error e
  | exhausted short y => exact .exhausted (fun holds => short (weaker holds)) y

theorem bind (h : Follows enough view x y) {f : α → Except Halt γ}
    {g : β → Except QueryError δ}
    (next : ∀ a, y = .ok (view a) → Follows enough view' (f a) (g (view a))) :
    Follows enough view' (x.bind f) (y.bind g) := by
  cases h with
  | ok a => exact next a rfl
  | error e => exact .error e
  | exhausted short y => exact .exhausted short _

theorem eq_ok (h : Follows enough view x y) {a : α} (given : x = .ok a) : y = .ok (view a) := by
  subst given
  cases h with
  | ok => rfl

theorem map_eq (h : Follows enough view x y) (holds : enough) :
    x.map view = y.mapError Halt.error := by
  cases h with
  | ok a => rfl
  | error e => rfl
  | exhausted short y => exact absurd holds short

end Follows

def TokenStream.listed {α : Type} {query : String} (p : α × TokenStream query) : α × List Token :=
  (p.1, p.2.pending)

namespace Source

variable {src : Source}

theorem look_pending (s : TokenStream src.query) : src.look s.pending = s.look := by
  by_cases ends : s.look.kind = .finish
  · rw [TokenStream.pending_of_finish ends, TokenStream.look_of_finish ends, look]
  · rw [TokenStream.pending_cons ends, look]

theorem failHere_pending (kind : ErrorKind) (s : TokenStream src.query) :
    src.failHere kind s.pending = .atToken kind s.look.start src.query s.look := by
  rw [failHere, fail, look_pending]

theorem kind_ne_finish_of_isWord {t : Token} (h : t.isWord = true) : t.kind ≠ .finish := by
  intro ends
  simp [Token.isWord, ends] at h

theorem kind_ne_finish_of_isComparison {t : Token} {symbol : String}
    (h : t.isComparison symbol = true) : t.kind ≠ .finish := by
  intro ends
  simp [Token.isComparison, ends] at h

theorem follows_wordFrom {enough : Prop} (kind : ErrorKind) (s : TokenStream src.query) :
    Follows enough TokenStream.listed (src.wordFrom kind s) (src.word kind s.pending) := by
  by_cases isWord : s.look.isWord = true
  · rw [wordFrom, if_pos isWord, TokenStream.pending_cons (kind_ne_finish_of_isWord isWord),
      word_cons isWord]
    exact .ok (s.look, s.advance)
  · have refused : src.word kind s.pending = .error (src.failHere kind s.pending) := by
      obtain none | more := s.pending_nil_or_cons
      · rw [none, word]
      · rw [more, word, if_neg isWord]
    rw [wordFrom, if_neg isWord, refused, failHere_pending]
    exact .error _

/-- A mark that may be left out, and the word that has to follow it. -/
theorem follows_optional {α : Type} {enough : Prop} {p : Token → Prop} [DecidablePred p]
    (visible : ∀ t : Token, p t → t.kind ≠ .finish) (kind : ErrorKind)
    (reader : List Token → Except QueryError (α × List Token)) (absent : α)
    (present : Token → Token → α) (nil : reader [] = .ok (absent, []))
    (other : ∀ t us, ¬ p t → reader (t :: us) = .ok (absent, t :: us))
    (mark : ∀ t us, p t → reader (t :: us) =
      (src.word kind us).bind fun (word, rest) => .ok (present t word, rest))
    (s : TokenStream src.query) :
    Follows enough TokenStream.listed
      (if p s.look then
        (src.wordFrom kind s.advance).bind fun (word, rest) => .ok (present s.look word, rest)
      else .ok (absent, s))
      (reader s.pending) := by
  by_cases marks : p s.look
  · rw [if_pos marks, TokenStream.pending_cons (visible _ marks), mark _ _ marks]
    apply (follows_wordFrom kind s.advance).bind
    intro a _
    exact .ok (present s.look a.1, a.2)
  · have left : reader s.pending = .ok (absent, s.pending) := by
      obtain none | more := s.pending_nil_or_cons
      · rw [none, nil]
      · rw [more, other _ _ marks]
    rw [if_neg marks, left]
    exact .ok (absent, s)

theorem follows_modifierFrom {enough : Prop} (s : TokenStream src.query) :
    Follows enough TokenStream.listed (src.modifierFrom s)
      (src.modifier s.look s.advance.pending) := by
  rw [modifier_eq]
  apply (follows_wordFrom .invalidModifier s.advance).bind
  rintro ⟨name, t⟩ -
  refine follows_optional (p := fun u => u.kind = .comparison) ?_ .invalidModifierRelation
    (src.setting s.look name) (flagAt s.look name) (fun relation value => { flagAt s.look name with
      relation := relation.text, value := value.text
      range := some ⟨s.look.start, value.stop⟩ }) rfl ?_ ?_ t
  · intro u comparison
    simp [comparison]
  · intro u us other
    rw [setting, if_neg other]
  · intro u us comparison
    rw [setting, if_pos comparison]

theorem follows_declarationFrom {enough : Prop} (table : PrefixTable) (s : TokenStream src.query) :
    Follows enough TokenStream.listed (src.declarationFrom table s)
      (src.declaration table s.advance.pending) := by
  rw [declaration_eq]
  apply (follows_wordFrom .expectedWord s.advance).bind
  rintro ⟨first, t⟩ -
  refine follows_optional (p := fun u => u.isComparison "=" = true) ?_ .expectedWord
    (src.binding table first) _ (fun _ uri => table.insert first.text uri.text) rfl ?_ ?_ t
  · intro u equals
    exact kind_ne_finish_of_isComparison equals
  · intro u us other
    rw [binding, if_neg other]
  · intro u us equals
    rw [binding, if_pos equals]

/-- Each modifier takes a slash and a word, so the number of tokens bounds that of the rounds. -/
theorem follows_modifiersWithin (n : Nat) (s : TokenStream src.query) :
    Follows (s.pending.length + 1 ≤ n) TokenStream.listed (src.modifiersWithin n s)
      (src.modifiers s.pending) := by
  induction n generalizing s with
  | zero => exact .exhausted (by omega) _
  | succ n ih =>
    by_cases slash : s.look.kind = .slash
    · have more : s.pending = s.look :: s.advance.pending :=
        TokenStream.pending_cons (by simp [slash])
      rw [modifiersWithin, if_pos slash, more, modifiers_slash src slash]
      apply (follows_modifierFrom s).bind
      rintro ⟨m, t⟩ read
      have fewer : t.pending.length < s.advance.pending.length := modifier_length read
      refine ((ih t).mono ?_).bind ?_
      · rw [List.length_cons]
        omega
      · intro rest _
        exact .ok (m :: rest.1, rest.2)
    · have stops : s.pending.head?.any (·.kind == .slash) = false :=
        TokenStream.head?_pending (by simpa using slash)
      rw [modifiersWithin, if_neg slash, modifiers_stop src stops]
      exact .ok ([], s)

/-- One round of the loop over operators: the modifiers of the operator `word`, its right operand,
and the node they make with what was read before. -/
def readJoin (src : Source) (scope : IndexScope) (op : BooleanOp) (word : Token)
    (table : PrefixTable) (left : Node) (after : List Token) : Except QueryError Reading :=
  (src.modifiers after).bind fun (ms, operand) =>
    (src.readClause scope table operand).bind fun right =>
      .ok { right with node := .boolean (connective op word ms) left right.node }

/-- A chain goes round by round. -/
theorem readChain_round (scope : IndexScope) (table : PrefixTable) (left : Node) {word : Token}
    {op : BooleanOp} (h : word.operator? = some op) (after : List Token) :
    src.readChain scope table left (word :: after) =
      (src.readJoin scope op word table left after).bind fun r =>
        src.readChain scope r.table r.node r.rest := by
  rw [readChain_join src scope table left h, readJoin]
  cases src.modifiers after with
  | error e => rfl
  | ok read =>
    obtain ⟨ms, operand⟩ := read
    simp only [Except.bind]
    cases src.readClause scope table operand <;> rfl

/-- A round takes the operator and a clause. -/
theorem readJoin_length {scope : IndexScope} {op : BooleanOp} {word : Token} {table : PrefixTable}
    {left : Node} {after : List Token} {r : Reading}
    (h : src.readJoin scope op word table left after = .ok r) : r.rest.length < after.length := by
  obtain ⟨⟨ms, operand⟩, read, h⟩ := Except.bind_eq_ok_iff.mp h
  obtain ⟨right, read', h⟩ := Except.bind_eq_ok_iff.mp h
  cases h
  have fewer := modifiers_length read
  have shorter := src.readClause_length scope table read'
  dsimp only at shorter ⊢
  omega

variable (src)

/-- Within `n` units every clause follows its twin, and two for each token and one are enough. -/
def ClausesFollow (n : Nat) : Prop :=
  ∀ (scope : IndexScope) (table : PrefixTable) (s : TokenStream src.query),
    Follows (2 * s.pending.length + 1 ≤ n) StreamReading.reading
      (src.clauseWithin n scope table s) (src.readClause scope table s.pending)

/-- Within `n` units every query follows its twin, and two for each token and two are enough. -/
def QueriesFollow (n : Nat) : Prop :=
  ∀ (scope : IndexScope) (table : PrefixTable) (s : TokenStream src.query),
    Follows (2 * s.pending.length + 2 ≤ n) StreamReading.reading
      (src.queryWithin n scope table s) (src.readQuery scope table s.pending)

/-- Within `n` units every chain follows its twin, and two for each token and one are enough. -/
def ChainsFollow (n : Nat) : Prop :=
  ∀ (scope : IndexScope) (left : StreamReading src.query),
    Follows (2 * left.rest.pending.length + 1 ≤ n) StreamReading.reading
      (src.chainWithin n scope left)
      (src.readChain scope left.table left.node left.rest.pending)

/-- Within `n` units every round of a chain follows its twin, and two for each token are enough. -/
def JoinsFollow (n : Nat) : Prop :=
  ∀ (scope : IndexScope) (op : BooleanOp) (left : StreamReading src.query),
    left.rest.look.operator? = some op →
    Follows (2 * left.rest.pending.length ≤ n) StreamReading.reading
      (src.joinWithin n scope op left)
      (src.readJoin scope op left.rest.look left.table left.node left.rest.advance.pending)

/-- Within `n` units every declaration with its query follows its twin, and two for each token are
enough. -/
def DeclaredFollow (n : Nat) : Prop :=
  ∀ (scope : IndexScope) (table : PrefixTable) (s : TokenStream src.query),
    s.look.isComparison ">" = true →
    Follows (2 * s.pending.length ≤ n) StreamReading.reading
      (src.declaredWithin n scope table s) (src.readClause scope table s.pending)

/-- Within `n` units every production follows its twin. -/
structure AllFollow (n : Nat) : Prop where
  queries : QueriesFollow src n
  chains : ChainsFollow src n
  joins : JoinsFollow src n
  clauses : ClausesFollow src n
  declared : DeclaredFollow src n

variable {src}

theorem pending_of_operator {s : TokenStream src.query} {op : BooleanOp}
    (h : s.look.operator? = some op) : s.pending = s.look :: s.advance.pending := by
  apply TokenStream.pending_cons
  rw [kind_eq_bareword_of_operator? h]
  simp

/-- With no budget nothing is read, and no budget is not enough. -/
theorem allFollow_zero : AllFollow src 0 where
  queries _ _ _ := .exhausted (by omega) _
  chains _ _ := .exhausted (by omega) _
  joins _ _ _ operator := .exhausted (by simp [pending_of_operator operator]) _
  clauses _ _ _ := .exhausted (by omega) _
  declared _ _ s mark := .exhausted
    (by simp [TokenStream.pending_cons (kind_ne_finish_of_isComparison mark)]) _

theorem queriesFollow_succ {n : Nat} (clauses : ClausesFollow src n) (chains : ChainsFollow src n) :
    QueriesFollow src (n + 1) := by
  intro scope table s
  rw [queryWithin, readQuery_eq]
  refine ((clauses scope table s).mono (by omega)).bind ?_
  intro first read
  have shorter : first.rest.pending.length < s.pending.length :=
    src.readClause_length scope table read
  exact (chains scope first).mono (by omega)

theorem chainsFollow_succ {n : Nat} (joins : JoinsFollow src n) (chains : ChainsFollow src n) :
    ChainsFollow src (n + 1) := by
  intro scope left
  rw [chainWithin]
  cases operator : left.rest.look.operator? with
  | none =>
    have stops : src.readChain scope left.table left.node left.rest.pending =
        .ok left.reading := by
      obtain none | more := left.rest.pending_nil_or_cons
      · rw [StreamReading.reading, none, readChain_nil]
      · rw [StreamReading.reading, more,
          readChain_stop src scope left.table left.node operator]
    rw [stops]
    exact .ok left
  | some op =>
    have more := pending_of_operator operator
    rw [more, readChain_round scope left.table left.node operator, List.length_cons]
    have length := congrArg List.length more
    rw [List.length_cons] at length
    refine ((joins scope op left operator).mono (by omega)).bind ?_
    intro r read
    have shorter : r.rest.pending.length < left.rest.advance.pending.length :=
      readJoin_length read
    exact (chains scope r).mono (by omega)

theorem joinsFollow_succ {n : Nat} (clauses : ClausesFollow src n) : JoinsFollow src (n + 1) := by
  intro scope op left operator
  have length := congrArg List.length (pending_of_operator operator)
  rw [List.length_cons] at length
  rw [joinWithin, readJoin]
  refine ((follows_modifiersWithin n left.rest.advance).mono (by omega)).bind ?_
  rintro ⟨ms, operand⟩ read
  have fewer : operand.pending.length ≤ left.rest.advance.pending.length := modifiers_length read
  refine ((clauses scope left.table operand).mono (by omega)).bind ?_
  intro right _
  exact .ok { right with node := .boolean (connective op left.rest.look ms) left.node right.node }

theorem follows_groupEndFrom {enough : Prop} (opening : Token) (inner : StreamReading src.query) :
    Follows enough StreamReading.reading (src.groupEndFrom opening inner)
      (src.closeGroup opening inner.reading) := by
  by_cases closes : inner.rest.look.kind = .closeParen
  · have more : inner.rest.pending = inner.rest.look :: inner.rest.advance.pending :=
      TokenStream.pending_cons (by simp [closes])
    rw [groupEndFrom, if_pos closes, closeGroup, StreamReading.reading, more]
    dsimp only
    rw [if_pos closes]
    exact .ok { inner with rest := inner.rest.advance }
  · have refused : src.closeGroup opening inner.reading =
        .error (src.fail .missingClosingParen opening.start inner.rest.pending) := by
      rw [closeGroup, StreamReading.reading]
      obtain none | more := inner.rest.pending_nil_or_cons
      · rw [none]
      · rw [more]
        dsimp only
        rw [if_neg closes]
    rw [groupEndFrom, if_neg closes, refused, fail, look_pending]
    exact .error _

/-- A clause that starts with a word: an index if a relation comes next, else a term. -/
theorem follows_word {n : Nat} (clauses : ClausesFollow src n) (scope : IndexScope)
    (table : PrefixTable) (s : TokenStream src.query) (isWord : s.look.isWord = true) :
    Follows (2 * s.pending.length + 1 ≤ n + 1) StreamReading.reading
      (if s.advance.look.isRelation then
        (src.modifiersWithin n s.advance.advance).bind fun (ms, inner) =>
          src.clauseWithin n (indexScope s.look s.advance.look ms) table inner
      else
        (src.modifiersWithin n s.advance).bind fun (ms, rest) =>
          .ok ⟨.clause (src.termClause scope table s.look ms), table, rest⟩)
      (src.readClause scope table s.pending) := by
  rw [TokenStream.pending_cons (kind_ne_finish_of_isWord isWord), List.length_cons]
  by_cases relation : s.advance.look.isRelation = true
  · have more : s.advance.pending = s.advance.look :: s.advance.advance.pending := by
      apply TokenStream.pending_cons
      intro ends
      simp [Token.isRelation, ends] at relation
    rw [if_pos relation, more, readClause_index src scope table isWord relation, List.length_cons]
    refine ((follows_modifiersWithin n s.advance.advance).mono (by omega)).bind ?_
    rintro ⟨ms, inner⟩ read
    have fewer : inner.pending.length ≤ s.advance.advance.pending.length := modifiers_length read
    exact (clauses (indexScope s.look s.advance.look ms) table inner).mono (by omega)
  · have stops : s.advance.pending.head?.any Token.isRelation = false :=
      TokenStream.head?_pending (by simpa using relation)
    rw [if_neg relation, readClause_term src scope table isWord stops]
    refine ((follows_modifiersWithin n s.advance).mono (by omega)).bind ?_
    rintro ⟨ms, rest⟩ -
    exact .ok (StreamReading.mk (.clause (src.termClause scope table s.look ms)) table rest)

theorem clausesFollow_succ {n : Nat} (queries : QueriesFollow src n) (clauses : ClausesFollow src n)
    (declared : DeclaredFollow src n) : ClausesFollow src (n + 1) := by
  intro scope table s
  rw [clauseWithin]
  by_cases opens : s.look.kind = .openParen
  · have more : s.pending = s.look :: s.advance.pending :=
      TokenStream.pending_cons (by simp [opens])
    rw [if_pos opens, more, readClause_group src scope table opens, List.length_cons]
    refine ((queries { scope with start := none } table s.advance).mono (by omega)).bind ?_
    intro inner _
    exact follows_groupEndFrom s.look inner
  · rw [if_neg opens]
    by_cases isWord : s.look.isWord = true
    · rw [if_pos isWord]
      exact follows_word clauses scope table s isWord
    · rw [if_neg isWord]
      by_cases mark : s.look.isComparison ">" = true
      · rw [if_pos mark]
        exact (declared scope table s mark).mono (by omega)
      · have refused : src.readClause scope table s.pending =
            .error (src.failHere .invalidClause s.pending) := by
          obtain none | more := s.pending_nil_or_cons
          · rw [none, readClause_nil]
          · rw [more, readClause_other src scope table opens
              (by simpa using isWord) (by simpa using mark)]
        rw [if_neg mark, refused, failHere_pending]
        exact .error _

theorem declaredFollow_succ {n : Nat} (queries : QueriesFollow src n) :
    DeclaredFollow src (n + 1) := by
  intro scope table s mark
  have more := TokenStream.pending_cons (kind_ne_finish_of_isComparison mark)
  rw [declaredWithin, more, readClause_declaration src scope table mark, List.length_cons]
  refine (follows_declarationFrom table s).bind ?_
  rintro ⟨declared, inner⟩ read
  have fewer : inner.pending.length < s.advance.pending.length := declaration_length read
  exact (queries scope declared inner).mono (by omega)

theorem all_follow (src : Source) (n : Nat) : AllFollow src n := by
  induction n with
  | zero => exact allFollow_zero
  | succ n ih =>
    exact {
      queries := queriesFollow_succ ih.clauses ih.chains
      chains := chainsFollow_succ ih.joins ih.chains
      joins := joinsFollow_succ ih.clauses
      clauses := clausesFollow_succ ih.queries ih.clauses ih.declared
      declared := declaredFollow_succ ih.queries }

theorem follows_queryEndFrom {enough : Prop} (r : StreamReading src.query) :
    Follows enough id (src.queryEndFrom r) (src.endQuery r.reading) := by
  by_cases ends : r.rest.look.kind = .finish
  · rw [queryEndFrom, ends, endQuery, StreamReading.reading, TokenStream.pending_of_finish ends]
    exact .ok r.node
  · have more := TokenStream.pending_cons ends
    have failed (kind : ErrorKind) := src.failHere_pending kind r.rest
    rw [more] at failed
    by_cases opened : r.rest.look.kind = .unterminated
    · rw [queryEndFrom, opened, endQuery, StreamReading.reading, more]
      dsimp only
      rw [if_pos opened, failed]
      exact .error _
    · have refused : src.queryEndFrom r = .error (src.haltAt .trailingInput r.rest) := by
        unfold queryEndFrom
        split
        · contradiction
        · contradiction
        · rfl
      rw [refused, endQuery, StreamReading.reading, more]
      dsimp only
      rw [if_neg opened, failed]
      exact .error _

theorem follows_parseWithin (src : Source) (n : Nat) :
    Follows (2 * (tokenize src.query).length + 2 ≤ n) id
      (Node.parseWithin n src.query src.choice) (Node.parse src.query src.choice) := by
  have tokens := TokenStream.pending_start src.query
  unfold Node.parseWithin Node.parse
  dsimp only
  rw [← tokens]
  by_cases ends : (TokenStream.start src.query).look.kind = .finish
  · have failed := look_pending (TokenStream.start src.query)
    rw [TokenStream.pending_of_finish ends] at failed
    rw [if_pos ends, TokenStream.pending_of_finish ends, ← failed]
    exact .error _
  · have more : (TokenStream.start src.query).pending ≠ [] := by
      rw [TokenStream.pending_cons ends]
      simp
    rw [if_neg ends, parseAll_eq src more]
    refine ((all_follow src n).queries _ _ _).bind ?_
    intro r _
    exact follows_queryEndFrom r

/-- A reader of streams makes progress: whatever it gives is what a reader of lists gives and takes at
least one token from `s`, and with a budget that is `enough` it gives the same answer or error. -/
structure Progresses (enough : Prop) (s : TokenStream src.query)
    (given : Except Halt (StreamReading src.query)) (listed : Except QueryError Reading) : Prop where
  takes : ∀ r, given = .ok r → listed = .ok r.reading ∧ s.Consumes r.rest
  answers : enough → given.map StreamReading.reading = listed.mapError Halt.error

/-- A reader that follows one which leaves less than it was given makes progress. -/
theorem Progresses.of_follows {enough : Prop} {s : TokenStream src.query}
    {given : Except Halt (StreamReading src.query)} {listed : Except QueryError Reading}
    (follows : Follows enough StreamReading.reading given listed)
    (suffix : ∀ r, listed = .ok r → r.rest <:+ s.pending)
    (shorter : ∀ r, listed = .ok r → r.rest.length < s.pending.length) :
    Progresses enough s given listed := by
  refine ⟨?_, follows.map_eq⟩
  intro r read
  have same := follows.eq_ok read
  exact ⟨same, suffix _ same, shorter _ same⟩

theorem readClause_suffix {scope : IndexScope} {table : PrefixTable} {ts : List Token} {r : Reading}
    (h : src.readClause scope table ts = .ok r) : r.rest <:+ ts := by
  obtain ⟨c, tokens, -⟩ := (all_arePhrases src ts.length).1 scope table ts r (Nat.le_refl _) h
  exact ⟨c.tokens, tokens.symm⟩

theorem readQuery_suffix {scope : IndexScope} {table : PrefixTable} {ts : List Token} {r : Reading}
    (h : src.readQuery scope table ts = .ok r) : r.rest <:+ ts := by
  obtain ⟨q, tokens, -⟩ := phrase_of_readQuery h
  exact ⟨q.tokens, tokens.symm⟩

theorem readJoin_suffix {scope : IndexScope} {op : BooleanOp} {word : Token} {table : PrefixTable}
    {left : Node} {after : List Token} {r : Reading}
    (h : src.readJoin scope op word table left after = .ok r) : r.rest <:+ after := by
  obtain ⟨⟨ms, operand⟩, read, h⟩ := Except.bind_eq_ok_iff.mp h
  obtain ⟨right, read', h⟩ := Except.bind_eq_ok_iff.mp h
  cases h
  obtain ⟨phrases, tokens, -⟩ := phrases_of_modifiers read
  exact (readClause_suffix read').trans ⟨modifierTokens phrases, tokens.symm⟩

end Source

/-- Asking for a token moves on in the query until it has ended, and then gives the end again and
again at the same place. From any stream that reading can reach, every clause, query and declaration
that is read takes at least one token, and so does every round of the loops over operators and
modifiers. A budget that is linear in the number of tokens therefore never runs out, and the result
is that of reading without one. -/
theorem parse_progresses (src : Source) :
    (∀ cur : Cursor,
      (cur.next.1.kind ≠ .finish → cur.offset < cur.next.2.offset) ∧
      (cur.next.1.kind = .finish → ∀ n, (cur.next.2.after n).next = cur.next)) ∧
    (∀ (budget : Nat) (scope : IndexScope) (table : PrefixTable) (s : TokenStream src.query),
      Source.Progresses (2 * s.pending.length + 1 ≤ budget) s
        (src.clauseWithin budget scope table s) (src.readClause scope table s.pending) ∧
      Source.Progresses (2 * s.pending.length + 2 ≤ budget) s
        (src.queryWithin budget scope table s) (src.readQuery scope table s.pending) ∧
      (s.look.isComparison ">" = true →
        Source.Progresses (2 * s.pending.length ≤ budget) s
          (src.declaredWithin budget scope table s) (src.readClause scope table s.pending))) ∧
    (∀ (budget : Nat) (scope : IndexScope) (op : BooleanOp) (left r : StreamReading src.query),
      left.rest.look.operator? = some op → src.joinWithin budget scope op left = .ok r →
        left.rest.Consumes r.rest) ∧
    (∀ (s t : TokenStream src.query) (m : Modifier),
      s.look.kind = .slash → src.modifierFrom s = .ok (m, t) →
        src.modifier s.look s.advance.pending = .ok (m, t.pending) ∧ s.Consumes t) ∧
    ∀ budget : Nat, 2 * (tokenize src.query).length + 2 ≤ budget →
      Node.parseWithin budget src.query src.choice =
        (Node.parse src.query src.choice).mapError Halt.error := by
  refine ⟨fun _ => ⟨Cursor.offset_lt_next, Cursor.next_forever⟩, ?_, ?_, ?_, ?_⟩
  · intro budget scope table s
    obtain ⟨queries, -, -, clauses, declared⟩ := Source.all_follow src budget
    refine ⟨.of_follows (clauses scope table s) ?_ ?_, .of_follows (queries scope table s) ?_ ?_, ?_⟩
    · exact fun r => Source.readClause_suffix
    · exact fun r => src.readClause_length scope table
    · exact fun r => Source.readQuery_suffix
    · exact fun r => src.readQuery_length scope table
    · intro mark
      apply Source.Progresses.of_follows (declared scope table s mark)
      · exact fun r => Source.readClause_suffix
      · exact fun r => src.readClause_length scope table
  · intro budget scope op left r operator given
    have read := ((Source.all_follow src budget).joins scope op left operator).eq_ok given
    have shorter := Source.readJoin_length read
    rw [TokenStream.Consumes, Source.pending_of_operator operator]
    exact ⟨(Source.readJoin_suffix read).trans (List.suffix_cons _ _), Nat.lt_succ_of_lt shorter⟩
  · intro s t m slash given
    have read := (@Source.follows_modifierFrom src True s).eq_ok given
    have shorter := Source.modifier_length read
    obtain ⟨phrase, tokens, -⟩ := phrase_of_modifier slash read
    have more : s.pending = s.look :: s.advance.pending :=
      TokenStream.pending_cons (by simp [slash])
    rw [TokenStream.Consumes, more]
    exact ⟨read, ⟨phrase.tokens, tokens.symm⟩, Nat.lt_succ_of_lt shorter⟩
  · intro budget enough
    have same := (Source.follows_parseWithin src budget).map_eq enough
    rwa [Except.map_id] at same

/-- A group that is not closed: its first token is taken, and four tokens make ten units enough for
the error. -/
theorem parse_progresses_unclosed :
    (Cursor.ofQuery "(a or b").next.1.kind ≠ .finish ∧
      (Cursor.ofQuery "(a or b").offset < (Cursor.ofQuery "(a or b").next.2.offset ∧
      2 * (tokenize "(a or b").length + 2 ≤ 10 ∧
      Node.parseWithin 10 "(a or b" {} = (Node.parse "(a or b" {}).mapError Halt.error := by
  obtain ⟨asking, -, -, -, whole⟩ := parse_progresses ⟨"(a or b", {}⟩
  have more : (Cursor.ofQuery "(a or b").next.1.kind ≠ .finish := by decide +kernel
  have enough : 2 * (tokenize "(a or b").length + 2 ≤ 10 := by decide +kernel
  exact ⟨more, (asking _).1 more, enough, whole 10 enough⟩

/-- A single word takes a query, a clause and an empty list of modifiers, one inside the other. -/
example : (Node.parseWithin 2 "a" {}).toOption = none ∧
    (Node.parseWithin 3 "a" {}).toOption = (Node.parse "a" {}).toOption := by
  decide +kernel

end ContextualQuery
