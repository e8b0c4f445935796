import ContextualQuery.Proofs.Query.Grammar
import ContextualQuery.Proofs.Query.Viable
import ContextualQuery.Proofs.Token.Place

/-!
# Errors are found at the first wrong token

An error records the token that came next. The text before that token can still be completed to a
query, and no query starts with the tokens up to it.

* `Completable`, `Hopeless`: the two halves of this;
* `ViableQuery.completable`: viable tokens are completed by text;
* `parse_error_first`: both halves hold of every error.
-/
namespace ContextualQuery

/-- Some text after the first `p` bytes of a query makes them a query that can be read. -/
def Completable (query : String) (choice : ServerChoice) (p : Nat) : Prop :=
  ∃ before after completion : String, query = before ++ after ∧
    Text.byteSize before.toList = p ∧ ∃ n, Node.parse (before ++ completion) choice = .ok n

/-- Every query that starts with tokens of these kinds and texts fails to be read, with an error of
this kind. -/
def Hopeless (choice : ServerChoice) (kind : ErrorKind) (ts : List Token) : Prop :=
  ∀ query : String, ts.map Token.placeless <+: (tokenize query).map Token.placeless →
    ∃ e, Node.parse query choice = .error e ∧ e.kind = kind

theorem Filler.exists_text {more : List Token} (h : Filler more) :
    ∃ text : List Char, text.head?.all isDelimiter = true ∧
      spelling text = more.map Token.placeless := by
  induction more with
  | nil => exact ⟨[], rfl, spelling_nil⟩
  | cons t ts ih =>
    obtain ⟨text, -, spelled⟩ := ih fun u hu => h u (List.mem_cons_of_mem _ hu)
    obtain rfl | rfl := h t List.mem_cons_self
    · refine ⟨' ' :: ((quote "").toList ++ text), rfl, ?_⟩
      rw [spelling_blank rfl, spelling_quote, spelled]
      rfl
    · refine ⟨' ' :: ')' :: text, rfl, ?_⟩
      rw [spelling_blank rfl, spelling_separator rfl, spelled]
      rfl

/-- The text before a token can be completed if the tokens before it are viable. -/
theorem ViableQuery.completable {query : String} {read rest : List Token}
    (viable : ViableQuery read) (split : tokenize query = read ++ rest) (choice : ServerChoice) :
    Completable query choice (Source.look ⟨query, choice⟩ rest).start := by
  obtain ⟨q, more, tokens, filler, greedy⟩ := viable
  obtain ⟨q', tokens', greedy', settled'⟩ := q.rearrange .done greedy trivial trivial rfl
  rw [ChainPhrase.tokens, List.append_nil, tokens] at tokens'
  have closed : ∀ t ∈ read, t.kind ≠ .unterminated := by
    intro t ht
    exact q.closed (tokens ▸ List.mem_append_left _ ht)
  obtain ⟨before, after, chars, ends, place, spells⟩ := Cursor.tokens_cut split closed
  obtain ⟨text, delimits, spelled⟩ := filler.exists_text
  have alike : AlikeTokens (tokenize (String.ofList before ++ String.ofList text)) q'.tokens := by
    rw [AlikeTokens, tokenize_placeless, String.toList_append, String.toList_ofList,
      String.toList_ofList, spells text delimits, spelled, tokens', List.map_append]
  obtain ⟨n, parsed, -⟩ := q'.parse_of_alike greedy' settled' alike choice
  have whole : query.toList = before ++ after := chars
  refine ⟨.ofList before, .ofList after, .ofList text, ?_, ?_, n, parsed⟩
  · rw [← String.toList_inj, whole, String.toList_append, String.toList_ofList,
      String.toList_ofList]
  · rw [String.toList_ofList]
    cases rest with
    | nil =>
      obtain rfl := ends rfl
      rw [Source.look, Token.ofEnd, whole, List.append_nil]
    | cons t ts =>
      have start := place t rfl
      rw [Source.look, start]
      exact (Nat.zero_add _).symm

/-- Tokens that start alike are alike to some that start with the very same. -/
theorem exists_continuation {read : List Token} {t : Token} {ts : List Token}
    (h : (read ++ [t]).map Token.placeless <+: ts.map Token.placeless) :
    ∃ more, AlikeTokens (read ++ t :: more) ts := by
  obtain ⟨rest, same⟩ := h
  obtain ⟨front, more, rfl, fronts, -⟩ := List.map_eq_append_iff.mp same.symm
  refine ⟨more, ?_⟩
  have split : read ++ t :: more = (read ++ [t]) ++ more := by simp
  rw [AlikeTokens, split, List.map_append, ← fronts, List.map_append]

/-- Where reading fails whatever follows a token, it fails on all queries that start with the tokens
up to it. -/
theorem hopeless_of_parseAll (src : Source) {read : List Token} {t : Token} {kind : ErrorKind}
    (fails : ∀ more, ∃ e, src.parseAll (read ++ t :: more) = .error e ∧ e.kind = kind) :
    Hopeless src.choice kind (read ++ [t]) := by
  intro other starts
  obtain ⟨more, alike⟩ := exists_continuation starts
  obtain ⟨e, failed, rfl⟩ := fails more
  have agree : Agree (fun n m => n.withoutPositions = m.withoutPositions)
      (src.parseAll (read ++ t :: more)) (Node.parse other src.choice) :=
    agree_parseAll (by rfl) alike
  rw [failed] at agree
  cases parsed : Node.parse other src.choice with
  | ok n =>
    rw [parsed] at agree
    exact agree.elim
  | error e' =>
    rw [parsed] at agree
    exact ⟨e', rfl, agree.kind.symm⟩

/-- An error in reading a query is about a token of the query, or its end. The text before that
place can be completed to a query, and a query that starts with the tokens up to and including that
token cannot be read, with an error of the same kind. -/
theorem parse_error_first {query : String} {choice : ServerChoice} {e : QueryError}
    (h : Node.parse query choice = .error e) :
    ∃ read rest : List Token, tokenize query = read ++ rest ∧ e.FoundAt ⟨query, choice⟩ rest ∧
      Completable query choice (Source.look ⟨query, choice⟩ rest).start ∧
      ∀ t ∈ rest.head?, Hopeless choice e.kind (read ++ [t]) := by
  unfold Node.parse at h
  obtain ⟨read, rest, split, ⟨n, takes⟩ | ⟨viable, kind, refuses⟩⟩ :=
    steady_parseAll ⟨query, choice⟩ (tokenize query)
  · rw [split, takes rest rfl] at h
    cases h
  · obtain ⟨e', failed, rfl, found⟩ := refuses rest rfl
    obtain rfl : e' = e := by
      rw [split, failed] at h
      exact Except.error.inj h
    refine ⟨read, rest, split, found, viable.completable split choice, ?_⟩
    intro t next
    apply hopeless_of_parseAll ⟨query, choice⟩
    intro more
    obtain ⟨e, failed', same, -⟩ := refuses (t :: more) next.symm
    exact ⟨e, failed', same⟩

/-- A group stands where the value of a modifier should: the text before the group can be completed,
the text with its parenthesis cannot. -/
theorem parse_error_first_value :
    ∃ e, Node.parse "ti any/x= (a" {} = .error e ∧ e.kind = .invalidModifierRelation ∧
      Completable "ti any/x= (a" {} 10 ∧
      ∃ read t more, tokenize "ti any/x= (a" = read ++ t :: more ∧ t.kind = .openParen ∧
        t.start = 10 ∧ Hopeless {} .invalidModifierRelation (read ++ [t]) := by
  have facts : (match Node.parse "ti any/x= (a" {} with
      | .ok _ => none
      | .error e => some (e.kind, e.lookahead, e.position)) =
      some (.invalidModifierRelation, .openParen, 10) := by decide +kernel
  cases parsed : Node.parse "ti any/x= (a" {} with
  | ok n => simp [parsed] at facts
  | error e =>
    simp only [parsed, Option.some.injEq, Prod.mk.injEq] at facts
    obtain ⟨kind, lookahead, position⟩ := facts
    obtain ⟨read, rest, split, found, completable, hopeless⟩ := parse_error_first parsed
    have place := found.position (by simp [kind]) (by simp [kind])
    rw [← place, position] at completable
    cases rest with
    | nil =>
      have ended := found.lookahead
      rw [lookahead] at ended
      cases ended
    | cons t more =>
      refine ⟨e, rfl, kind, completable, read, t, more, split, ?_, ?_, kind ▸ hopeless t rfl⟩
      · exact found.lookahead.symm.trans lookahead
      · exact place.symm.trans position

end ContextualQuery
