import ContextualQuery.Proofs.Query.FirstError

/-!
# What errors say

An error in reading a query says where in the query it is and which token could not be used there.
A group that is not closed is reported at its parenthesis, anything else at the token.

* `unmatched`: the parentheses that tokens leave open;
* `QueryPhrase.foldl_openStep`: a whole query leaves open what was open before it;
* `QueryError.AboutTokens`: what an error says of the tokens before and at its place;
* `parse_error_cases`: the two ways in which reading a query fails;
* `parse_error_shape`: what its error says.
-/
namespace ContextualQuery

/-- The parentheses open after one more token, innermost first. -/
def openStep (opened : List Token) (t : Token) : List Token :=
  match t.kind with
  | .openParen => t :: opened
  | .closeParen => opened.tail
  | _ => opened

/-- The opening parentheses that nothing among the tokens closes, innermost first. -/
def unmatched (ts : List Token) : List Token := ts.foldl openStep []

theorem openStep_open {t : Token} (h : t.kind = .openParen) (opened : List Token) :
    openStep opened t = t :: opened := by
  simp [openStep, h]

theorem openStep_close {t : Token} (h : t.kind = .closeParen) (opened : List Token) :
    openStep opened t = opened.tail := by
  simp [openStep, h]

theorem openStep_other {t : Token} (opens : t.kind ≠ .openParen) (closes : t.kind ≠ .closeParen)
    (opened : List Token) : openStep opened t = opened := by
  unfold openStep
  split
  · exact absurd ‹_› opens
  · exact absurd ‹_› closes
  · rfl

/-- Tokens that close at most the `inner` groups leave the `outer` ones open. -/
theorem foldl_openStep_of_depthAfter {ts : List Token} {depth : Nat} {inner : List Token}
    (outer : List Token) (h : depthAfter inner.length ts = some depth) :
    ∃ left : List Token, left.length = depth ∧
      ts.foldl openStep (inner ++ outer) = left ++ outer := by
  induction ts generalizing inner with
  | nil =>
    rw [depthAfter, Option.some.injEq] at h
    exact ⟨inner, h, rfl⟩
  | cons t ts ih =>
    rw [List.foldl_cons]
    by_cases opens : t.kind = .openParen
    · rw [openStep_open opens]
      have deeper : depthAfter (t :: inner).length ts = some depth := by
        simpa [depthAfter, opens] using h
      exact ih deeper
    · by_cases closes : t.kind = .closeParen
      · rw [openStep_close closes]
        cases inner with
        | nil => simp [depthAfter, closes] at h
        | cons u inner => exact ih (by simpa [depthAfter, opens, closes] using h)
      · rw [openStep_other opens closes]
        exact ih (by rwa [depthAfter_cons opens closes] at h)

/-- A whole query closes what it opens, and nothing else. -/
theorem QueryPhrase.foldl_openStep (q : QueryPhrase) (opened : List Token) :
    q.tokens.foldl openStep opened = opened := by
  have balanced : depthAfter ([] : List Token).length q.tokens = some 0 := by
    have tokens := q.depthAfter_tokens 0 []
    rwa [List.append_nil] at tokens
  obtain ⟨left, none, folded⟩ := foldl_openStep_of_depthAfter opened balanced
  rw [List.length_eq_zero_iff] at none
  rwa [none] at folded

theorem unmatched_query (q : QueryPhrase) : unmatched q.tokens = [] := q.foldl_openStep []

theorem unmatched_group (before : List Token) (opening : OfKind .openParen) (q : QueryPhrase) :
    unmatched (before ++ opening.1 :: q.tokens) = opening.1 :: unmatched before := by
  have opens : opening.1.kind = .openParen := by simpa [Token.isKind] using opening.2
  rw [unmatched, List.foldl_append, List.foldl_cons, openStep_open opens, q.foldl_openStep,
    ← unmatched]

/-- The tokens `read` can go on to a query, and with the first of the `rest` they cannot: that is
the one that the error is about. If a group is not closed, the place is the innermost parenthesis
that is open there, and if something follows a query, none is open. -/
structure QueryError.AboutTokens (query : String) (choice : ServerChoice) (read rest : List Token)
    (e : QueryError) : Prop where
  tokens : tokenize query = read ++ rest
  found : e.FoundAt ⟨query, choice⟩ rest
  completable : Completable query choice (Source.look ⟨query, choice⟩ rest).start
  hopeless : ∀ t ∈ rest.head?, Hopeless choice e.kind (read ++ [t])
  unclosed : e.kind = .missingClosingParen → e.lookahead ≠ .closeParen ∧
    (unmatched read).head?.map (·.start) = some e.position
  balanced : e.kind = .trailingInput → unmatched read = []

/-- Nothing but white space has no tokens. -/
theorem tokenize_eq_nil_iff {query : String} :
    tokenize query = [] ↔ query.toList.all isBlank = true := by
  obtain ⟨none, blank⟩ | ⟨blanks, cs, rest, c, t, chars, -, first, -, -, -, -, tokens⟩ :=
    (Cursor.ofQuery query).tokens_cases
  · exact ⟨fun _ => blank, fun _ => none⟩
  · have chars : query.toList = blanks ++ (c :: cs ++ rest) := chars
    have tokens : tokenize query = t :: (Cursor.mk t.stop rest).tokens := tokens
    simp [tokens, chars, first]

theorem look_start_boundary {query : String} {choice : ServerChoice} {read rest : List Token}
    (split : tokenize query = read ++ rest) :
    Text.IsBoundary query.toList (Source.look ⟨query, choice⟩ rest).start := by
  cases rest with
  | nil => exact ⟨query.toList, [], (List.append_nil _).symm, rfl⟩
  | cons t ts =>
    have listed : t ∈ tokenize query := by simp [split]
    exact (tokenize_boundary listed).1

theorem QueryError.FoundAt.token_eq_none_iff {src : Source} {ts : List Token} {e : QueryError}
    (h : e.FoundAt src ts) : e.token = none ↔ e.lookahead = .finish := by
  rw [h.token, h.lookahead]
  simp [Token.text?]

/-- Reading a query fails if there is none, or else after some viable tokens. -/
theorem parse_error_cases {query : String} {choice : ServerChoice} {e : QueryError}
    (h : Node.parse query choice = .error e) :
    (tokenize query = [] ∧ e = Source.fail ⟨query, choice⟩ .emptyInput 0 []) ∨
      tokenize query ≠ [] ∧ ∃ read rest, tokenize query = read ++ rest ∧
        RaisedByQuery ⟨query, choice⟩ read e ∧
        Refuses ⟨query, choice⟩ (Source.parseAll ⟨query, choice⟩) read rest e := by
  unfold Node.parse at h
  by_cases none : tokenize query = []
  · rw [none] at h
    exact .inl ⟨none, (Except.error.inj h).symm⟩
  · obtain ⟨read, rest, split, ⟨n, takes⟩ | ⟨e', raised, found, refuses⟩⟩ :=
      steady_query ⟨query, choice⟩ none
    · rw [split, takes rest rfl] at h
      cases h
    · rw [split, refuses rest rfl] at h
      obtain rfl := Except.error.inj h
      exact .inr ⟨none, read, rest, split, raised, found, refuses⟩

namespace RaisedByQuery

variable {src : Source} {read : List Token} {e : QueryError}

theorem kind (h : RaisedByQuery src read e) :
    e.kind.isLocal = true ∨ e.kind = .missingClosingParen ∨ e.kind = .trailingInput := by
  obtain ⟨-, -, isLocal | unclosed | ⟨trailing, -⟩⟩ := h
  · exact .inl isLocal
  · exact .inr (.inl unclosed.kind)
  · exact .inr (.inr trailing)

theorem kind_ne (h : RaisedByQuery src read e) :
    e.kind ≠ .emptyInput ∧ e.kind ≠ .malformedFq ∧ e.kind ≠ .invalidFqJson := by
  have kind := h.kind
  refine ⟨?_, ?_, ?_⟩ <;>
  · intro other
    simp [other, ErrorKind.isLocal] at kind

theorem unclosed (h : RaisedByQuery src read e) (missing : e.kind = .missingClosingParen) :
    e.lookahead ≠ .closeParen ∧ ∃ opening ∈ read, e.position = opening.start ∧
      (unmatched read).head? = some opening := by
  obtain ⟨-, -, isLocal | ⟨-, lookahead, before, opening, q, rfl, position⟩ | ⟨trailing, -⟩⟩ := h
  · simp [missing, ErrorKind.isLocal] at isLocal
  · refine ⟨lookahead, opening.1, by simp, position, ?_⟩
    rw [unmatched_group, List.head?_cons]
  · rw [missing] at trailing
    cases trailing

theorem unmatched_eq_nil (h : RaisedByQuery src read e) (trailing : e.kind = .trailingInput) :
    unmatched read = [] := by
  obtain ⟨-, -, isLocal | unclosed | ⟨-, q, rfl⟩⟩ := h
  · simp [trailing, ErrorKind.isLocal] at isLocal
  · have missing := unclosed.kind
    rw [trailing] at missing
    cases missing
  · exact unmatched_query q

theorem boundary {query : String} {choice : ServerChoice} {rest : List Token}
    (h : RaisedByQuery ⟨query, choice⟩ read e) (found : e.FoundAt ⟨query, choice⟩ rest)
    (split : tokenize query = read ++ rest) : Text.IsBoundary query.toList e.position := by
  by_cases missing : e.kind = .missingClosingParen
  · obtain ⟨-, opening, listed, position, -⟩ := h.unclosed missing
    rw [position]
    exact (tokenize_boundary (by simp [split, listed])).1
  · rw [found.position missing h.kind_ne.1]
    exact look_start_boundary split

theorem aboutTokens {query : String} {choice : ServerChoice} {rest : List Token}
    (h : RaisedByQuery ⟨query, choice⟩ read e)
    (refuses : Refuses ⟨query, choice⟩ (Source.parseAll ⟨query, choice⟩) read rest e)
    (tokens : tokenize query = read ++ rest) : e.AboutTokens query choice read rest := by
  obtain ⟨found, fails⟩ := refuses
  constructor
  case tokens => exact tokens
  case found => exact found
  case completable => exact h.viable.completable tokens choice
  case hopeless =>
    intro t next
    apply hopeless_of_parseAll ⟨query, choice⟩
    intro more
    exact ⟨e, fails (t :: more) next.symm, rfl⟩
  case unclosed =>
    intro missing
    obtain ⟨lookahead, opening, -, position, innermost⟩ := h.unclosed missing
    exact ⟨lookahead, by simp [innermost, position]⟩
  case balanced => exact h.unmatched_eq_nil

end RaisedByQuery

/-- An error stands between two characters of the query, or at an end of it. -/
theorem parse_error_boundary {query : String} {choice : ServerChoice} {e : QueryError}
    (h : Node.parse query choice = .error e) : Text.IsBoundary query.toList e.position := by
  obtain ⟨-, rfl⟩ | ⟨-, read, rest, tokens, raised, found, -⟩ := parse_error_cases h
  · exact ⟨[], query.toList, rfl, rfl⟩
  · exact raised.boundary found tokens

theorem QueryError.column_eq {query : String} {e : QueryError}
    (h : Text.IsBoundary query.toList e.position) :
    ∃ before after : String, query = before ++ after ∧ Text.byteSize before.toList = e.position ∧
      e.column query = before.length := by
  obtain ⟨before, after, chars, place⟩ := h
  refine ⟨.ofList before, .ofList after, ?_, by rw [String.toList_ofList, place], ?_⟩
  · rw [← String.toList_inj, chars, String.toList_append, String.toList_ofList,
      String.toList_ofList]
  · rw [QueryError.column, chars, ← place, Text.column_append, String.length_ofList]

/-- The error names the query, never an FQ fault, and a place on a character boundary of it, with
the caret after the characters before that place. There is no query exactly if its text is all white
space. A token that could not be used is given unless the query ended, and the tokens before it say
which group is not closed. -/
theorem parse_error_shape {query : String} {choice : ServerChoice} {e : QueryError}
    (h : Node.parse query choice = .error e) :
    e.query = some query ∧ e.kind ≠ .malformedFq ∧ e.kind ≠ .invalidFqJson ∧
      (e.kind = .emptyInput ↔ query.toList.all isBlank = true) ∧
      (e.kind = .emptyInput → e.position = 0) ∧
      (e.token = none ↔ e.lookahead = .finish) ∧
      e.position ≤ Text.byteSize query.toList ∧
      (∃ before after : String, query = before ++ after ∧
        Text.byteSize before.toList = e.position ∧ e.column query = before.length) ∧
      ∃ read rest : List Token, e.AboutTokens query choice read rest := by
  have boundary := parse_error_boundary h
  obtain ⟨none, rfl⟩ | ⟨nonempty, read, rest, tokens, raised, refuses⟩ := parse_error_cases h
  · have found : (Source.fail ⟨query, choice⟩ .emptyInput 0 []).FoundAt ⟨query, choice⟩ [] :=
      ⟨rfl, rfl, fun _ other => absurd rfl other⟩
    refine ⟨rfl, nofun, nofun, ?_, fun _ => rfl, found.token_eq_none_iff, boundary.le,
      QueryError.column_eq boundary, [], [], none, found, ?_, nofun, nofun, nofun⟩
    · exact ⟨fun _ => tokenize_eq_nil_iff.mp none, fun _ => rfl⟩
    · exact viableClause_nil.query.completable none choice
  · obtain ⟨given, notFq, notJson⟩ := raised.kind_ne
    have about := raised.aboutTokens refuses tokens
    refine ⟨raised.query, notFq, notJson, ?_, fun none => absurd none given,
      about.found.token_eq_none_iff, boundary.le, QueryError.column_eq boundary, read, rest, about⟩
    constructor
    · intro none
      exact absurd none given
    · intro blank
      exact absurd (tokenize_eq_nil_iff.mpr blank) nonempty

/-- The inner group is not closed, and its parenthesis stands after a character of two bytes. -/
theorem parse_error_shape_group :
    ∃ e, Node.parse "(é and (b" {} = .error e ∧ e.kind = .missingClosingParen ∧
      e.position = 8 ∧ e.column "(é and (b" = 7 ∧ e.query = some "(é and (b" ∧
      ∃ read rest : List Token, tokenize "(é and (b" = read ++ rest ∧
        (unmatched read).head?.map (·.start) = some 8 := by
  have facts : (match Node.parse "(é and (b" {} with
      | .ok _ => none
      | .error e => some (e.kind, e.position, e.column "(é and (b")) =
      some (.missingClosingParen, 8, 7) := by decide +kernel
  cases parsed : Node.parse "(é and (b" {} with
  | ok n => simp [parsed] at facts
  | error e =>
    simp only [parsed, Option.some.injEq, Prod.mk.injEq] at facts
    obtain ⟨kind, position, column⟩ := facts
    obtain ⟨query, -, -, -, -, -, -, -, read, rest, about⟩ := parse_error_shape parsed
    obtain ⟨-, innermost⟩ := about.unclosed kind
    exact ⟨e, rfl, kind, position, column, query, read, rest, about.tokens, position ▸ innermost⟩

end ContextualQuery
