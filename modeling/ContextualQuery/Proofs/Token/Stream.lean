import ContextualQuery.Proofs.Token.Spelling

/-!
# Tokens one at a time

Whoever asks a cursor for tokens holds the one that comes next and the place after it. Asking moves
the place on until the query has ended, and from then on changes nothing.

* `Cursor.offset_lt_next`: a token takes at least one byte;
* `Cursor.next_forever`: after the end of the query comes the end again, at the same place;
* `TokenStream`: a token of lookahead and the place after it, as asking for tokens gives them;
* `TokenStream.pending_nil_or_cons`: the tokens still to come are the lookahead and those after it,
  or there are none.
-/
namespace ContextualQuery

namespace Cursor

/-- The bytes before a place and those still to come. -/
def size (cur : Cursor) : Nat := cur.offset + Text.byteSize cur.rest

@[simp]
theorem size_advance (cur : Cursor) (n : Nat) : (cur.advance n).size = cur.size := by
  have split := congrArg Text.byteSize (List.take_append_drop n cur.rest)
  rw [Text.byteSize_append] at split
  simp only [size, advance]
  omega

@[simp]
theorem size_next (cur : Cursor) : cur.next.2.size = cur.size := by
  have here : cur.skipBlanks.size = cur.size := size_advance cur _
  rw [← here]
  unfold next
  dsimp only
  split
  · rfl
  · exact size_advance _ _

theorem offset_le_advance (cur : Cursor) (n : Nat) : cur.offset ≤ (cur.advance n).offset :=
  Nat.le_add_right _ _

/-- A lexeme is not the end, and takes at least one byte. -/
theorem next_of_cons {cur : Cursor} {c : Char} {cs : List Char}
    (h : cur.skipBlanks.rest = c :: cs) :
    cur.next.1.kind ≠ .finish ∧ cur.offset < cur.next.2.offset := by
  have blanks : cur.offset ≤ cur.skipBlanks.offset := offset_le_advance cur _
  obtain ⟨d, raw, written⟩ := List.exists_cons_of_ne_nil (lexeme_raw_ne_nil c cs)
  have positive := c.utf8Size_pos
  simp only [next, h]
  refine ⟨lexeme_kind_ne_finish c cs, ?_⟩
  rw [written]
  simp only [advance, h, List.length_cons, List.take_succ_cons, Text.byteSize]
  omega

theorem next_of_nil {cur : Cursor} (h : cur.skipBlanks.rest = []) :
    cur.next = (.ofEnd cur.size, ⟨cur.size, []⟩) := by
  have size : cur.skipBlanks.size = cur.size := size_advance cur _
  have here : cur.skipBlanks = ⟨cur.size, []⟩ := by
    rw [← size, Cursor.size, h]
    exact congrArg (Cursor.mk cur.skipBlanks.offset) h
  simp only [next, here]

/-- Asking for a token moves the place on, unless the query has ended. -/
theorem offset_lt_next {cur : Cursor} (h : cur.next.1.kind ≠ .finish) :
    cur.offset < cur.next.2.offset := by
  cases rest : cur.skipBlanks.rest with
  | nil =>
    rw [next_of_nil rest] at h
    exact absurd rfl h
  | cons c cs => exact (next_of_cons rest).2

theorem next_of_finish {cur : Cursor} (h : cur.next.1.kind = .finish) :
    cur.next = (.ofEnd cur.size, ⟨cur.size, []⟩) := by
  cases rest : cur.skipBlanks.rest with
  | nil => exact next_of_nil rest
  | cons c cs => exact absurd h (next_of_cons rest).1

theorem next_end (p : Nat) : (Cursor.mk p []).next = (.ofEnd p, ⟨p, []⟩) := rfl

def after (cur : Cursor) : Nat → Cursor
  | 0 => cur
  | n + 1 => (cur.after n).next.2

/-- After the end of the query comes the end again, at the same place. -/
theorem next_forever {cur : Cursor} (h : cur.next.1.kind = .finish) (n : Nat) :
    (cur.next.2.after n).next = cur.next := by
  rw [next_of_finish h]
  have stays : (Cursor.mk cur.size []).after n = ⟨cur.size, []⟩ := by
    induction n with
    | zero => rfl
    | succ n ih => rw [after, ih, next_end]
  rw [stays, next_end]

end Cursor

/-- The next token of a query and the place after it, once some tokens have been asked for. -/
inductive Asked (query : String) : Token → Cursor → Prop where
  | first : Asked query (Cursor.ofQuery query).next.1 (Cursor.ofQuery query).next.2
  | next {t : Token} {cur : Cursor} (h : Asked query t cur) : Asked query cur.next.1 cur.next.2

/-- The tokens of a query from some token on: one token of lookahead, and the place after it. -/
structure TokenStream (query : String) where
  look : Token
  place : Cursor
  asked : Asked query look place

theorem Asked.size {query : String} {t : Token} {cur : Cursor} (h : Asked query t cur) :
    cur.size = Text.byteSize query.toList := by
  induction h with
  | first =>
    rw [Cursor.size_next]
    exact Nat.zero_add _
  | next _ ih => rw [Cursor.size_next, ih]

/-- The end of the query is its last byte, and leaves nothing. -/
theorem Asked.finish {query : String} {t : Token} {cur : Cursor} (h : Asked query t cur)
    (ends : t.kind = .finish) : t = .ofEnd (Text.byteSize query.toList) ∧ cur.rest = [] := by
  cases h with
  | first =>
    rw [Cursor.next_of_finish ends]
    exact ⟨congrArg Token.ofEnd (Nat.zero_add _), rfl⟩
  | next before =>
    rw [Cursor.next_of_finish ends, before.size]
    exact ⟨rfl, rfl⟩

namespace TokenStream

variable {query : String}

def start (query : String) : TokenStream query := ⟨_, _, .first⟩

def advance (s : TokenStream query) : TokenStream query := ⟨_, _, s.asked.next⟩

def pending (s : TokenStream query) : List Token :=
  if s.look.kind = .finish then [] else s.look :: s.place.tokens

theorem look_of_finish {s : TokenStream query} (h : s.look.kind = .finish) :
    s.look = .ofEnd (Text.byteSize query.toList) := (s.asked.finish h).1

theorem pending_of_finish {s : TokenStream query} (h : s.look.kind = .finish) : s.pending = [] :=
  if_pos h

/-- The tokens of a place are the next one, unless it is the end, and those after it. -/
theorem tokens_eq (cur : Cursor) :
    cur.tokens = if cur.next.1.kind = .finish then [] else cur.next.1 :: cur.next.2.tokens := by
  rw [Cursor.tokens]
  rfl

theorem pending_start (query : String) : (start query).pending = tokenize query :=
  (tokens_eq _).symm

/-- The tokens still to come are the lookahead and those after it. -/
theorem pending_cons {s : TokenStream query} (h : s.look.kind ≠ .finish) :
    s.pending = s.look :: s.advance.pending := by
  rw [pending, if_neg h, tokens_eq]
  rfl

theorem pending_nil_or_cons (s : TokenStream query) :
    s.pending = [] ∨ s.pending = s.look :: s.advance.pending := by
  by_cases ends : s.look.kind = .finish
  · exact .inl (pending_of_finish ends)
  · exact .inr (pending_cons ends)

/-- The first token still to come is the lookahead. -/
theorem head?_pending {s : TokenStream query} {p : Token → Bool} (h : p s.look = false) :
    s.pending.head?.any p = false := by
  obtain none | more := s.pending_nil_or_cons
  · rw [none]
    rfl
  · rw [more]
    exact h

/-- What is left at `t` is what is left at `s` after at least one token has been taken. -/
def Consumes (s t : TokenStream query) : Prop :=
  t.pending <:+ s.pending ∧ t.pending.length < s.pending.length

end TokenStream
end ContextualQuery
