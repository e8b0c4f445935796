import ContextualQuery.Text.Lowercase

/-!
# Tokens

A token remembers the bytes of the query it was read from. A query is read one lexeme at a time. A
lexeme keeps the characters it was written with, so nothing of the query is lost but the blanks
between lexemes.

* `lexeme_raw_ne_nil`: a lexeme takes at least one character.
* `Cursor.next_rest_length`: reading a token leaves fewer characters, unless the query has ended.
-/
namespace ContextualQuery

inductive TokenKind where
  | openParen
  | closeParen
  /-- A slash, which introduces a modifier. -/
  | slash
  /-- A run of `<`, `>` and `=`. -/
  | comparison
  | bareword
  /-- A quoted text, marks stripped and escapes resolved. -/
  | quoted
  | finish
  /-- A quoted text that the query ends before its closing mark. -/
  | unterminated
deriving DecidableEq, Inhabited

/-- A token with the bytes `start` to `stop` it was read from. -/
structure Token where
  kind : TokenKind
  text : String
  start : Nat
  stop : Nat
deriving DecidableEq, Inhabited

namespace Token

def lower (t : Token) : String := Text.lowercase t.text

/-- Whether the token can name something: barewords and quoted texts do. -/
def isWord (t : Token) : Bool := t.kind == .bareword || t.kind == .quoted

def isComparison (t : Token) (symbol : String) : Bool := t.kind == .comparison && t.text == symbol

def ofEnd (size : Nat) : Token := ⟨.finish, "", size, size⟩

/-- The text of the token, which the end of the query does not have. -/
def text? (t : Token) : Option String := if t.kind = .finish then none else some t.text

end Token

def isBlank (c : Char) : Bool := c == ' ' || c == '\t' || c == '\r' || c == '\n'

def isComparisonChar (c : Char) : Bool := c == '<' || c == '>' || c == '='

def isSeparator (c : Char) : Bool := c == '(' || c == ')' || c == '/'

def endsWord (c : Char) : Bool := isSeparator c || isComparisonChar c || isBlank c

def isQuoteMark (c : Char) : Bool := c == '"' || c == '\''

/-- What one token is made of: the characters as written and the text they stand for. -/
structure Lexeme where
  kind : TokenKind
  raw : List Char
  text : List Char
deriving DecidableEq

/-- A quoted text up to its closing mark, or up to the end of the query. -/
structure QuotedBody where
  raw : List Char
  text : List Char
  closed : Bool
deriving DecidableEq

def QuotedBody.push (body : QuotedBody) (raw : List Char) (c : Char) : QuotedBody :=
  { body with raw := raw ++ body.raw, text := c :: body.text }

/-- Reads a quoted text after its opening mark. A backslash makes the next character plain, and
stands for itself where no character follows. -/
def quotedBody (mark : Char) : List Char → QuotedBody
  | [] => ⟨[], [], false⟩
  | '\\' :: c :: cs => (quotedBody mark cs).push ['\\', c] c
  | c :: cs => if c == mark then ⟨[c], [], true⟩ else (quotedBody mark cs).push [c] c

def separatorKind (c : Char) : TokenKind :=
  if c == '(' then .openParen else if c == ')' then .closeParen else .slash

/-- The lexeme at the front of `c :: cs`, where `c` is not a blank. -/
def lexeme (c : Char) (cs : List Char) : Lexeme :=
  if isSeparator c then ⟨separatorKind c, [c], [c]⟩
  else if isComparisonChar c then
    let run := c :: cs.takeWhile isComparisonChar
    ⟨.comparison, run, run⟩
  else if isQuoteMark c then
    let body := quotedBody c cs
    ⟨if body.closed then .quoted else .unterminated, c :: body.raw, body.text⟩
  else
    let word := c :: cs.takeWhile (!endsWord ·)
    ⟨.bareword, word, word⟩

theorem lexeme_raw_ne_nil (c : Char) (cs : List Char) : (lexeme c cs).raw ≠ [] := by
  unfold lexeme
  split
  · simp
  · split
    · simp
    · split <;> simp

/-- A place in a query: the characters still to come and the bytes before them. -/
structure Cursor where
  offset : Nat
  rest : List Char
deriving DecidableEq

namespace Cursor

def ofQuery (query : String) : Cursor := ⟨0, query.toList⟩

def advance (cur : Cursor) (n : Nat) : Cursor :=
  ⟨cur.offset + Text.byteSize (cur.rest.take n), cur.rest.drop n⟩

def skipBlanks (cur : Cursor) : Cursor := cur.advance (cur.rest.takeWhile isBlank).length

/-- The next token and the place after it. At the end of the query that is the end token, again
and again. -/
def next (cur : Cursor) : Token × Cursor :=
  let here := cur.skipBlanks
  match here.rest with
  | [] => (.ofEnd here.offset, here)
  | c :: cs =>
    let lex := lexeme c cs
    let after := here.advance lex.raw.length
    (⟨lex.kind, String.ofList lex.text, here.offset, after.offset⟩, after)

theorem next_rest_length (cur : Cursor) (h : cur.next.1.kind ≠ .finish) :
    cur.next.2.rest.length < cur.rest.length := by
  have shrinks : cur.skipBlanks.rest.length ≤ cur.rest.length := by
    simp [skipBlanks, advance]
  unfold next at h ⊢
  cases hr : cur.skipBlanks.rest with
  | nil => simp [hr, Token.ofEnd] at h
  | cons c cs =>
    have := List.length_pos_iff.mpr (lexeme_raw_ne_nil c cs)
    simp only [hr, advance, List.length_drop, List.length_cons] at shrinks ⊢
    omega

/-- The tokens from a place to the end of the query. A quoted text that is not closed is the last
of them. -/
def tokens (cur : Cursor) : List Token :=
  if _ : cur.next.1.kind = .finish then [] else cur.next.1 :: tokens cur.next.2
termination_by cur.rest.length
decreasing_by exact next_rest_length cur ‹_›

end Cursor

def tokenize (query : String) : List Token := (Cursor.ofQuery query).tokens

end ContextualQuery
