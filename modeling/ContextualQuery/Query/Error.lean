import ContextualQuery.Text.Basic
import ContextualQuery.Token.Lexer

namespace ContextualQuery

inductive ErrorKind where
  | emptyInput
  | trailingInput
  /-- A slash without a modifier name. -/
  | invalidModifier
  /-- A modifier relation without a value. -/
  | invalidModifierRelation
  /-- An opening parenthesis that is not closed. -/
  | missingClosingParen
  /-- A prefix declaration without its name or URI. -/
  | expectedWord
  | invalidClause
  /-- An FQ value that is neither a clause nor a boolean node. -/
  | malformedFq
  | invalidFqJson
deriving DecidableEq, Inhabited

namespace ErrorKind

def message : ErrorKind → String
  | .emptyInput => "query cannot be empty"
  | .trailingInput => "expected end of query"
  | .invalidModifier => "invalid modifier"
  | .invalidModifierRelation => "invalid relation within modifier"
  | .missingClosingParen => "missing closing parenthesis"
  | .expectedWord => "expecting string or quoted expression"
  | .invalidClause => "invalid search clause"
  | .malformedFq => "malformed FQ structure"
  | .invalidFqJson => "invalid FQ JSON"

/-- The stable name used in reports. -/
def code : ErrorKind → String
  | .emptyInput => "empty_input"
  | .trailingInput => "unexpected_trailing_input"
  | .invalidModifier => "invalid_modifier"
  | .invalidModifierRelation => "invalid_modifier_relation"
  | .missingClosingParen => "missing_closing_paren"
  | .expectedWord => "expecting_string_or_quoted_expression"
  | .invalidClause => "invalid_search_clause"
  | .malformedFq => "malformed_fq_structure"
  | .invalidFqJson => "invalid_fq_json"

end ErrorKind

structure QueryError where
  kind : ErrorKind
  /-- The byte of the text where reading failed. -/
  position : Nat
  message : String := kind.message
  /-- The query, unless it was given as FQ. -/
  query : Option String := none
  /-- The kind of token that could not be used. -/
  lookahead : TokenKind := .finish
  token : Option String := none
deriving DecidableEq, Inhabited

namespace QueryError

def atToken (kind : ErrorKind) (position : Nat) (query : String) (look : Token) : QueryError :=
  { kind, position, query := some query, lookahead := look.kind, token := look.text? }

def tokenLower (e : QueryError) : Option String := e.token.map Text.lowercase

def suggestion (e : QueryError) : Option String :=
  match e.kind with
  | .missingClosingParen => some "Add a closing parenthesis ) to match the opening one"
  | .invalidClause =>
    if e.lookahead = .unterminated then some "Add a closing quote to complete the quoted term"
    else none
  | .invalidModifier => some "Modifiers take the form /name or /name=value"
  | .invalidModifierRelation =>
    some "A modifier relation must be followed by a value, e.g. /distance<3"
  | .expectedWord => some "Prefix declarations take the form > name = \"uri\" or > \"uri\""
  | .trailingInput => some "Join clauses with and, or, not or prox"
  | .emptyInput | .malformedFq | .invalidFqJson => none

def column (e : QueryError) (query : String) : Nat := Text.column query.toList e.position

/-- The lines that show the query with a caret under the place of the error. -/
def excerpt (e : QueryError) : String :=
  match e.query with
  | none => ""
  | some query =>
    "  " ++ query ++ "\n  " ++ String.ofList (List.replicate (e.column query) ' ') ++ "^\n"

def hint (e : QueryError) : String :=
  match e.suggestion with
  | none => ""
  | some advice => "hint: " ++ advice

def display (e : QueryError) : String :=
  "query syntax error: " ++ e.message ++ "\n" ++ e.excerpt ++ e.hint

end QueryError
end ContextualQuery
