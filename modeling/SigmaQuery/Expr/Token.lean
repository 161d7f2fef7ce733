/-!
# Condition tokens

The kinds of token a rule's condition is made of: identifiers of detection entries, wildcard
identifiers and `them`, the keywords `and`, `or` and `not`, the quantifiers `1 of` and
`all of`, parentheses and the pipe that starts an aggregation. Three kinds mark states of the
reader rather than text: the beginning of the condition, an empty word and an unsupported
remainder. Each kind has a number, a name for messages, and the text it stands for.

Source: `Token`, its table and methods, and `validTokenSequence` of `src/token.go:28–135`.
-/

namespace SigmaQuery.Expr

/-- The kinds of token of a condition.
`Token`, `src/token.go:28–57`. -/
inductive TokenKind where
  /-- A lexical error. -/
  | error
  /-- A remainder that cannot be read, such as an aggregation. -/
  | unsupported
  /-- The position before the first token. -/
  | begin
  /-- An empty word. -/
  | nil
  /-- The name of a detection entry. -/
  | identifier
  /-- A pattern over names of detection entries. -/
  | wildcard
  /-- All detection entries. -/
  | them
  /-- The end of the condition. -/
  | eof
  /-- An opening parenthesis. -/
  | leftParen
  /-- A closing parenthesis. -/
  | rightParen
  /-- The pipe that starts an aggregation. -/
  | pipe
  /-- The keyword `and`. -/
  | keywordAnd
  /-- The keyword `or`. -/
  | keywordOr
  /-- The keyword `not`. -/
  | keywordNot
  /-- The quantifier `1 of`. -/
  | quantOne
  /-- The quantifier `all of`. -/
  | quantAll
  deriving DecidableEq, Repr, Inhabited

namespace TokenKind

/-- The kind with a given number, if any. -/
def ofCode? : Int → Option TokenKind
  | 0 => some .error
  | 1 => some .unsupported
  | 2 => some .begin
  | 3 => some .nil
  | 4 => some .identifier
  | 5 => some .wildcard
  | 6 => some .them
  | 7 => some .eof
  | 8 => some .leftParen
  | 9 => some .rightParen
  | 10 => some .pipe
  | 11 => some .keywordAnd
  | 12 => some .keywordOr
  | 13 => some .keywordNot
  | 14 => some .quantOne
  | 15 => some .quantAll
  | _ => none

/-- The upper-case name of a kind, as messages print it.
`Token.String`, `src/token.go:84–89`. -/
def name : TokenKind → String
  | .error => "ERR"
  | .unsupported => "UNSUPPORTED"
  | .begin => "BEGINNING"
  | .nil => "NIL"
  | .identifier => "IDENT"
  | .wildcard => "WILDCARDIDENT"
  | .them => "THEM"
  | .eof => "EOF"
  | .leftParen => "LPAR"
  | .rightParen => "RPAR"
  | .pipe => "PIPE"
  | .keywordAnd => "AND"
  | .keywordOr => "OR"
  | .keywordNot => "NOT"
  | .quantOne => "ONE"
  | .quantAll => "ALL"

/-- The lower-case text a keyword, separator or quantifier stands for; other kinds have
none.
`Token.Literal`, `src/token.go:93–95`. -/
def literal : TokenKind → String
  | .them => "them"
  | .leftParen => "("
  | .rightParen => ")"
  | .pipe => "|"
  | .keywordAnd => "and"
  | .keywordOr => "or"
  | .keywordNot => "not"
  | .quantOne => "1 of"
  | .quantAll => "all of"
  | _ => ""

/-- The character of a separator, or `none`.
`Token.Rune`, `src/token.go:98–103`. -/
def separator? : TokenKind → Option Char
  | .leftParen => some '('
  | .rightParen => some ')'
  | .pipe => some '|'
  | _ => none

end TokenKind

/-- A token of a condition: its kind and the text it was read from.
`Item`, `src/token.go:11–15`. -/
structure Token where
  /-- The kind of the token. -/
  kind : TokenKind
  /-- The text of the condition the token covers. -/
  text : String
  deriving DecidableEq, Repr, Inhabited

end SigmaQuery.Expr
