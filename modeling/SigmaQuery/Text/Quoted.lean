import SigmaQuery.Text.Graphic
/-!
# Quoted text

The double-quoted form in which messages cite a value: a quote or backslash is preceded by a
backslash, a graphic character stands for itself, the seven C control escapes are used where
they exist, and every other character is written as `\xNN` below U+0080's control range,
`\uNNNN` in the basic plane and `\UNNNNNNNN` above it, with lower-case hexadecimal digits.

Source: the `%q` verb of the `fmt` package, as the messages of `src/rule.go:166`,
`src/tree.go:161`, `src/pkg/datadog/backend.go:48–161` and `src/pkg/datadog/compiler.go:92`
use it.
-/

namespace SigmaQuery.Text

/-- The lower-case hexadecimal digits of `n`, padded with zeros to at least `width` digits. -/
def hexDigits (width n : Nat) : List Char :=
  let ds := Nat.toDigits 16 n
  List.replicate (width - ds.length) '0' ++ ds

/-- The escape of a character that is not graphic. -/
def escapeInvisible (c : Char) : List Char :=
  match c with
  | '\x07' => ['\\', 'a']
  | '\x08' => ['\\', 'b']
  | '\x0c' => ['\\', 'f']
  | '\n' => ['\\', 'n']
  | '\r' => ['\\', 'r']
  | '\t' => ['\\', 't']
  | '\x0b' => ['\\', 'v']
  | _ =>
    let n := c.toNat
    if n < 0x20 || n == 0x7F then '\\' :: 'x' :: hexDigits 2 n
    else if n < 0x10000 then '\\' :: 'u' :: hexDigits 4 n
    else '\\' :: 'U' :: hexDigits 8 n

/-- How one character appears between the quotes. -/
def quoteChar (c : Char) : List Char :=
  if c == '"' || c == '\\' then ['\\', c]
  else if isGraphic c then [c]
  else escapeInvisible c

/-- A text in double quotes, with its invisible characters escaped. -/
def quote (s : String) : String :=
  String.ofList ('"' :: (s.toList.flatMap quoteChar ++ ['"']))

/-- A character in single quotes, escaped the way `quote` escapes it, except that the single
quote is escaped and the double quote is not. -/
def quoteRune (c : Char) : String :=
  let body := if c == '\'' then ['\\', '\''] else if c == '"' then ['"'] else quoteChar c
  String.ofList ('\'' :: (body ++ ['\'']))

/-- Whether a text can stand between backquotes as it is: it holds no backquote, no byte-order
mark and no control character other than the tab. -/
def canBackquote (s : String) : Bool :=
  s.toList.all fun c =>
    c != '\x60' && c.toNat != 0xFEFF && c.toNat != 0x7F && (c.toNat ≥ 0x20 || c == '\t')

/-- A text between backquotes when it can stand there as it is, else in double quotes. -/
def quoteRaw (s : String) : String :=
  if canBackquote s then "\x60" ++ s ++ "\x60" else quote s

example : quote "a\"b" = "\"a\\\"b\"" := by decide +kernel
example : quoteRune 'x' = "'x'" := by decide +kernel
example : quoteRaw "bogus" = "\x60bogus\x60" := by decide +kernel
example : quote "10.0.0.0\u00a0" = "\"10.0.0.0\\u00a0\"" := by decide +kernel
example : quote "\t" = "\"\\t\"" := by decide +kernel

end SigmaQuery.Text
