/-!
# Blank characters

The Unicode `White_Space` property: the twenty-five characters that separate the words of a
condition, that are trimmed from network prefixes, levels and output modes, and that a field
name escapes.

Source: `unicode.IsSpace`, as the lexer of `src/lexer.go:107–176` and `EscapeField` of
`src/pkg/datadog/escape.go:18–24` call it, and `strings.TrimSpace` in `src/rule.go:160`,
`src/pkg/datadog/backend.go:42` and `src/pkg/datadog/modifier.go:38`.
-/

namespace SigmaQuery.Text

/-- Whether a character has the Unicode `White_Space` property. -/
def isBlank (c : Char) : Bool :=
  let n := c.toNat
  (0x09 ≤ n && n ≤ 0x0D) || n == 0x20 || n == 0x85 || n == 0xA0 || n == 0x1680 ||
    (0x2000 ≤ n && n ≤ 0x200A) || n == 0x2028 || n == 0x2029 || n == 0x202F ||
    n == 0x205F || n == 0x3000

/-- The characters left after dropping blanks from both ends. -/
def trimBlankList (cs : List Char) : List Char :=
  ((cs.dropWhile isBlank).reverse.dropWhile isBlank).reverse

/-- A text without the blanks at either end. -/
def trimBlank (s : String) : String :=
  String.ofList (trimBlankList s.toList)

example : trimBlank " \t10.0.0.0/8\n" = "10.0.0.0/8" := by decide +kernel

end SigmaQuery.Text
