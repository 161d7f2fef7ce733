import SigmaQuery.Rule.Modifier
import SigmaQuery.Text.Blank
import SigmaQuery.Text.Utf8
/-!
# Escaping for log search queries

Follows `src/pkg/datadog/escape.go:17–54`. A field name is escaped by a backslash before each blank
character; a name without blanks is kept byte for byte, while one with blanks is written again
character by character, so that a byte that begins no valid encoding becomes U+FFFD. A value is
read character by character in the same way, and written again with each backslash doubled and
a backslash before `<` and `>`; wildcards already in a value are kept, so that rule writers can
use them. A network value is kept byte for byte, because the network term reads it as it is.
-/

namespace SigmaQuery.Query

/-- The escaped form of one character of a field name. -/
def escapeFieldChar (c : Char) : List Char :=
  if Text.isBlank c then ['\\', c] else [c]

/-- A field name with a backslash before each blank; `EscapeField`.
`src/pkg/datadog/escape.go:17–30`. -/
def escapeField (name : Text.Bytes) : Text.Bytes :=
  let cs := (Text.lossy name).toList
  if cs.any Text.isBlank then Text.utf8 (String.ofList (cs.flatMap escapeFieldChar)) else name

/-- The escaped form of one character of a value. -/
def escapeValueChar (c : Char) : List Char :=
  if c == '\\' then ['\\', '\\']
  else if c == '<' || c == '>' then ['\\', c]
  else [c]

/-- A value made safe for a query, `EscapeValue`: read as characters, each byte that begins no
valid encoding as U+FFFD, and written with backslashes doubled and `<` and `>` preceded by a
backslash; network values are kept as they are.
`src/pkg/datadog/escape.go:36–54`. -/
def escapeValue (m : Modifier) (value : Text.Bytes) : Text.Bytes :=
  if m == .cidr then value
  else Text.utf8 (String.ofList ((Text.lossy value).toList.flatMap escapeValueChar))

example : escapeField (Text.utf8 "a b") = Text.utf8 "a\\ b" := by decide +kernel
example : escapeField [0x61, 0x80] = [0x61, 0x80] := by decide +kernel
example : escapeField [0x20, 0x80] = Text.utf8 "\\ �" := by decide +kernel
example : escapeValue .equals (Text.utf8 "a<b>c\\d") = Text.utf8 "a\\<b\\>c\\\\d" := by
  decide +kernel
example : escapeValue .equals [0x80] = Text.utf8 "�" := by decide +kernel

end SigmaQuery.Query
