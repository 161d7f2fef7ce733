import SigmaQuery.Document.Metadata
import SigmaQuery.Text.Case
import SigmaQuery.Text.Graphic
import SigmaQuery.Text.Quoted
/-!
# Signal names, messages, tags and statuses

A rule document names its signal `SIGMA Threshold Detection - <title>` and describes it by a
three-line message: the rule identifier, the false positives as a list display, and the
description (`None` when there is none). Attack-framework tags `attack.x` are written
`attack-x`, and the level becomes the case status: low when absent, lower case otherwise.

The list display is the one a Python interpreter prints for a list of strings: `[]` when
empty, otherwise the items in brackets, separated by `, `. An item is quoted with single
quotes, or with double quotes when it holds a single quote and no double quote. Inside, the
quote and the backslash are preceded by a backslash, line feed, carriage return and tab are
written `\n`, `\r` and `\t`, other control characters `\xNN`, and characters that are not
graphic `\xNN`, `\uNNNN` or `\UNNNNNNNN` by size.

Source: `src/pkg/datadog/metadata.go:11–99`.
-/

namespace SigmaQuery.Document

/-- Writes `attack.x` as `attack-x`; other tags are kept. -/
def mapTag (tag : Text.Bytes) : Text.Bytes :=
  if (Text.utf8 "attack.").isPrefixOf tag then Text.utf8 "attack-" ++ tag.drop 7 else tag

/-- The tags of a rule as a document carries them.
`MapTags`, `src/pkg/datadog/metadata.go:20–29`. -/
def mapTags (tags : List Text.Bytes) : List Text.Bytes :=
  tags.map mapTag

/-- The case status for a rule level: low when there is none, lower case otherwise.
`MapLevel`, `src/pkg/datadog/metadata.go:32–37`. -/
def mapLevel (level : String) : String :=
  if level == "" then "low" else Text.lower level

/-- The name of the signal of a rule with a given title.
`MapName`, `src/pkg/datadog/metadata.go:48–50`. -/
def mapName (title : Text.Bytes) : Text.Bytes :=
  Text.utf8 "SIGMA Threshold Detection - " ++ title

/-- How one character appears inside an item of the list display, quoted by `q`. -/
def itemChar (q : Char) (c : Char) : List Char :=
  let n := c.toNat
  if c == q || c == '\\' then ['\\', c]
  else if c == '\n' then ['\\', 'n']
  else if c == '\r' then ['\\', 'r']
  else if c == '\t' then ['\\', 't']
  else if n < 0x20 || n == 0x7F then '\\' :: 'x' :: Text.hexDigits 2 n
  else if !Text.isGraphic c && c != ' ' then
    if n ≤ 0xFF then '\\' :: 'x' :: Text.hexDigits 2 n
    else if n ≤ 0xFFFF then '\\' :: 'u' :: Text.hexDigits 4 n
    else '\\' :: 'U' :: Text.hexDigits 8 n
  else [c]

/-- The quote of an item: double when it holds a single quote and no double quote. -/
def itemQuote (s : String) : Char :=
  if s.toList.contains '\'' && !s.toList.contains '"' then '"' else '\''

/-- An item of the list display, `strRepr` of `src/pkg/datadog/metadata.go:65–99`: the item's bytes
are read as characters, each byte that begins no valid encoding as U+FFFD, and written between
quotes. -/
def itemDisplay (item : Text.Bytes) : Text.Bytes :=
  let s := Text.lossy item
  let q := itemQuote s
  Text.utf8 (String.ofList (q :: (s.toList.flatMap (itemChar q) ++ [q])))

/-- A list of texts as a Python list display, `listRepr` of `src/pkg/datadog/metadata.go:54–63`. -/
def listDisplay (items : List Text.Bytes) : Text.Bytes :=
  if items.isEmpty then Text.utf8 "[]"
  else Text.utf8 "[" ++ (Text.utf8 ", ").intercalate (items.map itemDisplay) ++ Text.utf8 "]"

/-- The message of a signal, `MapMessage` of `src/pkg/datadog/metadata.go:40–45`. -/
def mapMessage (id : Text.Bytes) (falsePositives : List Text.Bytes) (description : Text.Bytes) :
    Text.Bytes :=
  let d := if description.isEmpty then Text.utf8 "None" else description
  Text.utf8 "SIGMA Rule ID: " ++ id ++ Text.utf8 " \n False Positives: " ++
    listDisplay falsePositives ++ Text.utf8 ") \n Description: " ++ d

example : listDisplay [Text.utf8 "a", Text.utf8 "it's"] = Text.utf8 "['a', \"it's\"]" := by
  decide +kernel
example : listDisplay [[0x80]] = Text.utf8 "['�']" := by decide +kernel

end SigmaQuery.Document
