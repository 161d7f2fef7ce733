import SigmaQuery.Text.Utf8
/-!
# Rule metadata

The fields of a rule that are carried into a rule document: identifier, title, description,
false positives, tags, level and the log source service. The level is kept as text, because a
document accepts any level a rule states and a check decides later whether it is one of the
five known ones. The identifier, title, description, false positives, tags and service are kept
as the bytes written, because a binary scalar may give bytes that are not UTF-8 and a document
carries them as they are.

`Metadata.faults` is that check: a document needs an identifier, and a level that is given
must be one of the five, written in lower case.

Source: `RuleMetadata` of `src/rule.go:170–179` and its check by `validate.Struct` in
`Backend.Convert`, `src/pkg/datadog/backend.go:151–156`.
-/

namespace SigmaQuery

/-- The fields of a rule that rule documents carry.
`RuleMetadata`, `src/rule.go:170–179`. -/
structure Metadata where
  /-- The rule identifier. -/
  id : Text.Bytes := []
  /-- The rule title. -/
  title : Text.Bytes := []
  /-- The rule description. -/
  description : Text.Bytes := []
  /-- Known sources of false positives. -/
  falsePositives : List Text.Bytes := []
  /-- Tags, such as techniques of an attack framework. -/
  tags : List Text.Bytes := []
  /-- The level of the rule. -/
  level : String := ""
  /-- The service of the rule's log source. -/
  logsourceService : Text.Bytes := []
  deriving Repr, Inhabited, DecidableEq

namespace Metadata

/-- The levels a document accepts.
The `oneof` tag of `RuleMetadata.Level`, `src/rule.go:177`. -/
def knownLevels : List String := ["informational", "low", "medium", "high", "critical"]

/-- The message of a field that breaks a check. -/
def fieldFault (field check : String) : String :=
  "Key: 'RuleMetadata." ++ field ++ "' Error:Field validation for '" ++ field ++
    "' failed on the '" ++ check ++ "' tag"

/-- Why metadata cannot be carried into a document, field by field; empty when it can.
The `validate` tags of `RuleMetadata`, `src/rule.go:172–177`. -/
def faults (m : Metadata) : List String :=
  (if m.id.isEmpty then [fieldFault "ID" "required"] else []) ++
  (if m.level != "" && !knownLevels.contains m.level then [fieldFault "Level" "oneof"] else [])

end Metadata

end SigmaQuery
