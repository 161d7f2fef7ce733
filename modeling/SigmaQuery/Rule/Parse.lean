import SigmaQuery.Rule.Build
import SigmaQuery.Rule.Raw
import SigmaQuery.Rule.Level
import SigmaQuery.Document.Metadata

/-!
# Rules

A rule is its condition tree, the metadata documents carry, and the path of the file it was
read from. Building a rule from its fields refuses, in this order: a file holding more than
one document, an unknown level, a missing detection section, a missing, empty or non-text
condition (a list of conditions is an unsupported feature), and then whatever the condition
itself is refused for. Feature and structure faults name the rule's identifier.

Source: `Rule`, `ParseRule` and `NewRule` of `src/tree.go:14–78`, and `RawRule.Metadata`
of `src/rule.go:46–60`.
-/

namespace SigmaQuery

/-- A rule ready for conversion.
`Rule`, `src/tree.go:14–20`. -/
structure Rule where
  /-- The detection logic. -/
  root : Condition
  /-- The fields documents carry. -/
  metadata : Metadata
  /-- The file the rule was read from, empty for a rule read from memory. -/
  path : String := ""
  deriving Repr, Inhabited

namespace RawRule

/-- The metadata of a rule: the level is normalised, and the lists are given even when the
rule has none.
`RawRule.Metadata`, `src/rule.go:46–60`. -/
def metadata (r : RawRule) : Except RuleError Metadata :=
  match Level.parse r.level with
  | .error msg => .error (.malformed (Text.lossy r.id) msg)
  | .ok level =>
    .ok { id := r.id, title := r.title, description := r.description,
          falsePositives := r.falsePositives, tags := r.tags, level := level.name,
          logsourceService := r.logsource.service }

end RawRule

namespace Rule

/-- Builds a rule from its fields.
`NewRule`, `src/tree.go:32–78`. -/
def ofRaw (r : RawRule) (multipart : Bool) (path : String) (ph : Option Placeholders) :
    Except RuleError Rule := do
  if multipart then throw (.unsupportedFeature (Text.lossy r.id) "multi-document rule" path)
  let info ← r.metadata
  let some d := r.detection | throw .missingDetection
  let expr ← match Build.entry? d "condition" with
    | some (.text s) => pure s
    | some (.list items) =>
      throw (.unsupportedFeature (Text.lossy info.id) "condition list"
        ("rule defines " ++ toString items.length ++ " conditions"))
    | _ => throw .missingCondition
  if Text.trimBlank expr == "" then throw .missingCondition
  match Condition.build d ph expr with
  | .ok root => pure { root, metadata := info, path }
  | .error e => throw (e.withRuleId (Text.lossy info.id))

/-- Reads a rule from the text of a rule file.
`ParseRule`, `src/tree.go:23–29`. -/
def parse (text : String) (ph : Option Placeholders) : Except RuleError Rule :=
  match RawRule.decode text with
  | .error msg => .error (.plain msg)
  | .ok r => ofRaw r (RawRule.isMultipart text) "" ph

end Rule

end SigmaQuery
