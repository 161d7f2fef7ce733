import SigmaQuery.Expr.Token
import SigmaQuery.Rule.Value
/-!
# Rule errors

Why a rule cannot be read, built, converted or checked. Each cause carries the facts its
message needs; the wording lives in `RuleError.message` alone.

Two causes are *unsupported*: a token the condition reader does not handle and a feature the
query language cannot express. A rule that fails only for such a cause is valid but cannot be
converted; every other cause is a fault of the rule. Causes that gather others (a batch of
conversions, a context added to a cause) are unsupported when one of their parts is.

Source: `src/errors.go:10–148`, `IsUnsupported` of `src/ruleset.go:109–113`,
`ErrBulkConvert` of `src/pkg/datadog/backend.go:217–224` and `ErrInvalidDocument` of
`src/pkg/datadog/schema.go:84–91`.
-/

namespace SigmaQuery

/-- Why a rule cannot be read, built, converted or checked. -/
inductive RuleError where
  /-- A modifier, operator or value the query language cannot express. -/
  | unsupportedFeature (ruleId feature detail : String)
  /-- A structural fault of a condition tree or selection. -/
  | malformed (ruleId detail : String)
  /-- The rule has no detection section. -/
  | missingDetection
  /-- The detection section has no usable condition. -/
  | missingCondition
  /-- The condition names an identifier the detection section does not define. -/
  | missingIdentifier (key : String)
  /-- The condition holds a token that cannot be read, such as an aggregation. -/
  | unsupportedToken (detail : String)
  /-- Two tokens of the condition cannot follow each other. -/
  | invalidSequence (collected : Nat) (prev next : Expr.Token)
  /-- A detection entry has a shape no selection is built from. -/
  | invalidSelection (key : String) (shown : Option Value)
  /-- A rule file is not valid YAML for a rule. -/
  | yamlFile (path : String) (count : Nat) (cause : String)
  /-- Several rule files are not valid YAML for a rule. -/
  | yamlFiles (files : List (String × Nat × String))
  /-- A rule document breaks the import format. -/
  | invalidDocument (ruleId : String) (reasons : List String)
  /-- Some rules of a batch could not be converted. -/
  | batch (errors : List RuleError)
  /-- A cause with the place it arose at written in front. -/
  | context (place : String) (cause : RuleError)
  /-- Any other failure, given by its message. -/
  | plain (message : String)
  deriving Repr, Inhabited

namespace RuleError

/-- A message followed by ` [rule ID]` when the rule has an identifier.
`withRuleIDSuffix`, `src/errors.go:35–40`. -/
def withIdSuffix (msg ruleId : String) : String :=
  if ruleId == "" then msg else msg ++ " [rule " ++ ruleId ++ "]"

/-- The message of a cause.
The `Error` methods of `src/errors.go:16–148`. -/
def message : RuleError → String
  | .unsupportedFeature id feature detail =>
    withIdSuffix ("unsupported feature: " ++ feature ++ (if detail == "" then "" else ", " ++ detail)) id
  | .malformed id detail => withIdSuffix ("malformed rule: " ++ detail) id
  | .missingDetection => "sigma rule is missing detection field"
  | .missingCondition => "sigma rule is missing condition"
  | .missingIdentifier key => "missing condition identifier " ++ key
  | .unsupportedToken detail => "UNSUPPORTED TOKEN: " ++ detail
  | .invalidSequence n prev next =>
    "seq error after collecting " ++ toString n ++ " elements. Invalid token sequence " ++
      prev.kind.name ++ " -> " ++ next.kind.name ++ ". Values: " ++ prev.text ++ " -> " ++
      next.text ++ "."
  | .invalidSelection key none => "invalid selection " ++ key ++ ", got empty value"
  | .invalidSelection key (some v) =>
    "invalid selection " ++ key ++ ". Got |" ++ v.display ++ "| with type |" ++ v.shapeName ++ "|"
  | .yamlFile path count cause => toString count ++ " - File: " ++ path ++ "; Err: " ++ cause
  | .yamlFiles files => "got " ++ toString files.length ++ " broken yaml files"
  | .invalidDocument id reasons =>
    "invalid rule document for " ++ id ++ ": " ++ "; ".intercalate reasons
  | .batch errors => "failed to convert " ++ toString errors.length ++ " rules"
  | .context place cause => place ++ ": " ++ cause.message
  | .plain msg => msg

/-- Fills in the rule identifier of a feature or structure fault that has none yet; other
causes are kept as they are.
`WithRuleID`, `src/errors.go:44–59`. -/
def withRuleId (id : String) : RuleError → RuleError
  | .unsupportedFeature "" feature detail => .unsupportedFeature id feature detail
  | .malformed "" detail => .malformed id detail
  | e => e

mutual
/-- Whether a cause, or one of the causes it gathers, is an unsupported token or feature.
`IsUnsupported`, `src/ruleset.go:109–113`. -/
def isUnsupported : RuleError → Bool
  | .unsupportedToken _ => true
  | .unsupportedFeature .. => true
  | .batch errors => anyUnsupported errors
  | .context _ cause => cause.isUnsupported
  | _ => false

/-- Whether one of a list of causes is unsupported. -/
def anyUnsupported : List RuleError → Bool
  | [] => false
  | e :: rest => e.isUnsupported || anyUnsupported rest
end

end RuleError

end SigmaQuery
