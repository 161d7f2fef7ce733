import SigmaQuery.Text.Blank
import SigmaQuery.Text.Case
import SigmaQuery.Text.Quoted
/-!
# Output modes

A conversion writes either the log search query of a rule or a whole security monitoring
rule document. Modes are also addressed by number; other numbers name no mode and print as
`mode(N)`.

Source: `OutputMode`, its `String` method and `ParseOutputMode`,
`src/pkg/datadog/backend.go:19–50`.
-/

namespace SigmaQuery

/-- What a conversion produces.
`OutputMode`, `src/pkg/datadog/backend.go:19–27`. -/
inductive OutputMode where
  /-- The log search query. -/
  | query
  /-- A security monitoring rule document. -/
  | siemRule
  /-- A number that names no mode. -/
  | unknown (code : Int)
  deriving DecidableEq, Repr, Inhabited

namespace OutputMode

/-- The mode with a given number. -/
def ofCode : Int → OutputMode
  | 0 => .query
  | 1 => .siemRule
  | n => .unknown n

/-- The name of a mode.
`OutputMode.String`, `src/pkg/datadog/backend.go:29–38`. -/
def name : OutputMode → String
  | .query => "query"
  | .siemRule => "siem_rule"
  | .unknown n => "mode(" ++ toString n ++ ")"

/-- Reads a mode name without regard to case and surrounding blanks; no name means a
query.
`ParseOutputMode`, `src/pkg/datadog/backend.go:41–50`. -/
def parse (raw : String) : Except String OutputMode :=
  match Text.lower (Text.trimBlank raw) with
  | "" | "query" => .ok .query
  | "siem_rule" => .ok .siemRule
  | _ => .error ("unknown output mode " ++ Text.quote raw ++
      ", supported values are query and siem_rule")

end OutputMode

end SigmaQuery
