import SigmaQuery.Cli.Session
import SigmaQuery.Cli.Settings
import SigmaQuery.Rule.Ruleset
/-!
# Rules on the command line

The steps the commands share: listing the rule files below the directories of the setting
`rules.dir` that match the patterns of `rules.include`, reading the placeholder file of the
setting `sigma.placeholders`, reading rule files as YAML, and counting how rules fared. A
step that cannot be done stops the run with its reason.

Source: `counts` and `loadPlaceholders` of `src/cmd/parse.go:27–113`, and the calls of
`NewRuleFileList` and `NewRuleList` in `src/cmd/convert.go:47–118`.
-/

namespace SigmaQuery.Cli

open Files

/-- How many rules were handled, failed, and used what cannot be converted.
`counts`, `src/cmd/parse.go:27–29`. -/
structure Tally where
  ok : Nat := 0
  fail : Nat := 0
  unsupported : Nat := 0
  deriving Repr, Inhabited, DecidableEq

namespace Tally

/-- Counts the outcome of one rule.
`counts.add`, `src/cmd/parse.go:31–40`. -/
def add (t : Tally) : Option RuleError → Tally
  | none => { t with ok := t.ok + 1 }
  | some e => if e.isUnsupported then { t with unsupported := t.unsupported + 1 } else { t with fail := t.fail + 1 }

/-- The closing line of a command.
`src/cmd/parse.go:104` and `src/cmd/convert.go:164`. -/
def summary (t : Tally) : String :=
  "OK: " ++ toString t.ok ++ "; FAIL: " ++ toString t.fail ++ "; UNSUPPORTED: " ++ toString t.unsupported

end Tally

namespace Run

/-- The rule files below the directories of the settings, in walking order.
`src/cmd/parse.go:52–58` and `collectRuleFiles`, `src/cmd/convert.go:47–55`. -/
def listRuleFiles (src : Sources) : Run (List String) := do
  let (files, fault) := ruleFiles (← volume) (src.texts "rules.dir") (src.texts "rules.include")
  match fault with
  | some e => fatal e
  | none => pure files

/-- The placeholders of the file the settings name, if they name one.
`loadPlaceholders`, `src/cmd/parse.go:107–113`. -/
def loadPlaceholders (src : Sources) : Run (Option Placeholders) := do
  let path := src.text "sigma.placeholders"
  if path.isEmpty then return none
  match Ruleset.readPlaceholders (← volume) path with
  | .ok p => pure (some p)
  | .error e => fatal e.message

/-- Reads rule files as YAML; the files that are not YAML for a rule are given back when
`skip` lets reading go on past them.
`src/cmd/convert.go:106–118` and `src/cmd/parse.go:67–80`. -/
def readRules (files : List String) (skip : Bool) :
    Run (List Ruleset.Handle × List (String × Nat × String)) := do
  match Ruleset.readRuleFiles (← volume) files skip with
  | .ok r => pure r
  | .error e => fatal e.message

end Run

end SigmaQuery.Cli
