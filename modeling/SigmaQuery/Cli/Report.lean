import SigmaQuery.Cli.Rules
import SigmaQuery.Convert.Backend
/-!
# Support reports

The `parse` command reports how well a rule set is supported. It lists the rule files (each
at trace level), reads the placeholders, reads every file as YAML, and notes the files that
are not YAML for a rule: an error line for their number, then a warning for each. Every rule
is then built and compiled to a query. A rule that makes it is reported as ok; one that uses
what cannot be converted as a warning; any other fault as an error. The last line counts the
three kinds.

Source: `parse` of `src/cmd/parse.go:42–105`.
-/

namespace SigmaQuery.Cli

open Run

/-- Builds and compiles one rule, giving why it failed, if it did.
`src/cmd/parse.go:90–93`. -/
def checkRule (b : Backend) (ph : Option Placeholders) (h : Ruleset.Handle) : Option RuleError :=
  match Rule.ofRaw h.raw h.multipart h.path ph with
  | .error e => some e
  | .ok r =>
    match b.compile r.root with
    | .error e => some e
    | .ok _ => none

/-- Reports on each rule in turn, counting how they fared.
The rule loop of `parse`, `src/cmd/parse.go:88–103`. -/
def reportRules (b : Backend) (ph : Option Placeholders) : List Ruleset.Handle → Tally → Run Tally
  | [], t => pure t
  | h :: rest, t => do
    log .trace h.path
    let fault := checkRule b ph h
    match fault with
    | none => log .info (h.path ++ ": ok")
    | some e =>
      if e.isUnsupported then log .warning (e.message ++ ": " ++ h.path)
      else log .error (e.message ++ ": " ++ h.path)
    reportRules b ph rest (t.add fault)

/-- The `parse` command.
`parse`, `src/cmd/parse.go:51–105`. -/
def report (src : Sources) : Run Unit := do
  let files ← listRuleFiles src
  for f in files do log .trace f
  let ph ← loadPlaceholders src
  log .info "Parsing rule yaml files"
  let (handles, broken) ← readRules files true
  if !broken.isEmpty then
    log .error (RuleError.yamlFiles broken).message
    for (path, index, cause) in broken do
      log .warning (RuleError.yamlFile path index cause).message
  log .info ("Got " ++ toString handles.length ++ " rules from yaml")
  log .info "Parsing rules into AST"
  let backend ← match Backend.new {} with
    | .ok b => pure b
    | .error e => fatal e
  let t ← reportRules backend ph handles { fail := broken.length }
  log .info t.summary

end SigmaQuery.Cli
