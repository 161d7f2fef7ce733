import SigmaQuery.Cli.Rules
import SigmaQuery.Convert.Backend
/-!
# Converting from the command line

The `convert` command turns rules into queries or rule documents. The rule files are the
arguments, or else the files listed below the rule directories. Files that are not YAML for a
rule are logged as errors, and rules that cannot be built as warnings with their path; with
the setting `convert.fail` either stops the run instead. The backend is set up from the
settings `convert.workers`, `datadog.fieldmap` and `output.validate`, and converts each rule
in turn: a document whose rule identifier is not a UUID is noted with a warning, and a rule
that cannot be converted with a warning that names its position, the mode and its
identifier. With `convert.fail`, any such rule stops the run.

The outputs of the rules that were converted go, in order, one per line, to the file of the
setting `output.file`, or to standard output: queries as they are, documents as compact JSON
that leaves `<`, `>` and `&` as they are. The last line counts the rules that made it,
failed, and used what cannot be converted.

Source: `src/cmd/convert.go:34–196`, with the logging of `ConvertCollection` in
`src/pkg/datadog/backend.go:231–257`.
-/

namespace SigmaQuery.Cli

open Run

/-- Builds the rules of the handles, warning about those that cannot be built, or stopping
at the first of them when `failFast`.
The rule loop of `convert`, `src/cmd/convert.go:121–133`. -/
def buildRules (ph : Option Placeholders) (failFast : Bool) :
    List Ruleset.Handle → Tally → Run (List Rule × Tally)
  | [], t => pure ([], t)
  | h :: rest, t => do
    match Rule.ofRaw h.raw h.multipart h.path ph with
    | .ok r =>
      let (rs, t) ← buildRules ph failFast rest t
      pure (r :: rs, t)
    | .error e =>
      if failFast then fatal (h.path ++ ": " ++ e.message)
      logWith .warning e.message [("path", Text.utf8 h.path)]
      buildRules ph failFast rest (t.add (some e))

/-- Converts each rule in turn, logging what goes wrong, and counts how they fared.
`ConvertCollection` with its logging, `src/pkg/datadog/backend.go:231–257`, and the
counting of `convert`, `src/cmd/convert.go:144–150`. -/
def convertRules (b : Backend) (mode : OutputMode) :
    List (Rule × Nat) → Tally → Run (List Conversion × Tally)
  | [], t => pure ([], t)
  | (r, i) :: rest, t => do
    if b.warnsAboutId (some r) mode then
      logWith .warning "rule id is not a uuid" [("rule_id", r.metadata.id)]
    let c := match b.convert (some r) mode with
      | .ok o => { index := i, ruleId := Text.lossy r.metadata.id, output := o, error := none }
      | .error e => { index := i, ruleId := Text.lossy r.metadata.id, output := {}, error := some e }
    if let some e := c.error then
      logWith .warning e.message [("index", Text.utf8 (toString i)), ("mode", Text.utf8 mode.name),
        ("rule_id", r.metadata.id)]
    let (cs, t) ← convertRules b mode rest (t.add c.error)
    pure (c :: cs, t)

/-- The bytes the outputs of a conversion are written as, `writeResults` of
`src/cmd/convert.go:70–89`: for each output, in order, its document as plain JSON in document mode
and its query otherwise, each followed by a line feed. -/
def outputText (mode : OutputMode) (cs : List Conversion) : Text.Bytes :=
  (Conversion.outputs cs).flatMap fun o =>
    (if mode == .siemRule then o.documentJson false else o.query) ++ [0x0A]

/-- The `convert` command with the arguments left after the flags.
`convert`, `src/cmd/convert.go:91–165`. -/
def convert (src : Sources) (args : List String) : Run Unit := do
  let failFast := src.bool "convert.fail"
  let mode ← match OutputMode.parse (src.text "output.mode") with
    | .ok m => pure m
    | .error e => fatal e
  let files ← if args.isEmpty then listRuleFiles src else pure args
  let ph ← loadPlaceholders src
  let (handles, broken) ← readRules files (!failFast)
  for (path, index, cause) in broken do
    log .error (RuleError.yamlFile path index cause).message
  log .debug ("Got " ++ toString handles.length ++ " rules from " ++ toString files.length ++ " files")
  let (rules, t) ← buildRules ph failFast handles { fail := broken.length }
  let config : Config := { workers := src.int "convert.workers",
                           fieldMapping := src.pairs "datadog.fieldmap",
                           validate := src.bool "output.validate" }
  let backend ← match Backend.new config with
    | .ok b => pure b
    | .error e => fatal e
  let (conversions, t) ← convertRules backend mode rules.zipIdx t
  if failFast then
    if let some e := Conversion.fault? conversions then fatal e.message
  let target ← openOutput (src.text "output.file")
  emit target (outputText mode conversions)
  log .info t.summary

end SigmaQuery.Cli
