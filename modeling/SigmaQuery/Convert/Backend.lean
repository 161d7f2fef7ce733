import SigmaQuery.Convert.Mode
import SigmaQuery.Document.Schema
import SigmaQuery.Query.Compile
import SigmaQuery.Rule.Parse
import SigmaQuery.Text.Uuid

/-!
# Converting rules

A backend turns rules into queries or rule documents. It is set up from a configuration: a
number of workers (negative numbers are refused), field renamings (an empty name on either
side is refused), and whether documents are checked against the import format.

Converting a rule compiles its condition tree. A query is the result in query mode. For a
document the metadata must name the rule and give a known level or none; when documents are
checked, the rule identifier must also be a UUID and the document must conform. Faults carry
the rule's identifier.

Converting a collection converts each rule on its own and keeps the results in the order of
the rules; a failed conversion keeps an empty output. The number of workers changes how the
work is shared, not the results.

Source: `src/pkg/datadog/backend.go:52–257`: the backend, `Convert`, the `convert` closure
of `ConvertCollection` and its sequential loop.
-/

namespace SigmaQuery

/-- How a backend is set up.
`Config`, `src/pkg/datadog/backend.go:52–63`. -/
structure Config where
  /-- How many rules are converted at once; below 2 they are converted one by one. -/
  workers : Int := 0
  /-- Field renamings. -/
  fieldMapping : List (String × String) := []
  /-- Whether documents are checked against the import format. -/
  validate : Bool := false
  deriving Repr, Inhabited

namespace Config

/-- Checks a configuration.
`Config.validate`, `src/pkg/datadog/backend.go:65–75`. -/
def check (c : Config) : Except String Unit :=
  if c.workers < 0 then .error ("invalid worker count " ++ toString c.workers)
  else
    match c.fieldMapping.find? (fun (k, v) => k == "" || v == "") with
    | some (k, v) => .error ("invalid field mapping " ++ Text.quote k ++ " -> " ++ Text.quote v)
    | none => .ok ()

end Config

/-- A backend ready to convert rules.
`Backend`, `src/pkg/datadog/backend.go:77–84`. -/
structure Backend where
  compiler : Query.Compiler
  workers : Int
  checked : Bool
  deriving Repr, Inhabited

/-- What converting one rule gives: the mode, the query, and the document in document
mode.
`Output`, `src/pkg/datadog/backend.go:104–110`. -/
structure Output where
  mode : OutputMode := .query
  query : Text.Bytes := []
  document : Option RuleDocument := none
  deriving Repr, Inhabited

namespace Output

/-- The JSON of the document, `null` when there is none. -/
def documentJson (o : Output) (webSafe : Bool) : Text.Bytes :=
  match o.document with
  | some d => d.toJson.render webSafe
  | none => Text.utf8 "null"

/-- The text of an output: the query in query mode, the document's JSON otherwise; `Output.String`
of `src/pkg/datadog/backend.go:121–130`. -/
def text (o : Output) : Text.Bytes :=
  if o.mode == .query then o.query else o.documentJson true

/-- The JSON of an output: the document in document mode, the query as a string otherwise;
`Output.MarshalJSON` of `src/pkg/datadog/backend.go:113–118`. -/
def json (o : Output) : Text.Bytes :=
  if o.mode == .siemRule then o.documentJson true else Text.jsonBytes true o.query

end Output

namespace Backend

/-- Sets up a backend.
`New`, `src/pkg/datadog/backend.go:87–102`. -/
def new (c : Config) : Except String Backend := do
  c.check
  pure { compiler := { fieldMapping := c.fieldMapping }, workers := c.workers, checked := c.validate }

/-- The query of a condition tree.
`Backend.Compile`, `src/pkg/datadog/backend.go:133–135`. -/
def compile (b : Backend) (cond : Condition) : Except RuleError Text.Bytes :=
  b.compiler.compile cond

/-- Converts one rule; no rule is a fault.
`Backend.Convert`, `src/pkg/datadog/backend.go:139–178`. -/
def convert (b : Backend) (rule : Option Rule) (mode : OutputMode) : Except RuleError Output := do
  let some r := rule | throw (.malformed "" "nil rule")
  let id := Text.lossy r.metadata.id
  let query ← match b.compile r.root with
    | .ok q => pure q
    | .error e => throw (e.withRuleId id)
  match mode with
  | .query => pure { mode, query }
  | .siemRule =>
    let faults := r.metadata.faults
    if !faults.isEmpty then
      throw (.malformed id ("invalid metadata: " ++ "\n".intercalate faults))
    if b.checked then
      if let some fault := Text.uuidFault? r.metadata.id then
        throw (.malformed id ("rule id " ++ Text.quoteBytes r.metadata.id ++ " is not a uuid: " ++
          fault))
    let doc := RuleDocument.assemble r.metadata query
    if b.checked then RuleDocument.validate id (some doc)
    pure { mode, query, document := some doc }
  | .unknown _ => throw (.plain ("unknown output mode " ++ mode.name))

/-- Whether converting a rule warns that its identifier is not a UUID: in document mode, for a
rule that gets that far, when documents are not checked.
`src/pkg/datadog/backend.go:157–167`. -/
def warnsAboutId (b : Backend) (rule : Option Rule) (mode : OutputMode) : Bool :=
  match rule with
  | none => false
  | some r =>
    mode == .siemRule && !b.checked && (b.compile r.root).toBool && r.metadata.faults.isEmpty &&
      (Text.uuidFault? r.metadata.id).isSome

end Backend

/-- The result of converting the rule at a position of a collection.
`Result`, `src/pkg/datadog/backend.go:180–186`. -/
structure Conversion where
  index : Nat
  ruleId : String
  output : Output
  error : Option RuleError
  deriving Repr, Inhabited

namespace Backend

/-- The result for the rule at position `i` of a collection: its identifier (empty for no
rule), and its output or its fault, with an empty output when it failed.
The `convert` closure of `ConvertCollection`, `src/pkg/datadog/backend.go:233–250`. -/
def conversion (b : Backend) (mode : OutputMode) (rule : Option Rule) (i : Nat) : Conversion :=
  let ruleId := (rule.map fun r => Text.lossy r.metadata.id).getD ""
  match b.convert rule mode with
  | .ok o => { index := i, ruleId, output := o, error := none }
  | .error e => { index := i, ruleId, output := {}, error := some e }

/-- Converts every rule of a collection, keeping their order.
The sequential loop of `ConvertCollection`, `src/pkg/datadog/backend.go:252–257`. -/
def convertAll (b : Backend) (rules : List (Option Rule)) (mode : OutputMode) : List Conversion :=
  rules.zipIdx.map fun (rule, i) => b.conversion mode rule i

end Backend

namespace Conversion

/-- The outputs of the conversions that succeeded, in order.
`Results.Outputs`, `src/pkg/datadog/backend.go:192–200`. -/
def outputs (cs : List Conversion) : List Output :=
  cs.filterMap fun c => if c.error.isNone then some c.output else none

/-- The faults of a collection, gathered in order; `none` when every rule was converted.
`Results.Err`, `src/pkg/datadog/backend.go:203–214`. -/
def fault? (cs : List Conversion) : Option RuleError :=
  match cs.filterMap (·.error) with
  | [] => none
  | es => some (.batch es)

end Conversion

end SigmaQuery
