import SigmaQuery.Document.Message
import SigmaQuery.Document.Metadata
import SigmaQuery.Text.Json

/-!
# Rule documents

A security monitoring rule document as the import format lays it out: the product, the name,
the message, tags, the log source, one threshold query grouped by the user's identity, the
timing options and one case that raises a signal of the rule's level whenever the query
matches. `assemble` builds the document of a rule from its metadata and its compiled query.

Lists may be absent as well as empty, because a document given from outside may leave them
out; `RuleDocument.toJson` writes an absent list as `null` and keeps the members in the order
of the import format.

Source: `src/pkg/datadog/document.go:7–89`.
-/

namespace SigmaQuery

/-- A search query of a rule document.
`Query`, `src/pkg/datadog/document.go:32–39`. -/
structure SearchQuery where
  name : String := ""
  query : Text.Bytes := []
  groupByFields : Option (List String) := none
  distinctFields : Option (List String) := none
  aggregation : String := ""
  deriving Repr, Inhabited, DecidableEq

/-- How a rule document is evaluated; durations in seconds.
`Options`, `src/pkg/datadog/document.go:41–47`. -/
structure Timing where
  detectionMethod : String := ""
  evaluationWindow : Int := 0
  keepAlive : Int := 0
  maxSignalDuration : Int := 0
  deriving Repr, Inhabited, DecidableEq

/-- A case of a rule document: the status of the signal raised when its condition holds.
`Case`, `src/pkg/datadog/document.go:49–55`. -/
structure SignalCase where
  status : String := ""
  notifications : Option (List String) := none
  name : String := ""
  condition : String := ""
  deriving Repr, Inhabited, DecidableEq

/-- A security monitoring rule document. Its name, message, tags and source come from a rule's
texts as written, and are kept as bytes.
`RuleDocument`, `src/pkg/datadog/document.go:19–30`. -/
structure RuleDocument where
  product : Option (List String) := none
  name : Text.Bytes := []
  message : Text.Bytes := []
  tags : Option (List Text.Bytes) := none
  source : Text.Bytes := []
  queries : Option (List SearchQuery) := none
  options : Timing := {}
  cases : Option (List SignalCase) := none
  deriving Repr, Inhabited, DecidableEq

namespace RuleDocument

/-- The product every document is for.
`ProductSecurityMonitoring`, `src/pkg/datadog/document.go:9`. -/
def productName : String := "security_monitoring"

/-- The detection method of every document.
`DetectionMethodThreshold`, `src/pkg/datadog/document.go:10`. -/
def detectionMethod : String := "threshold"

/-- The field every query groups by.
`GroupByUserArn`, `src/pkg/datadog/document.go:11`. -/
def groupBy : String := "@userIdentity.arn"

/-- The condition of every case: the query matched at least once.
`CaseCondition`, `src/pkg/datadog/document.go:12`. -/
def caseCondition : String := "a > 0"

/-- The evaluation window and the keep-alive time, one hour.
`EvaluationWindow` and `KeepAlive`, `src/pkg/datadog/document.go:14–15`. -/
def hour : Int := 3600

/-- The longest signal, one day.
`MaxSignalDuration`, `src/pkg/datadog/document.go:16`. -/
def day : Int := 86400

/-- The document of a rule with a compiled query.
`Assemble`, `src/pkg/datadog/document.go:58–89`. -/
def assemble (info : Metadata) (query : Text.Bytes) : RuleDocument where
  product := some [productName]
  name := Document.mapName info.title
  message := Document.mapMessage info.id info.falsePositives info.description
  tags := some (Document.mapTags info.tags)
  source := info.logsourceService
  queries := some [{ query, groupByFields := some [groupBy], distinctFields := some [] }]
  options := { detectionMethod, evaluationWindow := hour, keepAlive := hour,
               maxSignalDuration := day }
  cases := some [{ status := Document.mapLevel info.level, notifications := some [],
                   condition := caseCondition }]

open Text in
/-- A list of records as an array, or `null` when there is no list. -/
def records {α : Type} (f : α → JsonValue) : Option (List α) → JsonValue
  | none => .null
  | some xs => .arr (xs.map f)

open Text in
/-- A search query as JSON. -/
def queryJson (q : SearchQuery) : JsonValue :=
  .obj [("name", .str q.name), ("query", .bytes q.query),
    ("groupByFields", .strings q.groupByFields), ("distinctFields", .strings q.distinctFields),
    ("aggregation", .str q.aggregation)]

open Text in
/-- A case as JSON. -/
def caseJson (c : SignalCase) : JsonValue :=
  .obj [("status", .str c.status), ("notifications", .strings c.notifications),
    ("name", .str c.name), ("condition", .str c.condition)]

open Text in
/-- A document as JSON, members in the order of the import format.
The `json` tags of `src/pkg/datadog/document.go:19–55`. -/
def toJson (d : RuleDocument) : JsonValue :=
  .obj [("product", .strings d.product), ("name", .bytes d.name), ("message", .bytes d.message),
    ("tags", records JsonValue.bytes d.tags), ("source", .bytes d.source),
    ("queries", records queryJson d.queries),
    ("options", .obj [("detectionMethod", .str d.options.detectionMethod),
      ("evaluationWindow", .num d.options.evaluationWindow),
      ("keepAlive", .num d.options.keepAlive),
      ("maxSignalDuration", .num d.options.maxSignalDuration)]),
    ("cases", records caseJson d.cases)]

end RuleDocument

end SigmaQuery
