import SigmaQuery.Document.Rule
import SigmaQuery.Rule.Error

/-!
# The import format of rule documents

The import format pins the fixed parts of a rule document: the product, the prefixes of name
and message, exactly one query grouped by the user's identity, the timing options, and one
case of a known status. It is written here as a schema over JSON values, with the kinds of
constraint the format uses: a type, a constant, a list of allowed values, a required prefix of
a text, a least text length, least and greatest array lengths, a schema for the items of an
array, and schemas for the members of an object.

`Schema.check` lists the reasons a value breaks a schema, each as `place: description`,
where the place is the dotted path of members and item numbers. A value of the wrong type
gives that reason alone. Otherwise the constraints are checked in order: the items of an
array before its length, the constant and allowed values before text length and prefix, and
an object's members after the object itself.

Source: `documentSchema` and `ValidateDocument` of `src/pkg/datadog/schema.go:11–118`,
with the reasons the gojsonschema package gives.
-/

namespace SigmaQuery

open Text

/-- The constraints of a schema on one value, apart from its items and members. -/
structure Constraints where
  /-- The JSON type the value must have. -/
  type? : Option String := none
  /-- The value it must equal. -/
  const? : Option JsonValue := none
  /-- The values it must be one of, when not empty. -/
  allowed : List JsonValue := []
  /-- The text it must start with. -/
  start? : Option String := none
  /-- The least number of characters of a text. -/
  minLength? : Option Nat := none
  /-- The least number of items of an array. -/
  minItems? : Option Nat := none
  /-- The greatest number of items of an array. -/
  maxItems? : Option Nat := none
  deriving Inhabited

/-- A schema: constraints, a schema for every item of an array, and schemas for members. -/
inductive Schema where
  | mk (c : Constraints) (items : Option Schema) (members : List (String × Schema))
  deriving Inhabited

namespace Schema

/-- The JSON type of a value. -/
def typeName : JsonValue → String
  | .null => "null"
  | .bool _ => "boolean"
  | .num _ => "integer"
  | .str _ | .bytes _ => "string"
  | .arr _ => "array"
  | .obj _ => "object"

/-- Whether a value has a type; integers are also numbers. -/
def hasType (v : JsonValue) (t : String) : Bool :=
  typeName v == t || (t == "number" && typeName v == "integer")

/-- The canonical text of a value, by which constants and allowed values are compared. -/
def canonical (v : JsonValue) : String := lossy (v.render true)

/-- The place of a member or item below a place. -/
def stepInto (place : String) (step : String) : String :=
  if place == "" then step else place ++ "." ++ step

/-- How a reason names its place; the whole value is `(root)`. -/
def placeName (place : String) : String :=
  if place == "" then "(root)" else place

/-- The reasons a value breaks the constant and the allowed values. -/
def common (c : Constraints) (place : String) (v : JsonValue) : List String :=
  let field := placeName place
  let constant := match c.const? with
    | some k =>
      if canonical v == canonical k then []
      else [field ++ ": " ++ field ++ " does not match: " ++ canonical k]
    | none => []
  let allowed :=
    if c.allowed.isEmpty || c.allowed.any (fun a => canonical a == canonical v) then []
    else [field ++ ": " ++ field ++ " must be one of the following: " ++
      ", ".intercalate (c.allowed.map canonical)]
  constant ++ allowed

/-- The reasons a text breaks its length and prefix. -/
def textReasons (c : Constraints) (place : String) (s : String) : List String :=
  let field := placeName place
  let short := match c.minLength? with
    | some n =>
      if s.length < n then
        [field ++ ": String length must be greater than or equal to " ++ toString n]
      else []
    | none => []
  let pfx := match c.start? with
    | some p => if s.startsWith p then [] else [field ++ ": Does not match pattern '^" ++ p ++ "'"]
    | none => []
  short ++ pfx

/-- The reasons an array breaks its length. -/
def lengthReasons (c : Constraints) (place : String) (n : Nat) : List String :=
  let field := placeName place
  let few := match c.minItems? with
    | some m => if n < m then [field ++ ": Array must have at least " ++ toString m ++ " items"] else []
    | none => []
  let many := match c.maxItems? with
    | some m => if n > m then [field ++ ": Array must have at most " ++ toString m ++ " items"] else []
    | none => []
  few ++ many

mutual

/-- The reasons a value at a place breaks a schema. -/
def check (place : String) : Schema → JsonValue → List String
  | .mk c items members, v =>
    let wrongType := match c.type? with
      | some t => !hasType v t
      | none => false
    if wrongType then
      [placeName place ++ ": Invalid type. Expected: " ++ (c.type?.getD "") ++ ", given: " ++
        typeName v]
    else
      match v with
      | .arr xs => checkItems place items xs ++ lengthReasons c place xs.length ++ common c place v
      | .obj ms => common c place v ++ checkMembers place members ms
      | .str s => common c place v ++ textReasons c place s
      | .bytes b =>
        -- a byte that begins no valid encoding is read back as U+FFFD
        common c place (.str (Text.lossy b)) ++ textReasons c place (Text.lossy b)
      | _ => common c place v

/-- The reasons the items of an array break the item schema. -/
def checkItems (place : String) : Option Schema → List JsonValue → List String
  | none, _ => []
  | some s, xs => (xs.zipIdx.map fun (x, i) => check (stepInto place (toString i)) s x).flatten

/-- The reasons the members of an object break their schemas, in the order of the schema. -/
def checkMembers (place : String) : List (String × Schema) → List (String × JsonValue) → List String
  | [], _ => []
  | (name, s) :: rest, ms =>
    (match ms.lookup name with
      | some x => check (stepInto place name) s x
      | none => []) ++ checkMembers place rest ms

end

/-- A schema of constraints alone. -/
def leaf (c : Constraints) : Schema := .mk c none []

/-- The schema of a text. -/
def text : Schema := leaf { type? := some "string" }

/-- The schema of an array with a fixed value. -/
def fixedArray (v : JsonValue) : Schema := leaf { type? := some "array", const? := some v }

/-- The schema of an object with members. -/
def object (members : List (String × Schema)) : Schema := .mk { type? := some "object" } none members

/-- The schema of an array of exactly one item. -/
def single (item : Schema) : Schema :=
  .mk { type? := some "array", minItems? := some 1, maxItems? := some 1 } (some item) []

/-- The schema of an empty array. -/
def empty : Schema := leaf { type? := some "array", maxItems? := some 0 }

/-- The schema of a fixed value of any type. -/
def fixed (v : JsonValue) : Schema := leaf { const? := some v }

/-- The statuses a case may raise. -/
def statuses : List JsonValue := ["informational", "low", "medium", "high", "critical"].map .str

/-- The schema of the import format.
`documentSchema`, `src/pkg/datadog/schema.go:11–68`. -/
def ruleDocument : Schema :=
  object [
    ("product", fixedArray (.arr [.str RuleDocument.productName])),
    ("name", leaf { type? := some "string", start? := some "SIGMA Threshold Detection - " }),
    ("message", leaf { type? := some "string", start? := some "SIGMA Rule ID: " }),
    ("tags", .mk { type? := some "array" } (some text) []),
    ("source", text),
    ("queries", single (object [
      ("name", text),
      ("query", leaf { type? := some "string", minLength? := some 1 }),
      ("groupByFields", fixedArray (.arr [.str RuleDocument.groupBy])),
      ("distinctFields", empty),
      ("aggregation", text)])),
    ("options", object [
      ("detectionMethod", fixed (.str RuleDocument.detectionMethod)),
      ("evaluationWindow", fixed (.num RuleDocument.hour)),
      ("keepAlive", fixed (.num RuleDocument.hour)),
      ("maxSignalDuration", fixed (.num RuleDocument.day))]),
    ("cases", single (object [
      ("status", leaf { allowed := statuses }),
      ("notifications", empty),
      ("name", text),
      ("condition", fixed (.str RuleDocument.caseCondition))]))]

end Schema

namespace RuleDocument

/-- The reasons a document breaks the import format; none when it conforms. -/
def reasons (d : RuleDocument) : List String :=
  Schema.ruleDocument.check "" d.toJson

/-- Checks a document against the import format; a missing document is refused too.
`ValidateDocument`, `src/pkg/datadog/schema.go:94–118`. -/
def validate (ruleId : String) : Option RuleDocument → Except RuleError Unit
  | none => .error (.invalidDocument ruleId ["document is nil"])
  | some d =>
    match d.reasons with
    | [] => .ok ()
    | rs => .error (.invalidDocument ruleId rs)

end RuleDocument

end SigmaQuery
