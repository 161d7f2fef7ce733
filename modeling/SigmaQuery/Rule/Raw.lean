import SigmaQuery.Rule.Detection

/-!
# Rules as written

A rule file is a YAML mapping with a fixed set of fields: texts (`author`, `description`,
`id`, `level`, `title`, `status`), lists of texts (`fields`, `tags`, and `falsepositives` and
`references`, which also accept a single text), the `logsource` mapping, and the `detection`
section. Other keys are ignored. Only the first document of a file is read. The texts that
rule documents carry as written (`id`, `title`, `description`, `tags`, the log source's
`service`) and the `level` are kept as bytes, since a binary scalar may give bytes that are
not UTF-8.

A field written twice takes the later value; a mapping field written twice keeps the
subfields of both. A value of the wrong shape is noted (`Decoder.typeIssue`) and leaves the
field as it was, and the notes refuse the file together.

Source: `RawRule`, `StringList`, `Logsource` and `isMultipart` of `src/rule.go:27–234`, and
`NewRuleHandle` of `src/tree.go:227–233`.
-/

namespace SigmaQuery

open Yaml Decoder

/-- The `logsource` field: which events a rule applies to.
`Logsource`, `src/rule.go:90–95`. -/
structure Logsource where
  product : String := ""
  category : String := ""
  service : Text.Bytes := []
  definition : String := ""
  deriving Repr, Inhabited, DecidableEq

/-- A rule's fields as written.
`RawRule`, `src/rule.go:27–43`. -/
structure RawRule where
  author : String := ""
  description : Text.Bytes := []
  falsePositives : List Text.Bytes := []
  fields : List String := []
  id : Text.Bytes := []
  level : Text.Bytes := []
  title : Text.Bytes := []
  status : String := ""
  references : List Text.Bytes := []
  logsource : Logsource := {}
  tags : List Text.Bytes := []
  /-- The detection section; `none` when it is missing or empty. -/
  detection : Option (List (Text.Bytes × Value)) := none
  deriving Repr, Inhabited

namespace RawRule

/-- Decodes a list of texts that may also be written as a single text; each text as its bytes.
`StringList.UnmarshalYAML`, `src/rule.go:67–79`. -/
def textListOf (doc : Document) : Nat → Node → DecodeM (Option (List Text.Bytes))
  | 0, _ => throw "yaml: document nested too deeply"
  | fuel + 1, n => do
    enter
    match n with
    | .alias name id target _ => expand doc name id target (textListOf doc fuel)
    | _ =>
      if n.isNull then
        match n with
        | .scalar .. =>
          let (rtag, r) ← resolve n
          match r with
          | .null => pure (some [])
          | _ =>
            typeIssue n rtag "sigma.StringList"
            pure none
        | .sequence items _ => some <$> itemsWith (textBytes doc fuel) items
        | _ =>
          typeIssue n (standardTag "map") "sigma.StringList"
          pure none
      else
        let base := (← get).issues.size
        match ← attempt base (textsBytes doc "[]string" fuel n) with
        | .ok (some l) => pure (some l)
        | _ =>
          match ← attempt base (textBytes doc fuel n) with
          | .ok s => pure (some [s.getD []])
          | .error e => settle (.error e)

mutual

/-- Decodes a node into the `logsource` field, starting from its current value. -/
def logsourceInto (doc : Document) : Nat → Logsource → Node → DecodeM Logsource
  | 0, _, _ => throw "yaml: document nested too deeply"
  | fuel + 1, cur, n => do
    enter
    match n with
    | .alias name id target _ => expand doc name id target (logsourceInto doc fuel cur)
    | .scalar .. =>
      let (rtag, r) ← resolve n
      match r with
      | .null => pure {}
      | _ =>
        typeIssue n rtag "sigma.Logsource"
        pure cur
    | .sequence .. =>
      typeIssue n (standardTag "seq") "sigma.Logsource"
      pure cur
    | .mapping entries _ => logsourceEntries doc fuel cur entries

/-- Decodes the entries of a `logsource` mapping. -/
def logsourceEntries (doc : Document) : Nat → Logsource → List (Node × Node) → DecodeM Logsource
  | 0, _, _ => throw "yaml: document nested too deeply"
  | _ + 1, cur, [] => pure cur
  | fuel + 1, cur, (k, v) :: rest => do
    if k.isMerge then
      let (plan, refused) := mergePlan doc v
      let cur ← logsourceMerge doc fuel cur plan
      if refused then throw mergeRefusal
      logsourceEntries doc fuel cur rest
    else
      let cur ← match ← text doc fuel k with
        | some "product" => do pure { cur with product := (← text doc fuel v).getD cur.product }
        | some "category" => do pure { cur with category := (← text doc fuel v).getD cur.category }
        | some "service" => do
          pure { cur with service := (← textBytes doc fuel v).getD cur.service }
        | some "definition" => do
          pure { cur with definition := (← text doc fuel v).getD cur.definition }
        | _ => pure cur
      logsourceEntries doc fuel cur rest

/-- Merges mappings into the `logsource` field, in order. -/
def logsourceMerge (doc : Document) : Nat → Logsource → List Node → DecodeM Logsource
  | 0, _, _ => throw "yaml: document nested too deeply"
  | _ + 1, cur, [] => pure cur
  | fuel + 1, cur, n :: rest => do
    let cur ← logsourceInto doc fuel cur n
    logsourceMerge doc fuel cur rest

end

/-- Decodes the value of one field of a rule into the rule. -/
def setField (doc : Document) (fuel : Nat) (r : RawRule) (name : String) (v : Node) :
    DecodeM RawRule := do
  match name with
  | "author" => pure { r with author := (← text doc fuel v).getD r.author }
  | "description" => pure { r with description := (← textBytes doc fuel v).getD r.description }
  | "id" => pure { r with id := (← textBytes doc fuel v).getD r.id }
  | "level" => pure { r with level := (← textBytes doc fuel v).getD r.level }
  | "title" => pure { r with title := (← textBytes doc fuel v).getD r.title }
  | "status" => pure { r with status := (← text doc fuel v).getD r.status }
  | "falsepositives" =>
    pure { r with falsePositives := (← textListOf doc fuel v).getD r.falsePositives }
  | "references" => pure { r with references := (← textListOf doc fuel v).getD r.references }
  | "fields" => pure { r with fields := (← texts doc "[]string" fuel v).getD r.fields }
  | "tags" => pure { r with tags := (← textsBytes doc "sigma.Tags" fuel v).getD r.tags }
  | "logsource" => pure { r with logsource := ← logsourceInto doc fuel r.logsource v }
  | "detection" =>
    pure { r with detection := (← Detection.sectionOf doc fuel v).getD r.detection }
  | _ => pure r

mutual

/-- Decodes a node into a rule, starting from its current fields. -/
def ruleInto (doc : Document) : Nat → RawRule → Node → DecodeM RawRule
  | 0, _, _ => throw "yaml: document nested too deeply"
  | fuel + 1, cur, n => do
    enter
    match n with
    | .alias name id target _ => expand doc name id target (ruleInto doc fuel cur)
    | .scalar .. =>
      let (rtag, r) ← resolve n
      match r with
      | .null => pure {}
      | _ =>
        typeIssue n rtag "sigma.RawRule"
        pure cur
    | .sequence .. =>
      typeIssue n (standardTag "seq") "sigma.RawRule"
      pure cur
    | .mapping entries _ => ruleEntries doc fuel cur entries

/-- Decodes the entries of a rule mapping. -/
def ruleEntries (doc : Document) : Nat → RawRule → List (Node × Node) → DecodeM RawRule
  | 0, _, _ => throw "yaml: document nested too deeply"
  | _ + 1, cur, [] => pure cur
  | fuel + 1, cur, (k, v) :: rest => do
    if k.isMerge then
      let (plan, refused) := mergePlan doc v
      let cur ← ruleMerge doc fuel cur plan
      if refused then throw mergeRefusal
      ruleEntries doc fuel cur rest
    else
      let cur ← match ← text doc fuel k with
        | some name => setField doc fuel cur name v
        | none => pure cur
      ruleEntries doc fuel cur rest

/-- Merges mappings into a rule, in order. -/
def ruleMerge (doc : Document) : Nat → RawRule → List Node → DecodeM RawRule
  | 0, _, _ => throw "yaml: document nested too deeply"
  | _ + 1, cur, [] => pure cur
  | fuel + 1, cur, n :: rest => do
    let cur ← ruleInto doc fuel cur n
    ruleMerge doc fuel cur rest

end

/-- Reads a rule from the first document of a text; an empty text is a rule with no fields.
Proofs take its result as given and never unfold the reader.
The `yaml.Unmarshal` of `NewRuleHandle`, `src/tree.go:227–233`. -/
@[irreducible] def decode (source : String) : Except String RawRule :=
  match Document.read .yaml11 source with
  | .error e => .error e.message
  | .ok none => .ok {}
  | .ok (some doc) =>
    Decoder.run do
      enter
      ruleInto doc doc.fuel {} doc.root

/-- The longest line, in bytes, that the multipart check reads; it stops at a longer one.
The token limit of the `bufio.Scanner` in `isMultipart`. -/
def maxLine : Nat := 65535

/-- The lines of a text, split at line feeds. -/
def lines : List Char → List (List Char)
  | [] => [[]]
  | c :: rest =>
    if c == '\n' then [] :: lines rest
    else match lines rest with
      | l :: ls => (c :: l) :: ls
      | [] => [[c]]

/-- Whether a rule text holds more than one document: a line `---` (ignoring trailing blanks
and carriage returns) after a line with content; comment lines are not content.
`isMultipart`, `src/rule.go:219–234`. -/
def isMultipart (source : String) : Bool :=
  let rec go : List (List Char) → Bool → Bool
    | [], _ => false
    | raw :: rest, content =>
      if Text.byteLength (String.ofList raw) > maxLine then false
      else
        let l := (raw.reverse.dropWhile fun c => c == ' ' || c == '\t' || c == '\r').reverse
        if l == ['-', '-', '-'] then content || go rest content
        else if !l.isEmpty && l.head? != some '#' then go rest true
        else go rest content
  go (lines source.toList) false

example : isMultipart "a: b\n---\nc: d\n" = true := by decide +kernel
example : isMultipart "---\na: b\n" = false := by decide +kernel

end RawRule

end SigmaQuery
