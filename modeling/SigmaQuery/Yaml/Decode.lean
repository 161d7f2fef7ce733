import SigmaQuery.Yaml.Resolve
import SigmaQuery.Text.Utf8

/-!
# Decoding YAML nodes into typed values

Decoding walks a document once per target shape. A node that does not fit its target is not
an immediate failure: the decoder notes a type issue ("line 3: cannot unmarshal !!seq into
string") and goes on, and the notes are reported together at the end. Other problems (a tag
that does not fit its text, an alias inside its own anchored node, a bad merge key) stop
decoding at once.

A target may try several shapes in turn. Each try runs with the notes taken so far as a
baseline: a try that ends normally but added notes fails with those notes, which are then
taken back; a try that is stopped keeps its notes, and they count against the next try of the
same target. `attempt` and `settle` express this.

Aliases are expanded where they are decoded. Decoding counts its steps and the steps spent
inside aliases, and refuses a document where aliases account for nearly all of a large number
of steps.

Source: the decoder of the yaml.v2 package, as `yaml.Unmarshal` in `src/tree.go:229` and
`yaml.NewDecoder` in `src/placeholders.go:48` run it with the `UnmarshalYAML` methods of
`src/value.go:17–83` and `src/rule.go:67–118`.
-/

namespace SigmaQuery.Yaml

/-- Why a target could not be decoded. -/
inductive Fault where
  /-- Nodes that do not fit their targets, one note per node. -/
  | typed (issues : List String)
  /-- A problem that stops decoding, with its message. -/
  | fatal (message : String)
  deriving Repr, Inhabited

/-- The state of decoding: the notes on nodes that did not fit, the counts of steps, and the
aliases being expanded. -/
structure Decoder where
  issues : Array String := #[]
  steps : Nat := 0
  aliasSteps : Nat := 0
  aliasDepth : Nat := 0
  expanding : List Nat := []
  deriving Inhabited

/-- Decoding steps: a stop carries its message; the state survives a stop. -/
abbrev DecodeM := ExceptT String (StateM Decoder)

/-- What a mapping key stands for, as far as matching keys goes. -/
inductive KeyValue where
  | null
  | bool (b : Bool)
  | int (i : Int)
  | float (text : String)
  | nan
  | str (s : String)
  deriving Repr, Inhabited

namespace KeyValue

/-- Whether two keys are the same; a key that is not a number is never the same as any. -/
def same : KeyValue → KeyValue → Bool
  | .null, .null => true
  | .bool a, .bool b => a == b
  | .int a, .int b => a == b
  | .float a, .float b => a == b
  | .str a, .str b => a == b
  | _, _ => false

/-- How messages show a key. -/
def display : KeyValue → String
  | .null => "<nil>"
  | .bool b => toString b
  | .int i => toString i
  | .float t => t
  | .nan => "NaN"
  | .str s => s

end KeyValue

namespace Base64

/-- The value of a character of the standard base64 alphabet. -/
def sextet (c : Char) : Option Nat :=
  if 'A' ≤ c && c ≤ 'Z' then some (c.toNat - 'A'.toNat)
  else if 'a' ≤ c && c ≤ 'z' then some (c.toNat - 'a'.toNat + 26)
  else if '0' ≤ c && c ≤ '9' then some (c.toNat - '0'.toNat + 52)
  else if c == '+' then some 62
  else if c == '/' then some 63
  else none

/-- Decodes groups of four characters, the last of which may end in padding. -/
def groups : List Char → Option (List UInt8)
  | [] => some []
  | [a, b, '=', '='] => do
    let x ← sextet a
    let y ← sextet b
    pure [(x * 4 + y / 16).toUInt8]
  | [a, b, c, '='] => do
    let x ← sextet a
    let y ← sextet b
    let z ← sextet c
    pure [(x * 4 + y / 16).toUInt8, ((y % 16) * 16 + z / 4).toUInt8]
  | a :: b :: c :: d :: rest => do
    let x ← sextet a
    let y ← sextet b
    let z ← sextet c
    let w ← sextet d
    let tail ← groups rest
    pure ([(x * 4 + y / 16).toUInt8, ((y % 16) * 16 + z / 4).toUInt8,
      ((z % 4) * 64 + w).toUInt8] ++ tail)
  | _ => none

/-- Decodes standard base64 with padding; line breaks are ignored. -/
def decode (s : String) : Option (List UInt8) :=
  groups (s.toList.filter fun c => c != '\n' && c != '\r')

example : decode "aGk=" = some [0x68, 0x69] := by decide +kernel

end Base64

/-- Whether a node stands for nothing: a scalar tagged null, or an untagged plain `null`, `~`
or empty scalar, or an untagged `null` or `~` in quotes. -/
def Node.isNull : Node → Bool
  | .scalar value tag plain _ =>
    tag == standardTag "null" || (tag.isEmpty && (value == "null" || value == "~" || (value.isEmpty && plain)))
  | _ => false

/-- Whether a node is the merge key `<<`. -/
def Node.isMerge : Node → Bool
  | .scalar value tag plain _ => value == "<<" && (plain || tag == standardTag "merge")
  | _ => false

/-- The text of a scalar node; empty for other nodes. -/
def Node.text : Node → String
  | .scalar value .. => value
  | _ => ""

namespace Decoder

/-- Notes a node that does not fit a target: the tag the node has or reads as, its text
(cut after seven bytes when longer than ten) unless it is a collection, and the target. -/
def typeIssue (n : Node) (tag : String) (target : String) : DecodeM Unit := do
  let tag := if n.tag.isEmpty then tag else n.tag
  let shown :=
    if tag != standardTag "seq" && tag != standardTag "map" then
      let v := n.text
      if Text.byteLength v > 10 then " `" ++ String.ofList (Text.bytePrefix 7 v.toList) ++ "...`"
      else " `" ++ v ++ "`"
    else ""
  modify fun d => { d with issues := d.issues.push ("line " ++ toString (n.line + 1) ++
    ": cannot unmarshal " ++ shortTag tag ++ shown ++ " into " ++ target) }

/-- Whether aliases take too large a share of the steps taken so far. -/
def excessive (steps aliasSteps : Nat) : Bool :=
  if aliasSteps ≤ 100 || steps ≤ 1000 then false
  else if steps ≤ 400000 then 100 * aliasSteps > 99 * steps
  else if steps ≥ 4000000 then 10 * aliasSteps > steps
  else
    -- the allowed share falls from 99% to 10% between 400000 and 4000000 steps
    100 * 3600000 * aliasSteps > (99 * 3600000 - 89 * (steps - 400000)) * steps

/-- Counts one decoding step. -/
def enter : DecodeM Unit := do
  modify fun d => { d with steps := d.steps + 1,
                           aliasSteps := if d.aliasDepth > 0 then d.aliasSteps + 1 else d.aliasSteps }
  let d ← get
  if excessive d.steps d.aliasSteps then throw "yaml: document contains excessive aliasing"

/-- Decodes the node an alias refers to. An alias met again while it is expanded is refused;
the expansion is not undone when decoding stops inside it. -/
def expand {α : Type} (doc : Document) (name : String) (id target : Nat) (k : Node → DecodeM α) :
    DecodeM α := do
  let d ← get
  if d.expanding.contains id then throw ("yaml: anchor '" ++ name ++ "' value contains itself")
  set { d with expanding := id :: d.expanding, aliasDepth := d.aliasDepth + 1 }
  let r ← k (doc.anchored.getD target default)
  modify fun d => { d with aliasDepth := d.aliasDepth - 1, expanding := d.expanding.erase id }
  pure r

/-- The tag a scalar reads as and what it stands for; a binary scalar stands for its decoded
text. -/
def resolve (n : Node) : DecodeM (String × Resolved) := do
  match n with
  | .scalar value tag plain _ =>
    if tag.isEmpty && !plain then return (standardTag "str", .str value)
    match resolveScalar tag value with
    | .error msg => throw msg
    | .ok (rtag, r) =>
      if rtag == standardTag "binary" then
        match Base64.decode value with
        | some bytes => return (rtag, .str (Text.lossy bytes))
        | none => throw "yaml: !!binary value contains invalid base64 data"
      return (rtag, r)
  | _ => return ("", .null)

/-- What a resolved scalar gives a target that takes any value. -/
def keyValueOf (n : Node) : Resolved → KeyValue
  | .null => .null
  | .bool b => .bool b
  | .int i => .int i
  | .float t nan => if nan then .nan else .float t
  | .str s => .str s
  | .timestamp _ => .str n.text
  | .merge => .str n.text

/-- One try of a target: the notes it adds beyond `baseline` make it fail, and are taken
back; a stop fails it and keeps its notes. -/
def attempt {α : Type} (baseline : Nat) (act : DecodeM α) : DecodeM (Except Fault α) := do
  let r ← tryCatch (act.map Except.ok) (fun msg => pure (Except.error (Fault.fatal msg)))
  match r with
  | .error f => pure (.error f)
  | .ok a =>
    let d ← get
    if d.issues.size > baseline then
      let issues := (d.issues.extract baseline d.issues.size).toList
      set { d with issues := d.issues.extract 0 baseline }
      pure (.error (.typed issues))
    else pure (.ok a)

/-- The outcome of a target that tries shapes: its notes join the others, a stop goes on. -/
def settle {α : Type} (r : Except Fault α) : DecodeM (Option α) :=
  match r with
  | .ok a => pure (some a)
  | .error (.typed issues) => do
    modify fun d => { d with issues := d.issues ++ issues.toArray }
    pure none
  | .error (.fatal msg) => throw msg

/-- The nodes a merge key's value merges, in merge order, and whether a value that is not a
mapping stops the merge after them. A sequence merges from its last item back. -/
def mergePlan (doc : Document) (n : Node) : List Node × Bool :=
  let isMapping : Node → Bool := fun m => match m with
    | .mapping .. => true
    | _ => false
  let valid : Node → Bool := fun m => match m with
    | .alias _ _ t _ => isMapping (doc.anchored.getD t default)
    | other => isMapping other
  match n with
  | .mapping .. => ([n], false)
  | .alias _ _ t _ => if isMapping (doc.anchored.getD t default) then ([n], false) else ([], true)
  | .sequence items _ =>
    let rec go : List Node → List Node × Bool
      | [] => ([], false)
      | m :: rest => if valid m then let (p, f) := go rest; (m :: p, f) else ([], true)
    go items.reverse
  | _ => ([], true)

/-- The message of a merge key whose value is not a mapping. -/
def mergeRefusal : String := "yaml: map merge requires map or sequence of maps as the value"

mutual

/-- Decodes a node into a target that takes any value; gives what a scalar stands for. -/
def anyValue (doc : Document) : Nat → Node → DecodeM (Option KeyValue)
  | 0, _ => throw "yaml: document nested too deeply"
  | fuel + 1, n => do
    enter
    match n with
    | .alias name id target _ => expand doc name id target (anyValue doc fuel)
    | .scalar .. =>
      let (_, r) ← resolve n
      pure (some (keyValueOf n r))
    | .sequence items _ =>
      anyItems doc fuel items
      pure none
    | .mapping entries _ =>
      anyEntries doc fuel entries
      pure none

/-- Decodes the items of a sequence into targets that take any value. -/
def anyItems (doc : Document) : Nat → List Node → DecodeM Unit
  | 0, _ => throw "yaml: document nested too deeply"
  | _ + 1, [] => pure ()
  | fuel + 1, n :: rest => do
    let _ ← anyValue doc fuel n
    anyItems doc fuel rest

/-- Decodes the entries of a mapping into targets that take any value, merges included. -/
def anyEntries (doc : Document) : Nat → List (Node × Node) → DecodeM Unit
  | 0, _ => throw "yaml: document nested too deeply"
  | _ + 1, [] => pure ()
  | fuel + 1, (k, v) :: rest => do
    if k.isMerge then
      let (plan, refused) := mergePlan doc v
      anyItems doc fuel plan
      if refused then throw mergeRefusal
    else
      let _ ← anyValue doc fuel k
      let _ ← anyValue doc fuel v
    anyEntries doc fuel rest

end

/-- Decodes a node into a text target. -/
def text (doc : Document) : Nat → Node → DecodeM (Option String)
  | 0, _ => throw "yaml: document nested too deeply"
  | fuel + 1, n => do
    enter
    match n with
    | .alias name id target _ => expand doc name id target (text doc fuel)
    | .scalar value .. =>
      let (rtag, r) ← resolve n
      if rtag == standardTag "binary" then
        match r with
        | .str s => pure (some s)
        | _ => pure (some value)
      else
        match r with
        | .null => pure (some "")
        | _ => pure (some value)
    | .sequence .. =>
      typeIssue n (standardTag "seq") "string"
      pure none
    | .mapping .. =>
      typeIssue n (standardTag "map") "string"
      pure none

/-- Decodes a node into a text target as the bytes of the text: the bytes a binary scalar
stands for are kept as they are, although they need not be UTF-8. -/
def textBytes (doc : Document) : Nat → Node → DecodeM (Option (List UInt8))
  | 0, _ => throw "yaml: document nested too deeply"
  | fuel + 1, n => do
    enter
    match n with
    | .alias name id target _ => expand doc name id target (textBytes doc fuel)
    | .scalar value .. =>
      let (rtag, r) ← resolve n
      if rtag == standardTag "binary" then pure (Base64.decode value)
      else
        match r with
        | .null => pure (some [])
        | _ => pure (some value.toUTF8.toList)
    | .sequence .. =>
      typeIssue n (standardTag "seq") "string"
      pure none
    | .mapping .. =>
      typeIssue n (standardTag "map") "string"
      pure none

/-- Decodes the items of a sequence with `item`, keeping those that fit. -/
def itemsWith {α : Type} (item : Node → DecodeM (Option α)) : List Node → DecodeM (List α)
  | [] => pure []
  | n :: rest => do
    let t ← item n
    let ts ← itemsWith item rest
    pure (match t with
      | some s => s :: ts
      | none => ts)

/-- Decodes a node into a list target named `target` whose items `item` decodes. -/
def listWith {α : Type} (doc : Document) (target : String)
    (item : Nat → Node → DecodeM (Option α)) : Nat → Node → DecodeM (Option (List α))
  | 0, _ => throw "yaml: document nested too deeply"
  | fuel + 1, n => do
    enter
    match n with
    | .alias name id t _ => expand doc name id t (listWith doc target item fuel)
    | .scalar .. =>
      let (rtag, r) ← resolve n
      match r with
      | .null => pure (some [])
      | _ =>
        typeIssue n rtag target
        pure none
    | .sequence items _ => some <$> itemsWith (item fuel) items
    | .mapping .. =>
      typeIssue n (standardTag "map") target
      pure none

/-- Decodes a node into a list-of-texts target named `target`. -/
def texts (doc : Document) (target : String) : Nat → Node → DecodeM (Option (List String)) :=
  listWith doc target (text doc)

/-- Decodes a node into a list-of-texts target named `target`, each text as its bytes. -/
def textsBytes (doc : Document) (target : String) :
    Nat → Node → DecodeM (Option (List (List UInt8))) :=
  listWith doc target (textBytes doc)

/-- Decodes a node into a target that has no field for any key: only the keys are read. -/
def keysOnly (doc : Document) (fuel : Nat) : List (Node × Node) → DecodeM Unit
  | [] => pure ()
  | (k, _) :: rest => do
    if !k.isMerge then
      let _ ← text doc fuel k
    keysOnly doc fuel rest

end Decoder

/-- Runs decoding of a document; the notes, if any, make the result fail. -/
def Decoder.run {α : Type} (act : DecodeM α) : Except String α :=
  match (act.run).run {} with
  | (.error msg, _) => .error msg
  | (.ok a, d) =>
    if d.issues.isEmpty then .ok a
    else .error ("yaml: unmarshal errors:\n  " ++ "\n  ".intercalate d.issues.toList)

/-- Fuel for decoding a document: enough for any nesting its nodes and aliases allow. -/
def Document.fuel (doc : Document) : Nat := 16 * (doc.size + 2) * (doc.size + 2)

end SigmaQuery.Yaml
