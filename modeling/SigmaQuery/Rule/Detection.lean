import SigmaQuery.Yaml.Decode
import SigmaQuery.Rule.Value

/-!
# Decoding detection values

A value of a rule's detection section is read from its YAML node by trying three shapes in
turn: a scalar's text as written, a list of values, and a map of values. A map keeps its
entries in written order; a key written twice appears twice, both times with the value written
last. Keys are matched by what they stand for, so a key that is not a number (`.nan`) cannot
be matched and is refused. Entries merged in with `<<` change the values of keys written in
the map but add no keys.

Each try follows the rules of `Decoder.attempt`: notes left by a failed try count against the
next one.

Source: `yamlValue.UnmarshalYAML`, `yamlKey.UnmarshalYAML` and `decodeOrderedMap` of
`src/value.go:17–83`, and `Detection.UnmarshalYAML` of `src/rule.go:107–118`.
-/

namespace SigmaQuery

open Yaml Decoder

/-- A mapping key: its text, as bytes because a binary key need not be UTF-8, and what it
stands for.
`yamlKey`, `src/value.go:44–59`. -/
structure KeyText where
  text : Text.Bytes
  value : KeyValue
  deriving Repr, Inhabited

namespace Detection

/-- The name of the target that holds one detection value. -/
def valueTarget : String := "sigma.yamlValue"

/-- Sets the value of a key in a map, or adds the key at the end. -/
def insertField (fields : List (KeyText × Value)) (k : KeyText) (v : Value) :
    List (KeyText × Value) :=
  if fields.any (fun (k', _) => k'.text == k.text && k'.value.same k.value) then
    fields.map fun (k', v') => if k'.text == k.text && k'.value.same k.value then (k', v) else (k', v')
  else fields ++ [(k, v)]

/-- Lines up the written keys with the decoded entries: each key takes the text and value of
the entry whose key stands for the same.
The loop of `decodeOrderedMap`, `src/value.go:70–82`. -/
def lineUp (fields : List (KeyText × Value)) : List (Option KeyValue) →
    Except String (List (Text.Bytes × Value))
  | [] => .ok []
  | none :: _ => .error "unsupported mapping key"
  | some kv :: rest =>
    match fields.find? (fun (k, _) => k.value.same kv) with
    | none => .error ("unsupported mapping key " ++ kv.display)
    | some (k, v) => (lineUp fields rest).map ((k.text, v) :: ·)

mutual

/-- Decodes a node into one detection value.
`yamlValue.UnmarshalYAML`, `src/value.go:17–40`. -/
def valueOf (doc : Document) : Nat → Node → DecodeM (Option Value)
  | 0, _ => throw "yaml: document nested too deeply"
  | fuel + 1, n => do
    enter
    match n with
    | .alias name id target _ => expand doc name id target (valueOf doc fuel)
    | _ =>
      if n.isNull then
        match n with
        | .scalar .. =>
          let (rtag, r) ← resolve n
          match r with
          | .null => pure (some .null)
          | _ =>
            typeIssue n rtag valueTarget
            pure none
        | .mapping entries _ =>
          keysOnly doc fuel entries
          pure (some .null)
        | _ =>
          typeIssue n (standardTag "seq") valueTarget
          pure none
      else
        let base := (← get).issues.size
        match ← attempt base (text doc fuel n) with
        | .ok (some s) => pure (some (.text s))
        | _ =>
          match ← attempt base (valueList doc fuel n) with
          | .ok (some items) => pure (some (.list items))
          | _ =>
            match ← attempt base (fieldsInto doc fuel [] n) with
            | .error e => settle (.error e)
            | .ok none => pure (some (.map []))
            | .ok (some fields) =>
              match ← attempt base (orderOf doc fuel n) with
              | .error e => settle (.error e)
              | .ok order =>
                match lineUp fields (order.getD []) with
                | .ok entries => pure (some (.map entries))
                | .error msg => throw msg

/-- Decodes a node into a list of detection values. -/
def valueList (doc : Document) : Nat → Node → DecodeM (Option (List Value))
  | 0, _ => throw "yaml: document nested too deeply"
  | fuel + 1, n => do
    enter
    match n with
    | .alias name id target _ => expand doc name id target (valueList doc fuel)
    | .scalar .. =>
      let (rtag, r) ← resolve n
      match r with
      | .null => pure (some [])
      | _ =>
        typeIssue n rtag "[]sigma.yamlValue"
        pure none
    | .sequence items _ => some <$> valueItems doc fuel items
    | .mapping .. =>
      typeIssue n (standardTag "map") "[]sigma.yamlValue"
      pure none

/-- Decodes the items of a sequence, keeping those that fit. -/
def valueItems (doc : Document) : Nat → List Node → DecodeM (List Value)
  | 0, _ => throw "yaml: document nested too deeply"
  | _ + 1, [] => pure []
  | fuel + 1, n :: rest => do
    let v ← valueOf doc fuel n
    let vs ← valueItems doc fuel rest
    pure (match v with
      | some v => v :: vs
      | none => vs)

/-- Decodes a node into a map of values, adding to `acc`.
The `map[yamlKey]yamlValue` target of `decodeOrderedMap`, `src/value.go:62–65`. -/
def fieldsInto (doc : Document) : Nat → List (KeyText × Value) → Node →
    DecodeM (Option (List (KeyText × Value)))
  | 0, _, _ => throw "yaml: document nested too deeply"
  | fuel + 1, acc, n => do
    enter
    match n with
    | .alias name id target _ => expand doc name id target (fieldsInto doc fuel acc)
    | .scalar .. =>
      let (rtag, r) ← resolve n
      match r with
      | .null => pure (some [])
      | _ =>
        typeIssue n rtag "map[sigma.yamlKey]sigma.yamlValue"
        pure none
    | .sequence .. =>
      typeIssue n (standardTag "seq") "map[sigma.yamlKey]sigma.yamlValue"
      pure none
    | .mapping entries _ => some <$> fieldEntries doc fuel acc entries

/-- Decodes the entries of a mapping into a map of values; merge keys merge their mappings. -/
def fieldEntries (doc : Document) : Nat → List (KeyText × Value) → List (Node × Node) →
    DecodeM (List (KeyText × Value))
  | 0, _, _ => throw "yaml: document nested too deeply"
  | _ + 1, acc, [] => pure acc
  | fuel + 1, acc, (k, v) :: rest => do
    if k.isMerge then
      let (plan, refused) := mergePlan doc v
      let acc ← fieldsMerge doc fuel acc plan
      if refused then throw mergeRefusal
      fieldEntries doc fuel acc rest
    else
      let acc ← match ← keyOf doc fuel k with
        | none => pure acc
        | some key =>
          match ← valueOf doc fuel v with
          | none => pure acc
          | some val => pure (insertField acc key val)
      fieldEntries doc fuel acc rest

/-- Merges mappings into a map of values, in order. -/
def fieldsMerge (doc : Document) : Nat → List (KeyText × Value) → List Node →
    DecodeM (List (KeyText × Value))
  | 0, _, _ => throw "yaml: document nested too deeply"
  | _ + 1, acc, [] => pure acc
  | fuel + 1, acc, n :: rest => do
    let acc := (← fieldsInto doc fuel acc n).getD acc
    fieldsMerge doc fuel acc rest

/-- Decodes a mapping key: its text, then what it stands for.
`yamlKey.UnmarshalYAML`, `src/value.go:50–59`. -/
def keyOf (doc : Document) : Nat → Node → DecodeM (Option KeyText)
  | 0, _ => throw "yaml: document nested too deeply"
  | fuel + 1, n => do
    enter
    match n with
    | .alias name id target _ => expand doc name id target (keyOf doc fuel)
    | _ =>
      if n.isNull then
        match n with
        | .scalar .. =>
          let (rtag, r) ← resolve n
          match r with
          | .null => pure (some { text := [], value := .null })
          | _ =>
            typeIssue n rtag "sigma.yamlKey"
            pure none
        | .mapping entries _ =>
          keysOnly doc fuel entries
          pure (some { text := [], value := .null })
        | _ =>
          typeIssue n (standardTag "seq") "sigma.yamlKey"
          pure none
      else
        let base := (← get).issues.size
        match ← attempt base (textBytes doc fuel n) with
        | .error e => settle (.error e)
        | .ok t =>
          match ← attempt base (anyValue doc fuel n) with
          | .error e => settle (.error e)
          | .ok kv => pure (some { text := t.getD [], value := kv.getD .null })

/-- Decodes a node as an ordered list of entries, giving what each written key stands for;
merged entries are decoded and left out.
The `yaml.MapSlice` target of `decodeOrderedMap`, `src/value.go:66–69`. -/
def orderOf (doc : Document) : Nat → Node → DecodeM (Option (List (Option KeyValue)))
  | 0, _ => throw "yaml: document nested too deeply"
  | fuel + 1, n => do
    enter
    match n with
    | .alias name id target _ => expand doc name id target (orderOf doc fuel)
    | .scalar .. =>
      let (rtag, r) ← resolve n
      match r with
      | .null => pure (some [])
      | _ =>
        typeIssue n rtag "yaml.MapSlice"
        pure none
    | .sequence items _ =>
      anyItems doc fuel items
      pure (some [])
    | .mapping entries _ => some <$> orderEntries doc fuel entries

/-- The keys of a mapping's entries in written order, merge keys left out. -/
def orderEntries (doc : Document) : Nat → List (Node × Node) → DecodeM (List (Option KeyValue))
  | 0, _ => throw "yaml: document nested too deeply"
  | _ + 1, [] => pure []
  | fuel + 1, (k, v) :: rest => do
    if k.isMerge then
      let (plan, refused) := mergePlan doc v
      anyItems doc fuel plan
      if refused then throw mergeRefusal
      orderEntries doc fuel rest
    else
      let kv ← anyValue doc fuel k
      let _ ← anyValue doc fuel v
      let rest ← orderEntries doc fuel rest
      pure (kv :: rest)

end

/-- Decodes a node into a rule's detection section, which must be a map; nothing gives no
section.
`Detection.UnmarshalYAML`, `src/rule.go:107–118`. -/
def sectionOf (doc : Document) : Nat → Node → DecodeM (Option (Option (List (Text.Bytes × Value))))
  | 0, _ => throw "yaml: document nested too deeply"
  | fuel + 1, n => do
    enter
    match n with
    | .alias name id target _ => expand doc name id target (sectionOf doc fuel)
    | _ =>
      if n.isNull then
        match n with
        | .scalar .. =>
          let (rtag, r) ← resolve n
          match r with
          | .null => pure (some none)
          | _ =>
            typeIssue n rtag "sigma.Detection"
            pure none
        | _ => pure (some none)
      else
        let base := (← get).issues.size
        match ← attempt base (valueOf doc fuel n) with
        | .error e => settle (.error e)
        | .ok none => pure (some none)
        | .ok (some v) =>
          match v with
          | .map entries => pure (some (some entries))
          | other => throw ("detection must be a map, got " ++ other.shapeName)

end Detection

end SigmaQuery
