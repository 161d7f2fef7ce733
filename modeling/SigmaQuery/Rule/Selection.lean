import SigmaQuery.Rule.Condition
import SigmaQuery.Rule.Placeholders
import SigmaQuery.Rule.Value
import SigmaQuery.Text.Case

/-!
# Selections from detection entries

Each entry of a rule's detection section becomes a condition:

* a map is the conjunction of its fields, each field a selection;
* a list of maps is the disjunction of those conjunctions;
* a text, or a list of texts, is a keyword selection of those texts;
* nothing, an empty list or map, a field without values, a null value and a list that mixes
  maps with texts are refused.

A field key is a field name followed by modifiers, each after a `|`: at most one comparison
(`contains`, `startswith`, `endswith`, `cidr`, `re`), `all` to join the values by conjunction,
and `expand` to replace placeholders in the values. Modifier names ignore case. Keys are bytes
and the field name keeps them; messages show a key as text.

Source: `src/ident.go:12–152` and `parseFieldKey` of `src/pattern.go:42–90`.
-/

namespace SigmaQuery

/-- A field key split into its field and its modifiers.
`fieldKey`, `src/pattern.go:42–49`. -/
structure FieldKey where
  /-- The field name. -/
  field : Text.Bytes
  /-- The comparison. -/
  modifier : Modifier := .equals
  /-- Whether all values must match rather than any. -/
  all : Bool := false
  /-- Whether values name placeholders. -/
  expand : Bool := false
  deriving Repr, Inhabited, DecidableEq

namespace FieldKey

/-- Applies modifiers to a key, counting the comparisons among them. -/
def applyMods (key : String) : FieldKey → Nat → List String → Except RuleError (FieldKey × Nat)
  | fk, n, [] => .ok (fk, n)
  | fk, n, m :: rest =>
    match Text.lower m with
    | "contains" => applyMods key { fk with modifier := .contains } (n + 1) rest
    | "startswith" => applyMods key { fk with modifier := .startsWith } (n + 1) rest
    | "endswith" => applyMods key { fk with modifier := .endsWith } (n + 1) rest
    | "cidr" => applyMods key { fk with modifier := .cidr } (n + 1) rest
    | "re" => applyMods key { fk with modifier := .regex } (n + 1) rest
    | "all" => applyMods key { fk with all := true } n rest
    | "expand" => applyMods key { fk with expand := true } n rest
    | _ => .error (.unsupportedFeature "" ("modifier " ++ m) ("selection key " ++ key))

/-- Splits a field key at its bars into field and modifiers; more than one comparison is
refused.
`parseFieldKey`, `src/pattern.go:51–90`. -/
def parse (key : Text.Bytes) : Except RuleError FieldKey := do
  let text := Text.lossy key
  let bits := Text.splitOnByte 0x7C key
  let (fk, n) ← applyMods text { field := bits.headD [] } 0 ((bits.drop 1).map Text.lossy)
  if n > 1 then
    throw (.unsupportedFeature "" "modifier chain"
      ("selection key " ++ text ++ " combines " ++ toString n ++ " comparison modifiers"))
  pure fk

end FieldKey

namespace Condition

/-- The texts of values, refusing nothing and nested values.
`castValues`, `src/ident.go:136–152`. -/
def textsOf (key : String) : List Value → Except RuleError (List String)
  | [] => .ok []
  | .text s :: rest => (textsOf key rest).map (s :: ·)
  | .null :: _ => .error (.unsupportedFeature "" "null value" ("selection key " ++ key))
  | v :: _ => .error (.invalidSelection key (some v))

/-- The condition of one field of a selection.
`newFieldSelection`, `src/ident.go:100–134`. -/
def ofField (ph : Option Placeholders) (rawKey : Text.Bytes) (v : Value) :
    Except RuleError Condition := do
  let fk ← FieldKey.parse rawKey
  let key := Text.lossy rawKey
  let raw ← match v with
    | .list items => pure items
    | .map _ => throw (.invalidSelection key (some v))
    | other => pure [other]
  let values ← textsOf key raw
  let values ← if fk.expand then Placeholders.expandAll ph values else pure values
  if values.isEmpty then throw (.malformed "" ("field " ++ key ++ " has no values"))
  if fk.all && values.length > 1 then
    pure (.and (values.map fun x => .select ⟨fk.field, fk.modifier, [x]⟩))
  else pure (.select ⟨fk.field, fk.modifier, values⟩)

/-- The conditions of the fields of a map, in order. -/
def ofFields (ph : Option Placeholders) :
    List (Text.Bytes × Value) → Except RuleError (List Condition)
  | [] => .ok []
  | (k, v) :: rest => do
    let c ← ofField ph k v
    let cs ← ofFields ph rest
    pure (c :: cs)

/-- The conjunction of the fields of a map.
`newFieldConjunction`, `src/ident.go:81–98`. -/
def ofMap (ph : Option Placeholders) (key : String) (fields : List (Text.Bytes × Value)) :
    Except RuleError Condition :=
  if fields.isEmpty then .error (.malformed "" ("selection " ++ key ++ " has no fields"))
  else allOf <$> ofFields ph fields

/-- The conjunctions of a list of maps, in order. -/
def ofMaps (ph : Option Placeholders) (key : String) : List Value → Except RuleError (List Condition)
  | [] => .ok []
  | .map fields :: rest => do
    let c ← ofMap ph key fields
    let cs ← ofMaps ph key rest
    pure (c :: cs)
  | _ :: rest => ofMaps ph key rest

/-- What a list of entry values holds: only maps, only scalars, or a mix. -/
inductive ListShape where
  | maps
  | scalars
  | mixed
  deriving DecidableEq

/-- The shape of a list of entry values; a nested list makes it mixed.
`identListKind`, `src/ident.go:59–79`. -/
def listShape (items : List Value) : ListShape :=
  let isMap : Value → Bool := fun | .map _ => true | _ => false
  let isList : Value → Bool := fun | .list _ => true | _ => false
  if items.any isList then .mixed
  else if items.all isMap then .maps
  else if items.all (fun v => !isMap v) then .scalars
  else .mixed

/-- The condition of a detection entry.
`newConditionFromIdent`, `src/ident.go:12–49`. -/
def ofEntry (ph : Option Placeholders) (key : String) (v : Value) : Except RuleError Condition :=
  match v with
  | .map fields => ofMap ph key fields
  | .list [] => .error (.malformed "" ("selection " ++ key ++ " has no values"))
  | .list items =>
    match listShape items with
    | .maps => anyOf <$> ofMaps ph key items
    | .scalars => do
      let values ← textsOf key items
      pure (.select ⟨[], .equals, values⟩)
    | .mixed => .error (.invalidSelection key (some v))
  | .null => .error (.invalidSelection key none)
  | .text s => .ok (.select ⟨[], .equals, [s]⟩)

end Condition

end SigmaQuery
