import SigmaQuery.Rule.Placeholders
import SigmaQuery.Yaml.Decode

/-!
# Placeholder files

Placeholders are defined in a YAML file: a mapping from names to lists of values. Keys are
read as text; a value that is not a list, or a key that is a collection, is noted and left
out, and the notes refuse the file. Merge keys merge other mappings. A file whose document is
empty defines nothing, and a file without any document is refused with `EOF`.

Source: `Placeholders.load` of `src/placeholders.go:42–49`, decoding into a
`map[string][]string`.
-/

namespace SigmaQuery

open Yaml Decoder

namespace Placeholders

/-- The name of the target that holds all definitions. -/
def mapTarget : String := "sigma.placeholderMap"

mutual

/-- Decodes a node into definitions, adding to those given. -/
def defsInto (doc : Document) : Nat → Placeholders → Node → DecodeM Placeholders
  | 0, _, _ => throw "yaml: document nested too deeply"
  | fuel + 1, cur, n => do
    enter
    match n with
    | .alias name id target _ => Decoder.expand doc name id target (defsInto doc fuel cur)
    | .scalar .. =>
      let (rtag, r) ← resolve n
      match r with
      | .null => pure {}
      | _ =>
        typeIssue n rtag mapTarget
        pure cur
    | .sequence .. =>
      typeIssue n (standardTag "seq") mapTarget
      pure cur
    | .mapping entries _ => defEntries doc fuel cur entries

/-- Decodes the entries of a mapping into definitions. -/
def defEntries (doc : Document) : Nat → Placeholders → List (Node × Node) → DecodeM Placeholders
  | 0, _, _ => throw "yaml: document nested too deeply"
  | _ + 1, cur, [] => pure cur
  | fuel + 1, cur, (k, v) :: rest => do
    if k.isMerge then
      let (plan, refused) := mergePlan doc v
      let cur ← defsMerge doc fuel cur plan
      if refused then throw mergeRefusal
      defEntries doc fuel cur rest
    else
      let cur ← match ← text doc fuel k with
        | none => pure cur
        | some name =>
          match ← texts doc "sigma.placeholder" fuel v with
          | some values => pure (cur.insert name values)
          | none => pure cur
      defEntries doc fuel cur rest

/-- Merges mappings into definitions, in order. -/
def defsMerge (doc : Document) : Nat → Placeholders → List Node → DecodeM Placeholders
  | 0, _, _ => throw "yaml: document nested too deeply"
  | _ + 1, cur, [] => pure cur
  | fuel + 1, cur, n :: rest => do
    let cur ← defsInto doc fuel cur n
    defsMerge doc fuel cur rest

end

/-- Reads definitions from the text of a placeholder file.
`Placeholders.load`, `src/placeholders.go:42–49`. -/
def read (text : String) : Except String Placeholders :=
  match Document.read .yaml11 text with
  | .error e => .error e.message
  | .ok none => .error "EOF"
  | .ok (some doc) =>
    Decoder.run do
      enter
      defsInto doc doc.fuel {} doc.root

end Placeholders

end SigmaQuery
