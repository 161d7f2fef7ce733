import SigmaQuery.Cli.Setting
import SigmaQuery.Dotenv
import SigmaQuery.Text.Case
import SigmaQuery.Toml.Syntax
import SigmaQuery.Yaml.Decode
/-!
# Configuration files

A configuration file holds a table of settings. Its extension names its format, and the
names of its tables are read in lower case, at every depth.

* A YAML file is a mapping. Only the words `true` and `false` (in three spellings) are truth
  values there; `yes`, `no`, `on` and `off` are texts, and refuse the file when tagged as truth
  values. A timestamp is a point in time. Two entries of one mapping with the same key refuse
  the whole file.
* A JSON file is an object, or `null` for an empty table. Every number is a 64-bit float, and
  one beyond their range refuses the whole file. A repeated name keeps its last value.
* A TOML file is a TOML document; its dates and times are points in time.
* An environment file assigns texts to names; its names may hold dots, such as
  `OUTPUT.MODE=siem_rule`.

A file in another format cannot be read.

Source: the codecs of the viper package, as `viper.ReadInConfig` in `initConfig` of
`src/cmd/root.go:63–86` uses them.
-/

namespace SigmaQuery.Cli

open Text Yaml

namespace Setting

/-- The words that are truth values in a configuration file. -/
def truthWords : List String := ["true", "True", "TRUE", "false", "False", "FALSE"]

/-- What a scalar of a configuration file stands for. -/
def ofScalar (n : Node) : Except String Setting :=
  match n with
  | .scalar value tag plain _ =>
    if tag.isEmpty && !plain then .ok (.text value)
    else
      match resolveScalar tag value with
      | .error msg => .error msg
      | .ok (rtag, r) =>
        if rtag == standardTag "binary" then
          match Base64.decode value with
          | some bytes => .ok (.text (Text.lossy bytes))
          | Option.none => .error "yaml: !!binary value contains invalid base64 data"
        else
          match r with
          | .null => .ok .none
          | .bool b =>
            if truthWords.contains value then .ok (.boolean b)
            else if tag.isEmpty then .ok (.text value)
            else .error ("yaml: cannot decode !!str \x60" ++ value ++ "\x60 as a !!bool")
          | .int i => .ok (.whole i)
          | .float t _ => .ok (ofFloat t)
          | .timestamp t => .ok (.instant t.shown)
          | _ => .ok (.text value)
  | _ => .ok .none

/-- Whether two keys of a mapping are the same: both scalars of the same text. -/
def sameKey : Node → Node → Bool
  | .scalar a .., .scalar b .. => a == b
  | _, _ => false

/-- Whether a mapping repeats a key. -/
def repeatsKey : List (Node × Node) → Bool
  | [] => false
  | (k, _) :: rest => rest.any (fun (k', _) => sameKey k k') || repeatsKey rest

mutual

/-- What a node of a configuration file stands for, keys in lower case. -/
def ofNode (doc : Document) : Nat → Node → Except String Setting
  | 0, _ => .error "yaml: document nested too deeply"
  | fuel + 1, n =>
    match n with
    | .alias _ _ target _ => ofNode doc fuel (doc.anchored.getD target default)
    | .scalar .. => ofScalar n
    | .sequence items _ => (ofItems doc fuel items).map .list
    | .mapping entries _ =>
      if repeatsKey entries then .error "yaml: mapping key already defined"
      else (ofEntries doc fuel entries).map .table

/-- What the items of a sequence stand for. -/
def ofItems (doc : Document) : Nat → List Node → Except String (List Setting)
  | 0, _ => .error "yaml: document nested too deeply"
  | _ + 1, [] => .ok []
  | fuel + 1, n :: rest => do
    let v ← ofNode doc fuel n
    let vs ← ofItems doc fuel rest
    pure (v :: vs)

/-- What the entries of a mapping stand for: written entries first, then the entries merged
in by merge keys that no written entry has. -/
def ofEntries (doc : Document) : Nat → List (Node × Node) → Except String (List (String × Setting))
  | 0, _ => .error "yaml: document nested too deeply"
  | _ + 1, [] => .ok []
  | fuel + 1, (k, v) :: rest => do
    let later ← ofEntries doc fuel rest
    if k.isMerge then
      let merged ← ofNode doc fuel v
      let found := match merged with
        | .table es => es
        | .list items => items.flatMap fun (item : Setting) => match item with
          | .table es => es
          | _ => []
        | _ => []
      pure (later ++ found.filter fun (name, _) => !later.any (·.1 == name))
    else
      match k with
      | .scalar .. =>
        let value ← ofNode doc fuel v
        pure ((lower k.text, value) :: later)
      | _ => .error "yaml: invalid map key"

end

end Setting

/-- The table of a YAML configuration file, or why it cannot be read. -/
def readYaml (text : String) : Except String (List (String × Setting)) :=
  match Document.read .yaml12 text with
  | .error e => .error e.message
  | .ok none => .ok []
  | .ok (some doc) =>
    match Setting.ofNode doc doc.fuel doc.root with
    | .ok (.table entries) => .ok entries
    | .ok .none => .ok []
    | .ok _ => .error "yaml: cannot unmarshal into a table"
    | .error e => .error e


namespace Setting

/-- The value of a JSON number as a float, or `none` when it lies beyond the range of
floats. -/
def ofJsonNumber (t : String) : Option Setting :=
  match Decimal.read t with
  | some d => d.toBinary64?.map fun f => .real f.shown f.truncate f.isZero
  | Option.none => Option.none

/-- What a JSON value of a configuration file stands for, names in lower case; `none` when a
number lies beyond the range of floats. -/
def ofJson : Nat → JsonTree → Option Setting
  | 0, _ => Option.none
  | fuel + 1, t =>
    match t with
    | .null => some .none
    | .bool b => some (.boolean b)
    | .number n => ofJsonNumber n
    | .str s => some (.text (Text.lossy s))
    | .arr items => (items.mapM (ofJson fuel)).map .list
    | .obj ms =>
      (ms.mapM fun (k, v) => (ofJson fuel v).map (lower (Text.lossy k), ·)).map fun es =>
        .table (JsonTree.lastWins es)

end Setting

/-- The table of a JSON configuration file, or why it cannot be read. -/
def readJson (text : String) : Except String (List (String × Setting)) :=
  match JsonTree.parse? (Text.utf8 text) with
  | Option.none => .error "invalid JSON"
  | some .null => .ok []
  | some (.obj ms) =>
    match Setting.ofJson (text.length + 1) (.obj ms) with
    | some (.table entries) => .ok entries
    | _ => .error "number out of range"
  | some _ => .error "not an object"

namespace Setting

mutual

/-- What a TOML value of a configuration file stands for, names in lower case. -/
def ofToml : Toml.Value → Setting
  | .str s => .text s
  | .int n => .whole n
  | .float shown t z => .real shown t z
  | .bool b => .boolean b
  | .datetime t => .instant t
  | .arr items => .list (ofTomlItems items)
  | .table es => .table (JsonTree.lastWins (ofTomlEntries es))

/-- What the items of a TOML array stand for. -/
def ofTomlItems : List Toml.Value → List Setting
  | [] => []
  | v :: rest => ofToml v :: ofTomlItems rest

/-- What the entries of a TOML table stand for, names in lower case. -/
def ofTomlEntries : List (String × Toml.Value) → List (String × Setting)
  | [] => []
  | (k, v) :: rest => (lower k, ofToml v) :: ofTomlEntries rest

end

end Setting

/-- The table of a TOML configuration file, or why it cannot be read. -/
def readToml (text : String) : Except String (List (String × Setting)) :=
  (Toml.parse text).map fun es => JsonTree.lastWins (Setting.ofTomlEntries es)

/-- The table of an environment file, or why it cannot be read; references to variables
read `env`. -/
def readDotenv (env : List (String × String)) (text : String) :
    Except String (List (String × Setting)) :=
  (Dotenv.parse env text).map fun ps => JsonTree.lastWins (ps.map fun (k, v) => (lower k, .text v))

/-- The formats of configuration files that can be read. -/
inductive ConfigFormat where
  | yaml
  | json
  | toml
  | dotenv
  deriving DecidableEq, Repr

namespace ConfigFormat

/-- The format an extension names, if it is one that can be read. -/
def ofExtension? : String → Option ConfigFormat
  | "yaml" | "yml" => some .yaml
  | "json" => some .json
  | "toml" => some .toml
  | "dotenv" | "env" => some .dotenv
  | _ => Option.none

/-- The table of a configuration file in a format, or why it cannot be read; `env` is the
environment, which references to variables of environment files read. -/
def read (env : List (String × String)) : ConfigFormat → String →
    Except String (List (String × Setting))
  | .yaml => readYaml
  | .json => readJson
  | .toml => readToml
  | .dotenv => readDotenv env

end ConfigFormat

end SigmaQuery.Cli
