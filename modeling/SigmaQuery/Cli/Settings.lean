import SigmaQuery.Cli.Setting
import SigmaQuery.Text.Case
/-!
# Sources of settings

A setting is named by a dotted key such as `output.mode`. Its value comes from the first of
these sources that has one:

1. a flag bound to the key and given on the command line;
2. the environment variable named by the key in upper case (`OUTPUT.MODE`), unless empty;
3. the configuration file, where `output.mode` is the entry `mode` of the table `output`, or
   an entry named `output.mode` itself;
4. the default of the flag bound to the key.

A key whose first part is set to something else hides the key: an environment variable
`OUTPUT`, or a configuration entry `output` that is not a table, leaves `output.mode` without
a value.

Source: the lookup of the viper package behind every `viper.Get` call of `src/cmd`, with
`viper.BindPFlag` in `src/cmd/root.go:49–59` and `src/cmd/convert.go:170–195` and
`viper.AutomaticEnv` in `src/cmd/root.go:80`.
-/

namespace SigmaQuery.Cli

open Text

/-- Where settings come from. -/
structure Sources where
  /-- Values of the flags given on the command line, by the key they are bound to. -/
  given : List (String × FlagValue) := []
  /-- The environment. -/
  env : List (String × String) := []
  /-- The configuration file's table, keys in lower case. -/
  config : List (String × Setting) := []
  /-- Defaults of the flags bound to keys, by key. -/
  defaults : List (String × FlagValue) := []
  deriving Repr, Inhabited

namespace Sources

/-- The value of an environment variable, when it is set and not empty. -/
def envValue (s : Sources) (name : String) : Option String :=
  match s.env.lookup name with
  | some v => if v.isEmpty then none else some v
  | none => none

/-- The dotted keys of the proper beginnings of a key's parts: `a` and `a.b` for `a.b.c`. -/
def parents (parts : List String) : List String :=
  (List.range (parts.length - 1)).map fun i => ".".intercalate (parts.take (i + 1))

/-- Looks a key up in a table, longest dotted beginning of its parts first; each table entered
uses one unit of fuel. -/
def search : Nat → List (String × Setting) → List String → Setting
  | 0, _, _ => .none
  | fuel + 1, t, parts =>
    let tries := (List.range parts.length).reverse.map (· + 1)
    let found := tries.filterMap fun i =>
      match t.lookup (lower (".".intercalate (parts.take i))) with
      | none => none
      | some v =>
        if i == parts.length then (if v.isSome then some v else none)
        else
          match v with
          | .table inner =>
            let r := search fuel inner (parts.drop i)
            if r.isSome then some r else none
          | _ => none
    found.head?.getD .none

/-- Whether a beginning of a key's parts is set in a table to something other than a table. -/
def shadowedIn (t : List (String × Setting)) : List String → Bool
  | [] | [_] => false
  | p :: rest@(_ :: _) =>
    match t.lookup p with
    | some (.table inner) => shadowedIn inner rest
    | some .none | none => false
    | some _ => true

/-- The value of a setting. -/
def find (s : Sources) (key : String) : Setting :=
  let key := lower key
  let parts := key.splitOn "."
  match s.given.lookup key with
  | some v => Setting.ofFlag v
  | none =>
    match s.envValue key.toUpper with
    | some v => .text v
    | none =>
      if (parents parts).any fun k => (s.envValue k.toUpper).isSome then .none
      else
        let found := search (parts.length + 1) s.config parts
        if found.isSome then found
        else if shadowedIn s.config parts then .none
        else
          match s.defaults.lookup key with
          | some v => Setting.ofFlag v
          | none => .none

/-- A setting as a text. -/
def text (s : Sources) (key : String) : String := (s.find key).asText

/-- A setting as a list of texts. -/
def texts (s : Sources) (key : String) : List String := (s.find key).asTexts

/-- A setting as a truth value. -/
def bool (s : Sources) (key : String) : Bool := (s.find key).asBool

/-- A setting as a whole number. -/
def int (s : Sources) (key : String) : Int := (s.find key).asInt

/-- A setting as a table of texts. -/
def pairs (s : Sources) (key : String) : List (String × String) := (s.find key).asPairs

end Sources

end SigmaQuery.Cli
