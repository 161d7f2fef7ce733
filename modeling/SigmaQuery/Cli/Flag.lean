import SigmaQuery.Text.Csv
import SigmaQuery.Text.Numeral
/-!
# Command-line flags

A flag has a long name, perhaps a one-letter shorthand, a usage text and a default value,
whose kind is the kind of every value the flag takes: a truth value, a text, a list of texts
or a whole number.

Reading a command line goes from left to right. `--name=value` and `--name value` set a
flag by its long name; a truth flag needs no value (`--quiet` sets it). `-abc` sets the
shorthand flags `a`, `b` and `c` in turn; a shorthand that takes a value takes the rest of
the group, `-x=value`, or the next argument. Everything else is an argument, and everything
after `--` is an argument too. A list flag reads its value as a comma-separated record; the
first time it is set the record replaces the default, later records are added to it.

A usage table lists flags sorted by name, one line each, with the usage texts lined up one
column after the longest flag, continuation lines indented to that column, and a default
that is not the zero of its kind added at the end.

Source: the pflag package, with the flags of `src/cmd/root.go:44–59` and
`src/cmd/convert.go:170–195`.
-/

namespace SigmaQuery.Cli

open Text

/-- A value a flag holds. -/
inductive FlagValue where
  | boolean (b : Bool)
  | text (s : String)
  | texts (items : List String)
  | integer (n : Int)
  deriving Repr, Inhabited, DecidableEq

namespace FlagValue

/-- The word a usage line writes after the flag for its value; none for a truth value. -/
def placeholder : FlagValue → String
  | .boolean _ => ""
  | .text _ => "string"
  | .texts _ => "strings"
  | .integer _ => "int"

/-- Whether a value is the zero of its kind. -/
def isZero : FlagValue → Bool
  | .boolean b => !b
  | .text s => s.isEmpty
  | .texts items => items.isEmpty
  | .integer n => n == 0

/-- How a usage line shows a default value. -/
def shown : FlagValue → String
  | .boolean b => toString b
  | .text s => quote s
  | .texts items => "[" ++ ",".intercalate items ++ "]"
  | .integer n => toString n

end FlagValue

/-- A command-line flag. -/
structure Flag where
  name : String
  shorthand : Option Char := none
  usage : String
  default : FlagValue
  deriving Repr, Inhabited

namespace Flag

/-- Whether a flag holds a truth value, and so needs no value on the command line. -/
def isSwitch (f : Flag) : Bool :=
  match f.default with
  | .boolean _ => true
  | _ => false

/-- How messages name a flag: `-q, --quiet`, or `--name` without a shorthand. -/
def display (f : Flag) : String :=
  match f.shorthand with
  | some c => "-" ++ c.toString ++ ", --" ++ f.name
  | none => "--" ++ f.name

end Flag

/-- Why the flags of a command line cannot be read. -/
inductive FlagError where
  /-- An argument that starts like a long flag but names none (`---x`, `--=x`). -/
  | badSyntax (arg : String)
  /-- A long name that no flag has. -/
  | unknown (name : String)
  /-- A shorthand that no flag has, with the rest of its group. -/
  | unknownShorthand (c : Char) (group : String)
  /-- A long flag that needs a value and has none. -/
  | needsValue (arg : String)
  /-- A shorthand flag that needs a value and has none. -/
  | needsShortValue (c : Char) (group : String)
  /-- A value that the flag cannot take, with the reason. -/
  | invalid (flag : Flag) (value : String) (reason : String)
  deriving Repr, Inhabited

/-- The first byte of a character's UTF-8 form, read as a character on its own. -/
def leadByte (c : Char) : Char :=
  match c.toString.toUTF8.toList with
  | b :: _ => Char.ofNat b.toNat
  | [] => c

namespace FlagError

/-- The message of a fault. -/
def message : FlagError → String
  | .badSyntax arg => "bad flag syntax: " ++ arg
  | .unknown name => "unknown flag: --" ++ name
  | .unknownShorthand c group => "unknown shorthand flag: " ++ quoteRune (leadByte c) ++ " in -" ++ group
  | .needsValue arg => "flag needs an argument: " ++ arg
  | .needsShortValue c group => "flag needs an argument: " ++ quoteRune c ++ " in -" ++ group
  | .invalid f value reason => "invalid argument " ++ quote value ++ " for " ++ quote f.display ++
      " flag: " ++ reason

end FlagError

/-- The value a flag takes from a text; `current` is what an earlier setting on the same
command line gave it, if any. -/
def Flag.read (f : Flag) (current : Option FlagValue) (raw : String) : Except FlagError FlagValue :=
  match f.default with
  | .boolean _ =>
    match readBool raw with
    | .ok b => .ok (.boolean b)
    | .error e => .error (.invalid f raw (e.message "ParseBool" raw))
  | .text _ => .ok (.text raw)
  | .texts _ =>
    let record := if raw.isEmpty then .ok [] else csvRecord raw
    match record with
    | .ok items =>
      match current with
      | some (.texts earlier) => .ok (.texts (earlier ++ items))
      | _ => .ok (.texts items)
    | .error e => .error (.invalid f raw e.message)
  | .integer _ =>
    match readInt raw with
    | .ok n => .ok (.integer n)
    | .error e => .error (.invalid f raw (e.message "ParseInt" raw))

/-- What reading a command line's flags gives: the flags set, by name, latest first, and the
arguments that are not flags, in order. -/
structure FlagReading where
  values : List (String × FlagValue) := []
  args : List String := []
  deriving Repr, Inhabited

namespace FlagReading

/-- The value a flag was set to, if it was set. -/
def get? (r : FlagReading) (name : String) : Option FlagValue := r.values.lookup name

/-- Sets a flag's value. -/
def put (r : FlagReading) (name : String) (v : FlagValue) : FlagReading :=
  { r with values := (name, v) :: r.values.filter (·.1 != name) }

/-- Adds an argument. -/
def arg (r : FlagReading) (a : String) : FlagReading := { r with args := r.args ++ [a] }

/-- Sets a flag from a text. -/
def assign (r : FlagReading) (f : Flag) (raw : String) : Except FlagError FlagReading :=
  (f.read (r.get? f.name) raw).map (r.put f.name)

end FlagReading

/-- Looks up a flag by long name. -/
def findFlag (flags : List Flag) (name : String) : Option Flag := flags.find? (·.name == name)

/-- Looks up a flag by shorthand. -/
def findShorthand (flags : List Flag) (c : Char) : Option Flag := flags.find? (·.shorthand == some c)

/-- Reads a group of shorthand flags (the text after a single dash), taking a value from the
following arguments where one is needed; gives the arguments left. -/
def readShorthands (flags : List Flag) :
    List Char → List String → FlagReading → Except FlagError (FlagReading × List String)
  | [], rest, r => .ok (r, rest)
  | c :: more, rest, r =>
    let group := String.ofList (c :: more)
    if group.startsWith "test." then .ok (r, rest)
    else
      match findShorthand flags c with
      | none => .error (.unknownShorthand c group)
      | some f =>
        match more with
        | '=' :: v :: vs => (r.assign f (String.ofList (v :: vs))).map (·, rest)
        | _ =>
          if f.isSwitch then
            match r.assign f "true" with
            | .ok r => readShorthands flags more rest r
            | .error e => .error e
          else if !more.isEmpty then (r.assign f (String.ofList more)).map (·, rest)
          else
            match rest with
            | v :: rest => (r.assign f v).map (·, rest)
            | [] => .error (.needsShortValue c group)

/-- Reads a long flag (the text after two dashes), taking its value from the next argument
where one is needed; gives the arguments left. -/
def readLong (flags : List Flag) (arg body : String) (rest : List String) (r : FlagReading) :
    Except FlagError (FlagReading × List String) :=
  match body.toList with
  | [] | '-' :: _ | '=' :: _ => .error (.badSyntax arg)
  | cs =>
    let name := String.ofList (cs.takeWhile (· != '='))
    let value := match cs.dropWhile (· != '=') with
      | [] => none
      | _ :: v => some (String.ofList v)
    match findFlag flags name with
    | none => .error (.unknown name)
    | some f =>
      match value with
      | some v => (r.assign f v).map (·, rest)
      | none =>
        if f.isSwitch then (r.assign f "true").map (·, rest)
        else
          match rest with
          | v :: rest => (r.assign f v).map (·, rest)
          | [] => .error (.needsValue arg)

/-- Reads the flags of a command line, one step per argument at most. -/
def readFlagsFrom (flags : List Flag) : Nat → List String → FlagReading → Except FlagError FlagReading
  | 0, _, r => .ok r
  | _, [], r => .ok r
  | fuel + 1, s :: rest, r =>
    match s.toList with
    | '-' :: '-' :: [] => .ok (rest.foldl FlagReading.arg r)
    | '-' :: '-' :: body =>
      match readLong flags s (String.ofList body) rest r with
      | .ok (r, rest) => readFlagsFrom flags fuel rest r
      | .error e => .error e
    | '-' :: c :: group =>
      match readShorthands flags (c :: group) rest r with
      | .ok (r, rest) => readFlagsFrom flags fuel rest r
      | .error e => .error e
    | _ => readFlagsFrom flags fuel rest (r.arg s)

/-- Reads the flags of a command line. -/
def readFlags (flags : List Flag) (args : List String) : Except FlagError FlagReading :=
  readFlagsFrom flags (args.length + 1) args {}

/-- The start of a flag's usage line: its names and the word for its value. -/
def Flag.usageHead (f : Flag) : String :=
  let names := match f.shorthand with
    | some c => "  -" ++ c.toString ++ ", --" ++ f.name
    | none => "      --" ++ f.name
  let p := f.default.placeholder
  if p.isEmpty then names else names ++ " " ++ p

/-- A flag's usage text with its default, when that is not the zero of its kind. -/
def Flag.usageText (f : Flag) : String :=
  if f.default.isZero then f.usage else f.usage ++ " (default " ++ f.default.shown ++ ")"

/-- Flags sorted by name. -/
def sortFlags (flags : List Flag) : List Flag :=
  flags.mergeSort fun a b => decide (a.name ≤ b.name)

/-- The usage table of some flags: one line each, sorted by name, usage texts lined up. -/
def usageTable (flags : List Flag) : String :=
  let sorted := sortFlags flags
  let width := (sorted.map (·.usageHead.length + 1)).foldl max 0
  let indent := "\n" ++ String.ofList (List.replicate (width + 2) ' ')
  String.join (sorted.map fun f =>
    f.usageHead ++ " " ++ String.ofList (List.replicate (width - f.usageHead.length) ' ') ++ " " ++
      indent.intercalate (f.usageText.splitOn "\n") ++ "\n")

end SigmaQuery.Cli
