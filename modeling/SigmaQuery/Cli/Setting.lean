import SigmaQuery.Cli.Flag
import SigmaQuery.Text.Blank
import SigmaQuery.Text.JsonSyntax
import SigmaQuery.Text.Binary64
/-!
# Values of settings

A setting holds a text, a truth value, a whole or floating-point number, a list or a table,
or nothing. Each use reads it as the kind it needs:

* a text reads as itself, a number as its decimal digits, a truth value as `true` or `false`,
  a point in time as its text, and a list or table as the empty text;
* a list reads each item as a text, a text read as a list is split at blanks, and any other
  value read as a list is the list of its text;
* a text read as a truth value or a whole number is parsed, and is false or zero when it does
  not parse; a number with a fraction of zeros counts as whole; a point in time is false and
  zero;
* a table reads its entries as texts, and a text read as a table is read as a JSON object
  whose members are texts.

Source: the cast package, as `viper.GetString`, `viper.GetStringSlice`, `viper.GetBool`,
`viper.GetInt` and `viper.GetStringMapString` in `src/cmd/convert.go:47–152` and
`src/cmd/parse.go:52–108` call it.
-/

namespace SigmaQuery.Cli

open Text

/-- The value of a setting. -/
inductive Setting where
  /-- No value. -/
  | none
  | text (s : String)
  | boolean (b : Bool)
  | whole (n : Int)
  /-- A floating-point number: its shortest text, its whole part and whether it is zero. -/
  | real (shown : String) (truncated : Int) (zero : Bool)
  /-- A point in time, a date or a time of day, by the text it is written as. -/
  | instant (shown : String)
  | list (items : List Setting)
  /-- A table, entries in the order written. -/
  | table (entries : List (String × Setting))
  deriving Repr, Inhabited

namespace Setting

/-- A setting read as a text. -/
def asText : Setting → String
  | .text s => s
  | .boolean b => toString b
  | .whole n => toString n
  | .real shown _ _ => shown
  | .instant shown => shown
  | _ => ""

/-- The words of a text: its runs of characters between blanks. -/
def words (s : String) : List String :=
  go s.toList [] []
where
  go : List Char → List Char → List String → List String
    | [], cur, acc => (if cur.isEmpty then acc else String.ofList cur.reverse :: acc).reverse
    | c :: rest, cur, acc =>
      if Text.isBlank c then go rest [] (if cur.isEmpty then acc else String.ofList cur.reverse :: acc)
      else go rest (c :: cur) acc

/-- A setting read as a list of texts. -/
def asTexts : Setting → List String
  | .list items => items.map asText
  | .text s => words s
  | .none | .table _ => []
  | s => [s.asText]

/-- A setting read as a truth value. -/
def asBool : Setting → Bool
  | .boolean b => b
  | .whole n => n != 0
  | .real _ _ zero => !zero
  | .text s => (readBool s).toOption.getD false
  | _ => false

/-- A setting read as a whole number. -/
def asInt : Setting → Int
  | .whole n => n
  | .real _ n _ => n
  | .text s => (readInt (dropZeroFraction s)).toOption.getD 0
  | .boolean b => if b then 1 else 0
  | _ => 0

/-- The value a flag gives a setting. -/
def ofFlag : FlagValue → Setting
  | .boolean b => .boolean b
  | .text s => .text s
  | .texts items => .list (items.map .text)
  | .integer n => .whole n

/-- Whether a setting holds a value. -/
def isSome : Setting → Bool
  | .none => false
  | _ => true

/-- Whether a setting is a table. -/
def isTable : Setting → Bool
  | .table _ => true
  | _ => false

/-- The value of a floating-point text as a setting. -/
def ofFloat (t : String) : Setting :=
  if [".nan", ".NaN", ".NAN"].contains t then .real "NaN" (-((Nat.pow 2 63 : Nat) : Int)) false
  else if [".inf", ".Inf", ".INF", "+.inf", "+.Inf", "+.INF"].contains t then
    .real "+Inf" (-((Nat.pow 2 63 : Nat) : Int)) false
  else if ["-.inf", "-.Inf", "-.INF"].contains t then .real "-Inf" (-((Nat.pow 2 63 : Nat) : Int)) false
  else
    match Decimal.read t |>.bind Decimal.toBinary64? with
    | some f => .real f.shown f.truncate f.isZero
    | Option.none => .text t

end Setting

namespace Setting

/-- A setting read as a table of texts. A table reads its entries as texts. A text is read as
a JSON object: a member that is not a text reads as the empty text, a repeated name keeps its
last value, and a text that is not a JSON object gives no entries. -/
def asPairs : Setting → List (String × String)
  | .table entries => entries.map fun (k, v) => (k, v.asText)
  | .text s =>
    match JsonTree.parse? (Text.utf8 s) with
    | some (.obj ms) =>
      JsonTree.lastWins (ms.map fun (k, v) => (Text.lossy k, match v with
        | .str t => Text.lossy t
        | _ => ""))
    | _ => []
  | _ => []

example : (Setting.text "\x7b\"eventName\": \"ev\", \"n\": 1\x7d").asPairs =
    [("eventName", "ev"), ("n", "")] := by decide +kernel
example : (Setting.text "\x7beventName: ev\x7d").asPairs = [] := by decide +kernel

end Setting

end SigmaQuery.Cli
