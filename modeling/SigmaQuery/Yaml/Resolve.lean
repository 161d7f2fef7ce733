import SigmaQuery.Yaml.Node
import SigmaQuery.Text.Timestamp

/-!
# Resolving plain scalars

A scalar without an explicit tag, written plain, stands for the value its text reads as in
YAML 1.1: null (`~`, `null`, empty), a boolean (`yes`, `on`, `true`, `y` and their
opposites, in three spellings each), an integer (decimal, `0x`, `0o`, `0b` or a leading `0`
for octal, with `_` between digits, signed, 64 bits), a float (decimal with a point or an
exponent, `.inf`, `.nan`), a timestamp (`2001-12-14`, with an optional time and zone), the
merge key `<<`, and otherwise a string. A standard tag forces a kind: a text that does not
read as that kind is refused, except that an integer may stand for a float.

Only the first character decides which readings are tried: a sign or digit tries numbers
and timestamps, a point tries floats, and a few letters try the fixed words.

Source: `resolve` of the yaml.v2 package, and of the yaml.v3 package for configuration
files.
-/

namespace SigmaQuery.Yaml

/-- The prefix of the standard tags. -/
def standardPrefix : String := "tag:yaml.org,2002:"

/-- A standard tag. -/
def standardTag (name : String) : String := standardPrefix ++ name

/-- How messages write a tag: `!!name` for a standard one. -/
def shortTag (tag : String) : String :=
  if tag.startsWith standardPrefix then "!!" ++ String.ofList (tag.toList.drop standardPrefix.length)
  else tag

/-- What a scalar stands for. -/
inductive Resolved where
  | null
  | bool (b : Bool)
  | int (i : Int)
  /-- A float, by its text; `nan` when it is not a number. -/
  | float (text : String) (nan : Bool)
  | str (s : String)
  /-- A point in time. -/
  | timestamp (t : Text.Timestamp)
  /-- The merge key `<<`. -/
  | merge
  deriving Repr, Inhabited, DecidableEq

namespace Resolve

/-- The value of a digit in bases up to 36. -/
def digitValue (c : Char) : Option Nat :=
  if c.isDigit then some (c.toNat - '0'.toNat)
  else if c.isLower then some (c.toNat - 'a'.toNat + 10)
  else if c.isUpper then some (c.toNat - 'A'.toNat + 10)
  else none

/-- The value of digits in a base, if all are digits of it. -/
def digits (base : Nat) : List Char → Nat → Option Nat
  | [], acc => some acc
  | c :: rest, acc =>
    match digitValue c with
    | some d => if d < base then digits base rest (acc * base + d) else none
    | none => none

/-- An unsigned 64-bit integer in a base. -/
def unsignedIn (base : Nat) (cs : List Char) : Option Nat :=
  if cs.isEmpty then none
  else (digits base cs 0).bind fun n => if n < Nat.pow 2 64 then some n else none

/-- An unsigned 64-bit integer whose base its prefix gives: `0x`, `0o`, `0b`, or a leading
`0` for octal. -/
def unsignedAuto (cs : List Char) : Option Nat :=
  match cs with
  | [] => none
  | '0' :: b :: rest =>
    if rest.isEmpty then digits 8 [b] 0
    else if b == 'b' || b == 'B' then unsignedIn 2 rest
    else if b == 'o' || b == 'O' then unsignedIn 8 rest
    else if b == 'x' || b == 'X' then unsignedIn 16 rest
    else (digits 8 (b :: rest) 0).bind fun n => if n < Nat.pow 2 64 then some n else none
  | ['0'] => some 0
  | _ => unsignedIn 10 cs

/-- A signed 64-bit integer, given how to read its magnitude. -/
def signed (magnitude : List Char → Option Nat) (cs : List Char) : Option Int :=
  let (neg, body) := match cs with
    | '+' :: rest => (false, rest)
    | '-' :: rest => (true, rest)
    | _ => (false, cs)
  (magnitude body).bind fun n =>
    if neg then (if n ≤ Nat.pow 2 63 then some (-(n : Int)) else none)
    else if n < Nat.pow 2 63 then some (n : Int) else none

/-- Whether a text is a decimal float: sign, digits with an optional point, or a point and
digits, then an optional exponent. -/
def isDecimalFloat (cs : List Char) : Bool :=
  let cs := match cs with
    | '+' :: rest => rest
    | '-' :: rest => rest
    | _ => cs
  let intPart := cs.takeWhile Char.isDigit
  let rest := cs.dropWhile Char.isDigit
  let (mantissaOk, rest) :=
    if intPart.isEmpty then
      match rest with
      | '.' :: r => (!(r.takeWhile Char.isDigit).isEmpty, r.dropWhile Char.isDigit)
      | _ => (false, rest)
    else
      match rest with
      | '.' :: r => (true, r.dropWhile Char.isDigit)
      | _ => (true, rest)
  mantissaOk && match rest with
    | [] => true
    | e :: r =>
      (e == 'e' || e == 'E') &&
        let r := match r with
          | '+' :: t => t
          | '-' :: t => t
          | _ => r
        !r.isEmpty && r.all Char.isDigit

/-- The digits and the decimal exponent of a decimal float text: it stands for `m · 10^e`. -/
def decimalParts (cs : List Char) : Nat × Int :=
  let body := match cs with
    | '+' :: r => r
    | '-' :: r => r
    | _ => cs
  let isExp := fun (c : Char) => c == 'e' || c == 'E'
  let mant := body.takeWhile (fun c => !isExp c)
  let expPart := (body.dropWhile (fun c => !isExp c)).drop 1
  let whole := mant.takeWhile (· != '.')
  let frac := (mant.dropWhile (· != '.')).drop 1
  let m := (digits 10 (whole ++ frac) 0).getD 0
  let e : Int := match expPart with
    | '-' :: r => -(((digits 10 r 0).getD 0 : Nat) : Int)
    | '+' :: r => ((digits 10 r 0).getD 0 : Nat)
    | r => ((digits 10 r 0).getD 0 : Nat)
  (m, e - frac.length)

/-- Whether a decimal float text is too large for 64 bits: it rounds to infinity, which
happens from `2^1024 - 2^970` on. -/
def overflows (cs : List Char) : Bool :=
  let (m, e) := decimalParts cs
  let limit : Nat := Nat.pow 2 1024 - Nat.pow 2 970
  let size : Int := (Nat.toDigits 10 m).length
  if m == 0 then false
  else if size + e > 320 then true
  else if size + e < 300 then false
  else if e ≥ 0 then m * Nat.pow 10 e.toNat ≥ limit
  else m ≥ limit * Nat.pow 10 (-e).toNat

/-- A float whose text starts with a point. -/
def pointFloat (cs : List Char) : Bool :=
  cs.head? == some '.' && isDecimalFloat cs && !overflows cs

/-- Reads one or two digits. -/
def number2 (cs : List Char) : Option (Nat × List Char) :=
  match cs with
  | a :: b :: rest =>
    if a.isDigit then
      if b.isDigit then some ((a.toNat - 48) * 10 + (b.toNat - 48), rest)
      else some (a.toNat - 48, b :: rest)
    else none
  | [a] => if a.isDigit then some (a.toNat - 48, []) else none
  | [] => none

/-- The number of days of a month. -/
def daysIn (month year : Nat) : Nat :=
  if month == 2 then
    if year % 4 == 0 && (year % 100 != 0 || year % 400 == 0) then 29 else 28
  else if month == 4 || month == 6 || month == 9 || month == 11 then 30
  else 31

/-- Reads `year-month-day` with a four-digit year and one- or two-digit month and day. -/
def date (cs : List Char) : Option (Nat × Nat × Nat × List Char) := do
  let y := cs.take 4
  if y.length != 4 || !y.all Char.isDigit then none
  let year := (digits 10 y 0).getD 0
  match cs.drop 4 with
  | '-' :: r =>
    let (month, r) ← number2 r
    match r with
    | '-' :: r =>
      let (day, r) ← number2 r
      some (year, month, day, r)
    | _ => none
  | _ => none

/-- Reads `hour:minute:second` with an optional fraction of a second, given with a point or
a comma: the hour, minute, second and nanoseconds, and what follows. -/
def time (cs : List Char) : Option (Nat × Nat × Nat × Nat × List Char) := do
  let (h, r) ← number2 cs
  if h ≥ 24 then none
  match r with
  | ':' :: r =>
    let (mi, r) ← number2 r
    if mi ≥ 60 then none
    match r with
    | ':' :: r =>
      let (s, r) ← number2 r
      if s ≥ 60 then none
      match r with
      | c :: d :: rest =>
        if (c == '.' || c == ',') && d.isDigit then
          let ds := (d :: rest).takeWhile Char.isDigit
          some (h, mi, s, Text.Timestamp.nanosOf ds, (d :: rest).dropWhile Char.isDigit)
        else some (h, mi, s, 0, r)
      | _ => some (h, mi, s, 0, r)
    | _ => none
  | _ => none

/-- Reads a zone, `Z` or a sign and `hh:mm`: its offset from UTC in seconds, and what
follows. -/
def zone (cs : List Char) : Option (Int × List Char) :=
  match cs with
  | 'Z' :: rest => some (0, rest)
  | s :: h1 :: h2 :: ':' :: m1 :: m2 :: rest =>
    if (s == '+' || s == '-') && h1.isDigit && h2.isDigit && m1.isDigit && m2.isDigit then
      let hh := (h1.toNat - 48) * 10 + (h2.toNat - 48)
      let mm := (m1.toNat - 48) * 10 + (m2.toNat - 48)
      if hh ≤ 24 && mm ≤ 60 then
        let offset : Int := ((hh * 60 + mm) * 60 : Nat)
        some (if s == '-' then -offset else offset, rest)
      else none
    else none
  | _ => none

/-- The point in time a text stands for, when it is a timestamp: a date alone, or followed by
`T` or `t`, a time and a zone, or by spaces and a time. A date alone, or a time without a
zone, is in UTC. -/
def timestamp? (s : String) : Option Text.Timestamp := do
  let cs := s.toList
  let lead := cs.takeWhile Char.isDigit
  if lead.length != 4 || (cs.drop 4).head? != some '-' then none
  let (year, month, day, rest) ← date cs
  if !(1 ≤ month && month ≤ 12 && 1 ≤ day && day ≤ daysIn month year) then none
  let d : Text.Timestamp := { year, month, day }
  match rest with
  | [] => some d
  | sep :: r =>
    if sep == 'T' || sep == 't' then
      let (hour, minute, second, nanos, r) ← time r
      let (offset, r) ← zone r
      if r.isEmpty then some { d with hour, minute, second, nanos, offset } else none
    else if sep == ' ' then
      let (hour, minute, second, nanos, r) ← time (r.dropWhile (· == ' '))
      if r.isEmpty then some { d with hour, minute, second, nanos } else none
    else none

/-- Whether a text is a timestamp. -/
def isTimestamp (s : String) : Bool := (timestamp? s).isSome

/-- The fixed words and what they stand for. -/
def fixedWord (s : String) : Option Resolved :=
  if ["y", "Y", "yes", "Yes", "YES", "true", "True", "TRUE", "on", "On", "ON"].contains s then
    some (.bool true)
  else if ["n", "N", "no", "No", "NO", "false", "False", "FALSE", "off", "Off", "OFF"].contains s then
    some (.bool false)
  else if ["", "~", "null", "Null", "NULL"].contains s then some .null
  else if [".nan", ".NaN", ".NAN"].contains s then some (.float s true)
  else if [".inf", ".Inf", ".INF", "+.inf", "+.Inf", "+.INF", "-.inf", "-.Inf", "-.INF"].contains s then
    some (.float s false)
  else if s == "<<" then some .merge
  else none

/-- The long tag of what a scalar stands for. -/
def tagOf : Resolved → String
  | .null => standardTag "null"
  | .bool _ => standardTag "bool"
  | .int _ => standardTag "int"
  | .float .. => standardTag "float"
  | .str _ => standardTag "str"
  | .timestamp _ => standardTag "timestamp"
  | .merge => standardTag "merge"

/-- Which readings the first character of a text allows: `'S'` sign, `'D'` digit, `'M'` fixed
word, `'.'` point, or none. -/
def hint (s : String) : Option Char :=
  match s.toList with
  | [] => some 'N'
  | c :: _ =>
    if c == '+' || c == '-' then some 'S'
    else if c.isDigit then some 'D'
    else if "yYnNtTfFoO~".contains c then some 'M'
    else if c == '.' then some '.'
    else none

/-- What a text stands for when only its text decides. -/
def reading (tag : String) (s : String) : Resolved :=
  match hint s with
  | none => .str s
  | some h =>
    if tag == standardTag "str" || tag == standardTag "binary" then .str s
    else match fixedWord s with
      | some r => r
      | none =>
        if h == '.' then
          if pointFloat s.toList then .float s false else .str s
        else if h == 'D' || h == 'S' then
          match (if tag.isEmpty || tag == standardTag "timestamp" then timestamp? s else none) with
          | some t => .timestamp t
          | none =>
            let plain := s.toList.filter (· != '_')
            match signed unsignedAuto plain with
            | some i => .int i
            | none =>
              match unsignedAuto plain with
              | some n => .int n
              | none =>
                if isDecimalFloat plain && !overflows plain then .float s false
                else
                  match plain with
                  | '0' :: 'b' :: rest =>
                    match signed (unsignedIn 2) rest with
                    | some i => .int i
                    | none => match unsignedIn 2 rest with
                      | some n => .int n
                      | none => .str s
                  | '-' :: '0' :: 'b' :: rest =>
                    match signed (unsignedIn 2) ('-' :: rest) with
                    | some i => .int i
                    | none => .str s
                  | _ => .str s
        else .str s

/-- Tags that resolution knows. -/
def resolvable (tag : String) : Bool :=
  tag.isEmpty || ["str", "bool", "int", "float", "null", "timestamp"].any (standardTag · == tag)

end Resolve

/-- What a scalar with an explicit tag (empty when none) and a text stands for, with its long
tag; a text that does not read as its standard tag is refused with the message. -/
def resolveScalar (tag : String) (s : String) : Except String (String × Resolved) :=
  if !Resolve.resolvable tag then .ok (tag, .str s)
  else
    let r := Resolve.reading tag s
    let rtag := Resolve.tagOf r
    if tag.isEmpty || tag == rtag || tag == standardTag "str" || tag == standardTag "binary" then
      .ok (rtag, r)
    else if tag == standardTag "float" && rtag == standardTag "int" then
      .ok (standardTag "float", .float s false)
    else
      .error ("yaml: cannot decode " ++ shortTag rtag ++ " `" ++ s ++ "` as a " ++ shortTag tag)

example : (resolveScalar "" "0x1F").toOption = some (standardTag "int", .int 31) := by decide +kernel
example : (resolveScalar "" "08").toOption = some (standardTag "float", .float "08" false) := by
  decide +kernel
example : Resolve.isTimestamp "2020-01-01" = true := by decide +kernel

end SigmaQuery.Yaml
