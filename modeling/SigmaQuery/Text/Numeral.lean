import SigmaQuery.Text.Quoted
/-!
# Numerals

Reading whole numbers and truth values the way command-line values and settings are read.

A whole number is an optional sign and digits. The base follows from how the digits start:
`0x` for sixteen, `0o` for eight, `0b` for two (in either case, with a digit after them), a
lone leading `0` for eight, and ten otherwise. Underscores may separate digits, or a base
mark from a digit. The value must lie in the 64-bit signed range. Digits are read from the
left and reading stops at the first fault: a character that is no digit of the base, or a
value that no longer fits in 64 unsigned bits; so a fault of range found early hides a fault
of form further right.

A truth value is one of `1 t T true TRUE True` or `0 f F false FALSE False`.

A decimal is read into its sign, significant digits and exponent, and written back without
an exponent (`1.50e1` is `15`).

Source: `strconv.ParseInt`, `strconv.ParseUint` and `strconv.ParseBool`, as the pflag and
cast packages call them for the flags of `src/cmd/root.go:44–59` and
`src/cmd/convert.go:170–195` and for the `viper.GetInt` and `viper.GetBool` calls of
`src/cmd/convert.go:92–138`.
-/

namespace SigmaQuery.Text

/-- Why a text does not read as a number or truth value. -/
inductive NumeralFault where
  /-- The text has the wrong form. -/
  | malformed
  /-- The number lies outside the range of the target. -/
  | outOfRange
  deriving DecidableEq, Repr, Inhabited

namespace NumeralFault

/-- The reason as a message writes it. -/
def reason : NumeralFault → String
  | .malformed => "invalid syntax"
  | .outOfRange => "value out of range"

/-- The message for a text that the reader `reader` could not read. -/
def message (reader text : String) (f : NumeralFault) : String :=
  "strconv." ++ reader ++ ": parsing " ++ quote text ++ ": " ++ f.reason

end NumeralFault

namespace Numeral

/-- The largest value of 64 unsigned bits. -/
def maxWord : Nat := Nat.pow 2 64 - 1

/-- The value of a digit in bases up to 36, letters in either case. -/
def digitOf (c : Char) : Option Nat :=
  if c.isDigit then some (c.toNat - '0'.toNat)
  else if c.isLower then some (c.toNat - 'a'.toNat + 10)
  else if c.isUpper then some (c.toNat - 'A'.toNat + 10)
  else none

/-- Reads digits of a base onto `acc`; when `separated`, underscores are skipped and noted.
Gives the value and whether an underscore was seen. -/
def digitRun (base : Nat) (separated : Bool) :
    List Char → Nat → Bool → Except NumeralFault (Nat × Bool)
  | [], acc, seen => .ok (acc, seen)
  | c :: rest, acc, seen =>
    if c == '_' && separated then digitRun base separated rest acc true
    else
      match digitOf c with
      | none => .error .malformed
      | some d =>
        if d ≥ base then .error .malformed
        else if acc ≥ maxWord / base + 1 then .error .outOfRange
        else if acc * base + d > maxWord then .error .outOfRange
        else digitRun base separated rest (acc * base + d) seen

/-- Whether the underscores of a numeral stand only between digits, or between a base mark
and a digit. `last` is `'^'` at the start, `'0'` after a digit or base mark, `'_'` after an
underscore and `'!'` after anything else. -/
def separatorsFit (hex : Bool) : List Char → Char → Bool
  | [], last => last != '_'
  | c :: rest, last =>
    if c.isDigit || (hex && (('a' ≤ c && c ≤ 'f') || ('A' ≤ c && c ≤ 'F'))) then
      separatorsFit hex rest '0'
    else if c == '_' then
      if last != '0' then false else separatorsFit hex rest '_'
    else if last == '_' then false
    else separatorsFit hex rest '!'

/-- Whether the underscores of an unsigned or signed numeral are well placed. -/
def underscoresFit (cs : List Char) : Bool :=
  let cs := match cs with
    | '+' :: rest => rest
    | '-' :: rest => rest
    | _ => cs
  match cs with
  | '0' :: m :: rest =>
    let k := m.toLower
    if k == 'b' || k == 'o' || k == 'x' then separatorsFit (k == 'x') rest '0'
    else separatorsFit false cs '^'
  | _ => separatorsFit false cs '^'

/-- The base a numeral's start names, and the digits after the base mark. -/
def baseOf : List Char → Nat × List Char
  | '0' :: m :: d :: rest =>
    let k := m.toLower
    if k == 'b' then (2, d :: rest)
    else if k == 'o' then (8, d :: rest)
    else if k == 'x' then (16, d :: rest)
    else (8, m :: d :: rest)
  | '0' :: rest => (8, rest)
  | cs => (10, cs)

/-- Reads an unsigned numeral of 64 bits, base from its start. -/
def readWord (cs : List Char) : Except NumeralFault Nat :=
  if cs.isEmpty then .error .malformed
  else
    let (base, body) := baseOf cs
    match digitRun base true body 0 false with
    | .error f => .error f
    | .ok (n, seen) => if seen && !underscoresFit cs then .error .malformed else .ok n

end Numeral

open Numeral in
/-- Reads a signed whole number of 64 bits, its base from its start. -/
def readInt (s : String) : Except NumeralFault Int :=
  let (neg, body) := match s.toList with
    | '+' :: rest => (false, rest)
    | '-' :: rest => (true, rest)
    | cs => (false, cs)
  if s.isEmpty then .error .malformed
  else
    match readWord body with
    | .error .malformed => .error .malformed
    | .error .outOfRange => .error .outOfRange
    | .ok n =>
      if !neg && n ≥ Nat.pow 2 63 then .error .outOfRange
      else if neg && n > Nat.pow 2 63 then .error .outOfRange
      else .ok (if neg then -(n : Int) else n)

/-- Reads a truth value. -/
def readBool (s : String) : Except NumeralFault Bool :=
  if ["1", "t", "T", "true", "TRUE", "True"].contains s then .ok true
  else if ["0", "f", "F", "false", "FALSE", "False"].contains s then .ok false
  else .error .malformed

/-- Drops a fraction made only of zeros: `12.000` is `12`; other texts stay as they are. -/
def dropZeroFraction (s : String) : String :=
  go s.toList.reverse false
where
  go : List Char → Bool → String
    | [], _ => s
    | c :: rest, zero =>
      if c == '.' then (if zero then String.ofList rest.reverse else s)
      else if c == '0' then go rest true
      else s

example : readInt "0x1F" = .ok 31 := by rfl
example : readInt "-0b101" = .ok (-5) := by rfl
example : readInt "1_000" = .ok 1000 := by rfl
example : readInt "1__0" = .error .malformed := by rfl
example : readInt "9223372036854775808" = .error .outOfRange := by rfl
example : readInt "-9223372036854775808" = .ok (-9223372036854775808) := by rfl
example : readInt "08" = .error .malformed := by rfl
example : readBool "T" = .ok true := by rfl
example : dropZeroFraction "12.00" = "12" := by decide +kernel

/-- A decimal number: its sign, its significant digits and the power of ten of the last
digit. -/
structure Decimal where
  negative : Bool
  digits : List Nat
  exponent : Int
  deriving Repr, Inhabited, DecidableEq

namespace Decimal

/-- The value of decimal digits. -/
def natOf (ds : List Char) : Nat := ds.foldl (fun acc c => acc * 10 + (c.toNat - '0'.toNat)) 0

/-- Reads an exponent: digits with an optional sign. -/
def exponentOf : List Char → Option Int
  | '+' :: ds => if !ds.isEmpty && ds.all Char.isDigit then some (natOf ds) else none
  | '-' :: ds => if !ds.isEmpty && ds.all Char.isDigit then some (-(natOf ds : Int)) else none
  | ds => if !ds.isEmpty && ds.all Char.isDigit then some (natOf ds) else none

/-- Reads a decimal written as digits with an optional point and an optional exponent; the
digits may hold underscores, which are dropped. -/
def read (s : String) : Option Decimal :=
  let cs := s.toList.filter (· != '_')
  let (neg, cs) := match cs with
    | '+' :: rest => (false, rest)
    | '-' :: rest => (true, rest)
    | _ => (false, cs)
  let whole := cs.takeWhile Char.isDigit
  let cs := cs.dropWhile Char.isDigit
  let (frac, cs) := match cs with
    | '.' :: rest => (rest.takeWhile Char.isDigit, rest.dropWhile Char.isDigit)
    | _ => ([], cs)
  if whole.isEmpty && frac.isEmpty then none
  else
    let exp : Option Int := match cs with
      | [] => some 0
      | e :: rest => if e == 'e' || e == 'E' then exponentOf rest else none
    exp.map fun e =>
      let ds := (whole ++ frac).map (·.toNat - '0'.toNat)
      let ds := ds.dropWhile (· == 0)
      let trailing := (ds.reverse.takeWhile (· == 0)).length
      { negative := neg, digits := ds.take (ds.length - trailing),
        exponent := e - frac.length + trailing }

/-- The power of ten just above a nonzero decimal's value. -/
def magnitude (d : Decimal) : Int := (d.digits.length : Int) + d.exponent

/-- The positional text of a decimal: its digits with a point where its exponent puts it,
and no exponent. -/
def text (d : Decimal) : String :=
  let sign := if d.negative then "-" else ""
  let ds := d.digits.map fun n => Char.ofNat (n + 48)
  if ds.isEmpty then sign ++ "0"
  else if d.exponent ≥ 0 then sign ++ String.ofList (ds ++ List.replicate d.exponent.toNat '0')
  else
    let k := (-d.exponent).toNat
    if k < ds.length then
      sign ++ String.ofList (ds.take (ds.length - k)) ++ "." ++ String.ofList (ds.drop (ds.length - k))
    else sign ++ "0." ++ String.ofList (List.replicate (k - ds.length) '0' ++ ds)

example : (read "1.50e1").map text = some "15" := by decide +kernel
example : (read "-0.0250").map text = some "-0.025" := by decide +kernel

end Decimal

end SigmaQuery.Text
