/-!
# Timestamps

Dates and times that configuration files hold, and the texts they are written back as.

* A point in time is written `2001-12-14 21:59:43.1 +0000 UTC`: date, time of day with the
  fraction of a second to nine places and no trailing zeros, then the offset from UTC twice,
  the second time as the zone's name, which is `UTC` for a zero offset.
* A local date is written `1979-05-27`, a local time `07:32:00` with as many places of the
  fraction as were read, and a local date and time as both joined by `T`.

Source: `time.Time.String` and the local date and time types of the go-toml package, as
the cast package writes values of the configuration file that `viper.ReadInConfig` in
`src/cmd/root.go:83` loads.
-/

namespace SigmaQuery.Text

/-- A date and a time of day, with its offset from UTC in seconds. -/
structure Timestamp where
  year : Nat
  month : Nat
  day : Nat
  hour : Nat := 0
  minute : Nat := 0
  second : Nat := 0
  nanos : Nat := 0
  offset : Int := 0
  deriving Repr, Inhabited, DecidableEq

namespace Timestamp

/-- A number in decimal, padded with zeros on the left to at least `width` digits. -/
def pad (width n : Nat) : String :=
  let ds := Nat.toDigits 10 n
  String.ofList (List.replicate (width - ds.length) '0' ++ ds)

/-- Whether a year is a leap year. -/
def isLeap (year : Nat) : Bool := year % 4 == 0 && (year % 100 != 0 || year % 400 == 0)

/-- The number of days of a month. -/
def daysIn (year month : Nat) : Nat :=
  if month == 2 then (if isLeap year then 29 else 28)
  else if month == 4 || month == 6 || month == 9 || month == 11 then 30
  else 31

/-- The timestamp a second later, for one whose second is the leap second `60`. -/
def carryLeapSecond (t : Timestamp) : Timestamp :=
  if t.second < 60 then t
  else
    let t := { t with second := t.second - 60, minute := t.minute + 1 }
    if t.minute < 60 then t
    else
      let t := { t with minute := 0, hour := t.hour + 1 }
      if t.hour < 24 then t
      else
        let t := { t with hour := 0, day := t.day + 1 }
        if t.day ≤ daysIn t.year t.month then t
        else
          let t := { t with day := 1, month := t.month + 1 }
          if t.month ≤ 12 then t else { t with month := 1, year := t.year + 1 }

/-- The places of a fraction of a second below nine digits, without trailing zeros; empty for
a whole second. -/
def fraction (nanos : Nat) : String :=
  if nanos == 0 then ""
  else
    let ds := (pad 9 nanos).toList
    "." ++ String.ofList (ds.reverse.dropWhile (· == '0')).reverse

/-- An offset from UTC as a sign, hours and minutes: `-0500`. -/
def offsetText (offset : Int) : String :=
  let minutes := offset.natAbs / 60
  (if offset < 0 then "-" else "+") ++ pad 2 (minutes / 60) ++ pad 2 (minutes % 60)

/-- The date of a timestamp: `2001-12-14`. -/
def dateText (t : Timestamp) : String :=
  pad 4 t.year ++ "-" ++ pad 2 t.month ++ "-" ++ pad 2 t.day

/-- The time of day of a timestamp, to the second: `21:59:43`. -/
def clockText (t : Timestamp) : String :=
  pad 2 t.hour ++ ":" ++ pad 2 t.minute ++ ":" ++ pad 2 t.second

/-- How a point in time is written: `2001-12-14 21:59:43.1 -0500 -0500`. -/
def shown (t : Timestamp) : String :=
  let zone := if t.offset == 0 then "+0000 UTC" else offsetText t.offset ++ " " ++ offsetText t.offset
  t.dateText ++ " " ++ t.clockText ++ fraction t.nanos ++ " " ++ zone

/-- How a local time is written, with `places` places of its fraction of a second. -/
def localClock (t : Timestamp) (places : Nat) : String :=
  t.clockText ++ (if places == 0 then "" else "." ++ ((pad 9 t.nanos).take places))

/-- The nanoseconds that the digits of a fraction of a second stand for: the first nine digits,
the rest cut off. -/
def nanosOf (ds : List Char) : Nat :=
  let ds := ds.take 9
  ds.foldl (fun acc c => acc * 10 + (c.toNat - '0'.toNat)) 0 * Nat.pow 10 (9 - ds.length)

end Timestamp

example : (Timestamp.mk 2001 12 14 21 59 43 100000000 (-18000)).shown =
    "2001-12-14 21:59:43.1 -0500 -0500" := by decide +kernel
example : (Timestamp.mk 2001 12 31 23 59 60 0 0).carryLeapSecond.shown =
    "2002-01-01 00:00:00 +0000 UTC" := by decide +kernel

end SigmaQuery.Text
