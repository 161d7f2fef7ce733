import SigmaQuery.Text.Numeral
/-!
# Binary floating point

The 64-bit binary floats of IEEE 754, in which settings hold their numbers. Everything here
is exact arithmetic on whole numbers.

* A decimal reads as the float nearest to it, a tie going to the even mantissa. From halfway
  past the greatest float on, a decimal is infinite; below half the least float it is zero.
* A float is written with the fewest significant digits that read back to it, and of those
  with the digits nearest to it.
* The whole part of a float is cut toward zero, as a 64-bit processor converts it: from
  `2 ^ 63` in size on, every float gives the least 64-bit number.

Source: `strconv.ParseFloat` and `strconv.FormatFloat`, as the cast package reads numbers
of the configuration file that `viper.ReadInConfig` in `src/cmd/root.go:83` loads.
-/

namespace SigmaQuery.Text

/-- A finite float: its sign and its size `mantissa * 2 ^ exponent`. A normal float has a
mantissa of 53 bits; a subnormal one has a shorter mantissa and the least exponent. -/
structure Binary64 where
  negative : Bool
  mantissa : Nat
  exponent : Int
  deriving Repr, Inhabited, DecidableEq

namespace Binary64

/-- The exponent of the last bit of the least floats. -/
def minExponent : Int := -1074

/-- The exponent of the last bit of the greatest floats. -/
def maxExponent : Int := 971

/-- The number of bits of a whole number. -/
def bitLength (n : Nat) : Nat := if n = 0 then 0 else Nat.log2 n + 1

/-- `a / b` rounded to the nearest whole number, a tie going to the even one. -/
def roundDiv (a b : Nat) : Nat :=
  let q := a / b
  let r := a % b
  if 2 * r > b || (2 * r == b && q % 2 == 1) then q + 1 else q

/-- `a / b` rounded up. -/
def ceilDiv (a b : Nat) : Nat := (a + b - 1) / b

/-- The fraction `num * 2 ^ k / den`, as a numerator and a denominator. -/
def scaleTwo (num den : Nat) (k : Int) : Nat × Nat :=
  if k ≥ 0 then (num * Nat.pow 2 k.toNat, den) else (num, den * Nat.pow 2 (-k).toNat)

/-- The fraction `num / (den * 10 ^ p)`, as a numerator and a denominator. -/
def scaleTen (num den : Nat) (p : Int) : Nat × Nat :=
  if p ≥ 0 then (num, den * Nat.pow 10 p.toNat) else (num * Nat.pow 10 (-p).toNat, den)

/-- The float nearest to the fraction `num / den`, with a sign; `none` when it is infinite. -/
def ofFraction (negative : Bool) (num den : Nat) : Option Binary64 :=
  if num = 0 || den = 0 then some ⟨negative, 0, minExponent⟩
  else
    let t : Int := (bitLength num : Int) - bitLength den
    -- the greatest power of two not above the fraction is `2 ^ t` or `2 ^ (t - 1)`
    let (a, b) := scaleTwo den 1 t
    let top := if num * b ≥ a then t else t - 1
    let e := max (top - 52) minExponent
    let (a, b) := scaleTwo num den (-e)
    let m := roundDiv a b
    let (m, e) := if m == Nat.pow 2 53 then (Nat.pow 2 52, e + 1) else (m, e)
    if e > maxExponent then none else some ⟨negative, m, e⟩

/-- Whether a float is zero. -/
def isZero (f : Binary64) : Bool := f.mantissa == 0

/-- The whole part of a float, cut toward zero; from `2 ^ 63` in size on, the least 64-bit
number. -/
def truncate (f : Binary64) : Int :=
  let least : Int := -((Nat.pow 2 63 : Nat) : Int)
  if f.exponent > 63 && f.mantissa > 0 then least
  else
    let whole := if f.exponent ≥ 0 then f.mantissa * Nat.pow 2 f.exponent.toNat
      else f.mantissa / Nat.pow 2 (-f.exponent).toNat
    if whole ≥ Nat.pow 2 63 then least
    else if f.negative then -(whole : Int) else whole

/-- The decimal digits of a whole number, most significant first. -/
def digitsOf (n : Nat) : List Nat :=
  (Nat.toDigits 10 n).map fun c => c.toNat - '0'.toNat

/-- The decimal `c * 10 ^ p` with its trailing zeros moved into the exponent. -/
def decimalOf (negative : Bool) (c : Nat) (p : Int) : Decimal :=
  if c = 0 then ⟨negative, [], 0⟩
  else
    let ds := digitsOf c
    let zeros := (ds.reverse.takeWhile (· == 0)).length
    ⟨negative, ds.take (ds.length - zeros), p + zeros⟩

/-- The decimals `c * 10 ^ p` that read back to a float, for a power `p`: the least and the
greatest `c`, and the `c` nearest to the float (ties to the even one), kept within them.
The float is `mid * 2 ^ k`; its neighbours are halfway to `lo * 2 ^ k` and `hi * 2 ^ k`,
which read back to it only when its mantissa is even. -/
def window (lo mid hi : Nat) (k : Int) (inclusive : Bool) (p : Int) : Nat × Nat × Nat :=
  let (a, b) := scaleTwo 1 1 k
  let (lb, d) := scaleTen (lo * a) b p
  let (hb, d') := scaleTen (hi * a) b p
  let (mb, d'') := scaleTen (mid * a) b p
  let least := if inclusive then ceilDiv lb d else lb / d + 1
  let greatest := if inclusive then hb / d' else ceilDiv hb d' - 1
  let t := mb / d''
  let up := 2 * (mb % d'') > d'' || (2 * (mb % d'') == d'' && t % 2 == 1)
  let c := if t < least then least else if up && t < greatest then t + 1 else t
  (least, greatest, c)

/-- Searches the powers of ten downward from `p` for the greatest at which some decimal reads
back to the float. -/
def search (lo mid hi : Nat) (k : Int) (inclusive : Bool) : Nat → Int → Nat × Int
  | 0, p => ((window lo mid hi k inclusive p).2.2, p)
  | fuel + 1, p =>
    let (least, greatest, c) := window lo mid hi k inclusive p
    if least ≤ greatest then (c, p) else search lo mid hi k inclusive fuel (p - 1)

/-- The decimal with the fewest significant digits that reads back to a float, and of those
the nearest to it. -/
def shortest (f : Binary64) : Decimal :=
  if f.mantissa = 0 then ⟨f.negative, [], 0⟩
  else
    let m := f.mantissa
    let border := m == Nat.pow 2 52 && f.exponent > minExponent
    let lo := if border then 4 * m - 1 else 4 * m - 2
    let k := f.exponent - 2
    -- a power of ten above the float's upper neighbour, by the bound log10 2 < 0.30103
    let start : Int := ((bitLength (4 * m + 2) : Int) + k) * 30103 / 100000 + 3
    let (c, p) := search lo (4 * m) (4 * m + 2) k (m % 2 == 0) 64 start
    decimalOf f.negative c p

/-- The shortest positional text of a float. -/
def shown (f : Binary64) : String := f.shortest.text

end Binary64

namespace Decimal

/-- The float a decimal reads as, `none` when it is infinite. -/
def toBinary64? (d : Decimal) : Option Binary64 :=
  if d.digits.isEmpty || d.magnitude < -324 then some ⟨d.negative, 0, Binary64.minExponent⟩
  else if d.magnitude > 309 then none
  else
    let n : Nat := d.digits.foldl (fun acc x => acc * 10 + x) 0
    let (a, b) := Binary64.scaleTen n 1 (-d.exponent)
    Binary64.ofFraction d.negative a b

end Decimal

example : ((Decimal.read "0.1").bind Decimal.toBinary64?).map Binary64.shown = some "0.1" := by
  decide +kernel
example : ((Decimal.read "123456789012345678901234").bind Decimal.toBinary64?).map
    Binary64.shown = some "123456789012345690000000" := by decide +kernel
example : ((Decimal.read "5e-324").bind Decimal.toBinary64?).map Binary64.shortest =
    some ⟨false, [5], -324⟩ := by decide +kernel
example : ((Decimal.read "2e-324").bind Decimal.toBinary64?).map Binary64.isZero = some true := by
  decide +kernel
example : ((Decimal.read "-2.9999999999999999999").bind Decimal.toBinary64?).map
    Binary64.truncate = some (-3) := by decide +kernel

end SigmaQuery.Text
