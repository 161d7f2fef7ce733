import SigmaQuery.Text.Utf8
/-!
# Reading JSON text

A JSON text is read from its bytes: one value with optional blanks (space, tab, line feed and
carriage return) around it. A value is `null`, `true`, `false`, a number, a string, an array or
an object.

* A number is an optional minus sign, a whole part without leading zeros, an optional
  fraction and an optional exponent. It is kept as written, so that each reader decides what
  it stands for.
* A string keeps its bytes as they are, UTF-8 or not, and holds no byte below 0x20. Its escapes
  are `\"`, `\\`, `\/`, `\b`, `\f`, `\n`, `\r`, `\t`, and `\u` with four hexadecimal digits,
  which stands for the UTF-8 bytes of its character. A high surrogate followed by an escaped
  low surrogate is one character; any other surrogate is the replacement character U+FFFD.
* Objects keep their members in the order written, repeated names included.

A text that breaks this grammar anywhere is refused as a whole: `JsonTree.parse?` gives
`none`.

Source: the scanner of the `encoding/json` package, as the JSON codec that
`viper.ReadInConfig` in `src/cmd/root.go:83` uses and `viper.GetStringMapString` in
`src/cmd/convert.go:137` run it.
-/

namespace SigmaQuery.Text

/-- A JSON value as read: numbers keep their text, strings and names their bytes, objects their
members in order. -/
inductive JsonTree where
  | null
  | bool (b : Bool)
  | number (text : String)
  | str (s : Bytes)
  | arr (items : List JsonTree)
  | obj (members : List (Bytes × JsonTree))
  deriving Repr, Inhabited

namespace JsonTree

/-- The blanks that may stand between the parts of a JSON text. -/
def isJsonSpace (x : UInt8) : Bool := x == 0x20 || x == 0x09 || x == 0x0A || x == 0x0D

/-- A text without its leading blanks. -/
def skipSpace (bs : Bytes) : Bytes := bs.dropWhile isJsonSpace

/-- Whether a byte is a decimal digit. -/
def isDigitByte (x : UInt8) : Bool := 0x30 ≤ x.toNat && x.toNat ≤ 0x39

/-- The value of a hexadecimal digit. -/
def hexDigit? (x : UInt8) : Option Nat :=
  let n := x.toNat
  if 0x30 ≤ n && n ≤ 0x39 then some (n - 0x30)
  else if 0x61 ≤ n && n ≤ 0x66 then some (n - 0x61 + 10)
  else if 0x41 ≤ n && n ≤ 0x46 then some (n - 0x41 + 10)
  else none

/-- Reads four hexadecimal digits, giving their value and the text after them. -/
def hexWord : Bytes → Option (Nat × Bytes)
  | a :: b :: c :: d :: rest => do
    let w ← hexDigit? a
    let x ← hexDigit? b
    let y ← hexDigit? c
    let z ← hexDigit? d
    pure (((w * 16 + x) * 16 + y) * 16 + z, rest)
  | _ => none

/-- The byte a one-letter escape stands for: the letters of `"\/bfnrt`. -/
def simpleEscape? : UInt8 → Option UInt8
  | 0x22 => some 0x22
  | 0x5C => some 0x5C
  | 0x2F => some 0x2F
  | 0x62 => some 0x08
  | 0x66 => some 0x0C
  | 0x6E => some 0x0A
  | 0x72 => some 0x0D
  | 0x74 => some 0x09
  | _ => none

/-- The replacement character, which stands for a surrogate that is not half of a pair. -/
def replacement : Char := Char.ofNat 0xFFFD

/-- Reads the character of a `\u` escape whose four digits gave `u`, with the text after
them: a high surrogate takes the escaped low surrogate that follows it, if there is one. -/
def unicodeEscape (u : Nat) (rest : Bytes) : Char × Bytes :=
  if 0xD800 ≤ u && u < 0xDC00 then
    match rest with
    | 0x5C :: 0x75 :: more =>
      match hexWord more with
      | some (l, after) =>
        if 0xDC00 ≤ l && l < 0xE000 then
          (Char.ofNat (0x10000 + (u - 0xD800) * 0x400 + (l - 0xDC00)), after)
        else (replacement, rest)
      | none => (replacement, rest)
    | _ => (replacement, rest)
  else if 0xDC00 ≤ u && u < 0xE000 then (replacement, rest)
  else (Char.ofNat u, rest)

/-- Reads the rest of a string after its opening quote: its bytes, last first, and the text
after the closing quote. An escape stands for the bytes of its character. -/
def stringBody : Nat → Bytes → Bytes → Option (Bytes × Bytes)
  | 0, _, _ => none
  | fuel + 1, acc, bs =>
    match bs with
    | [] => none
    | 0x22 :: rest => some (acc, rest)
    | 0x5C :: 0x75 :: rest =>
      match hexWord rest with
      | none => none
      | some (u, rest) =>
        let (c, rest) := unicodeEscape u rest
        stringBody fuel ((String.utf8EncodeChar c).reverse ++ acc) rest
    | 0x5C :: e :: rest =>
      match simpleEscape? e with
      | some x => stringBody fuel (x :: acc) rest
      | none => none
    | x :: rest => if x.toNat < 0x20 then none else stringBody fuel (x :: acc) rest

/-- Splits a run of at least one digit off the front of a text. -/
def digitsPrefix (bs : Bytes) : Option (Bytes × Bytes) :=
  let ds := bs.takeWhile isDigitByte
  if ds.isEmpty then none else some (ds, bs.dropWhile isDigitByte)

/-- Splits a number's text off the front of a text: sign, whole part, fraction, exponent. -/
def numberPrefix (bs : Bytes) : Option (Bytes × Bytes) := do
  let (sign, bs) : Bytes × Bytes := match bs with
    | 0x2D :: rest => ([0x2D], rest)
    | _ => ([], bs)
  let (whole, bs) ← match bs with
    | 0x30 :: rest => some ([0x30], rest)
    | _ => digitsPrefix bs
  let (frac, bs) ← match bs with
    | 0x2E :: rest => (digitsPrefix rest).map fun (ds, rest) => (0x2E :: ds, rest)
    | _ => some ([], bs)
  let (exp, bs) ← match bs with
    | e :: rest =>
      if e == 0x65 || e == 0x45 then
        let (sg, rest) : Bytes × Bytes := match rest with
          | 0x2B :: r => ([0x2B], r)
          | 0x2D :: r => ([0x2D], r)
          | _ => ([], rest)
        (digitsPrefix rest).map fun (ds, rest) => (e :: sg ++ ds, rest)
      else some ([], bs)
    | [] => some ([], [])
  pure (sign ++ whole ++ frac ++ exp, bs)

/-- Reads a string after its opening quote. -/
def readString (bs : Bytes) : Option (Bytes × Bytes) :=
  (stringBody (bs.length + 1) [] bs).map fun (acc, rest) => (acc.reverse, rest)

mutual

/-- Reads a value after optional blanks, giving the text after it. The bytes a value starts
with are those of `null`, `true`, `false`, a quote, `[`, `{`, or the start of a number. -/
def readValue : Nat → Bytes → Option (JsonTree × Bytes)
  | 0, _ => none
  | fuel + 1, bs =>
    match skipSpace bs with
    | 0x6E :: 0x75 :: 0x6C :: 0x6C :: rest => some (.null, rest)
    | 0x74 :: 0x72 :: 0x75 :: 0x65 :: rest => some (.bool true, rest)
    | 0x66 :: 0x61 :: 0x6C :: 0x73 :: 0x65 :: rest => some (.bool false, rest)
    | 0x22 :: rest => (readString rest).map fun (s, rest) => (.str s, rest)
    | 0x5B :: rest =>
      match skipSpace rest with
      | 0x5D :: rest => some (.arr [], rest)
      | _ => (readItems fuel [] rest).map fun (xs, rest) => (.arr xs, rest)
    | 0x7B :: rest =>
      match skipSpace rest with
      | 0x7D :: rest => some (.obj [], rest)
      | _ => (readMembers fuel [] rest).map fun (ms, rest) => (.obj ms, rest)
    | bs => (numberPrefix bs).map fun (t, rest) => (.number (lossy t), rest)

/-- Reads the items of an array from its next item on; `acc` holds the items read, last
first. -/
def readItems : Nat → List JsonTree → Bytes → Option (List JsonTree × Bytes)
  | 0, _, _ => none
  | fuel + 1, acc, bs =>
    match readValue fuel bs with
    | none => none
    | some (v, rest) =>
      match skipSpace rest with
      | 0x2C :: rest => readItems fuel (v :: acc) rest
      | 0x5D :: rest => some ((v :: acc).reverse, rest)
      | _ => none

/-- Reads the members of an object from its next member on; `acc` holds the members read,
last first. -/
def readMembers : Nat → List (Bytes × JsonTree) → Bytes → Option (List (Bytes × JsonTree) × Bytes)
  | 0, _, _ => none
  | fuel + 1, acc, bs =>
    match skipSpace bs with
    | 0x22 :: rest =>
      match readString rest with
      | none => none
      | some (name, rest) =>
        match skipSpace rest with
        | 0x3A :: rest =>
          match readValue fuel rest with
          | none => none
          | some (v, rest) =>
            match skipSpace rest with
            | 0x2C :: rest => readMembers fuel ((name, v) :: acc) rest
            | 0x7D :: rest => some (((name, v) :: acc).reverse, rest)
            | _ => none
        | _ => none
    | _ => none

end

/-- Reads a JSON text: one value with optional blanks around it. -/
def parse? (bs : Bytes) : Option JsonTree :=
  match readValue (2 * bs.length + 2) bs with
  | some (v, rest) => if (skipSpace rest).isEmpty then some v else none
  | none => none

/-- The members of an object with each name once: a repeated name keeps its last value, at
the place where it was first written. -/
def lastWins {α : Type} (ms : List (String × α)) : List (String × α) :=
  ms.foldl (fun acc (k, v) =>
    if acc.any (·.1 == k) then acc.map fun (k', v') => if k' == k then (k', v) else (k', v')
    else acc ++ [(k, v)]) []

example : (parse? (utf8 "\x7b\"a\": [1, -2.5e3, true, null], \"b\": \"\\u00e9\\ud83d\\ude00\"\x7d")).isSome =
    true := by
  decide +kernel
example : (parse? [0x22, 0x80, 0x5C, 0x6E, 0x22]).map (fun
    | .str s => s
    | _ => []) = some [0x80, 0x0A] := by decide +kernel
example : (parse? (utf8 "[01]")).isSome = false := by decide +kernel
example : (parse? (utf8 "\x7b\"a\": 1,\x7d")).isSome = false := by decide +kernel
example : (parse? []).isSome = false := by decide +kernel

end JsonTree

end SigmaQuery.Text
