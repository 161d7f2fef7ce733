import SigmaQuery.Text.Utf8

/-!
# UUID texts

A UUID is written as 32 hexadecimal digits, either bare or in five dash-separated groups of
8, 4, 4, 4 and 12 digits; the grouped form may carry a `urn:uuid:` prefix (in any case) or
one character on each side, which is not looked at. Lengths are counted in bytes of the UTF-8
encoding. `uuidFault?` gives the reason the bytes of a text are not a UUID, or `none`.

Source: `uuid.Parse` of the google/uuid package, as `Backend.Convert` calls it in
`src/pkg/datadog/backend.go:157`.
-/

namespace SigmaQuery.Text

/-- Whether a byte is an ASCII hexadecimal digit. -/
def isHexByte (b : UInt8) : Bool :=
  (48 ≤ b && b ≤ 57) || (65 ≤ b && b ≤ 70) || (97 ≤ b && b ≤ 102)

/-- Whether the two bytes at a position are hexadecimal digits. -/
def hexPairAt (bytes : List UInt8) (i : Nat) : Bool :=
  match bytes[i]?, bytes[i + 1]? with
  | some a, some b => isHexByte a && isHexByte b
  | _, _ => false

/-- Where the sixteen digit pairs of the grouped form start. -/
def groupedPairs : List Nat := [0, 2, 4, 6, 9, 11, 14, 16, 19, 21, 24, 26, 28, 30, 32, 34]

/-- Whether bytes hold the grouped form: dashes at 8, 13, 18 and 23, digit pairs around them. -/
def isGrouped (bytes : List UInt8) : Bool :=
  [8, 13, 18, 23].all (fun i => bytes[i]? == some 45) && groupedPairs.all (hexPairAt bytes)

/-- Why the bytes of a text are not a UUID, or `none` when they are one. -/
def uuidFault? (bytes : Bytes) : Option String :=
  let bad := some "invalid UUID format"
  match bytes.length with
  | 36 => if isGrouped bytes then none else bad
  | 45 =>
    let head := bytes.take 9
    let urn := utf8 "urn:uuid:"
    if (List.zipWith (fun a b => (if 65 ≤ a && a ≤ 90 then a + 32 else a) == b) head urn).all id then
      if isGrouped (bytes.drop 9) then none else bad
    else some ("invalid urn prefix: " ++ quoteBytes head)
  | 38 => if isGrouped (bytes.drop 1) then none else bad
  | 32 => if (List.range 16).all (fun i => hexPairAt bytes (2 * i)) then none else bad
  | n => some ("invalid UUID length: " ++ toString n)

example : uuidFault? (utf8 "c277adc0-f0c4-42e1-af9d-fab062992156") = none := by decide +kernel
example : uuidFault? (utf8 "x") = some "invalid UUID length: 1" := by decide +kernel

end SigmaQuery.Text
