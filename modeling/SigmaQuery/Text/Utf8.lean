import SigmaQuery.Text.Blank
import SigmaQuery.Text.Quoted
/-!
# Text as UTF-8 bytes

Some messages measure or cut a text by its UTF-8 encoding, and a binary scalar stands for
any bytes, which need not be UTF-8. Bytes are read one character at a time, as a range loop
over a string reads them (`utf8.DecodeRune`):

* A valid encoding of a character reads as that character. Valid means the shortest encoding
  of a scalar value, so no overlong form, no surrogate and nothing above U+10FFFF.
* Otherwise the first byte alone reads as U+FFFD and reading goes on with the next byte.

`lossy` gives the text so read, `runes` each character with its bytes, and `fields` the words
(`strings.Fields`); `quoteBytes` quotes the bytes as `quote` quotes a text, each byte that begins
no valid encoding written as `\xNN`. A cut that falls inside a character therefore keeps one
U+FFFD for each byte of that character that stays. `slice?` cuts bytes as `s[lo:hi]` does, and
fails where that would fall out of range.

Source: `utf8.DecodeRuneInString` in `lexer.next` of `src/lexer.go:35–44`, and the range
loops of `src/pkg/datadog/escape.go:17–54` and `src/pkg/datadog/metadata.go:65–99`.
-/

namespace SigmaQuery.Text

/-- A text as its UTF-8 bytes, which need not be valid UTF-8. -/
abbrev Bytes := List UInt8

/-- The UTF-8 bytes of a text, `[]byte(s)`. -/
def utf8 (s : String) : Bytes := s.toUTF8.toList

/-- The number of UTF-8 bytes that encode a character. -/
def byteWidth (c : Char) : Nat :=
  let n := c.toNat
  if n < 0x80 then 1 else if n < 0x800 then 2 else if n < 0x10000 then 3 else 4

/-- The characters of the first `n` bytes of `cs`; a character cut in two becomes one
U+FFFD per byte kept. -/
def bytePrefix : Nat → List Char → List Char
  | _, [] => []
  | n, c :: rest =>
    if byteWidth c ≤ n then c :: bytePrefix (n - byteWidth c) rest
    else List.replicate n (Char.ofNat 0xFFFD)

/-- The number of UTF-8 bytes of a text. -/
def byteLength (s : String) : Nat :=
  (s.toList.map byteWidth).foldl (· + ·) 0

example : bytePrefix 2 "aé".toList = ['a', Char.ofNat 0xFFFD] := by decide +kernel

/-- Whether a byte continues a multi-byte encoding. -/
def isContinuation (b : UInt8) : Bool := b.toNat / 64 == 2

/-- The low six bits of a continuation byte. -/
def payload (b : UInt8) : Nat := b.toNat % 64

/-- The character that the bytes begin with, and how many bytes encode it; `none` when they
do not begin with a valid encoding. The second byte of a three- or four-byte encoding is
held to the range that excludes overlong forms, surrogates and values above U+10FFFF. -/
def decodeFirst? : List UInt8 → Option (Char × Nat)
  | [] => none
  | b0 :: rest =>
    let n := b0.toNat
    if n < 0x80 then some (Char.ofNat n, 1)
    else if n < 0xC2 then none
    else if n < 0xE0 then
      match rest with
      | b1 :: _ => if isContinuation b1 then some (Char.ofNat ((n % 32) * 64 + payload b1), 2) else none
      | _ => none
    else if n < 0xF0 then
      let lo := if n == 0xE0 then 0xA0 else 0x80
      let hi := if n == 0xED then 0x9F else 0xBF
      match rest with
      | b1 :: b2 :: _ =>
        if lo ≤ b1.toNat && b1.toNat ≤ hi && isContinuation b2 then
          some (Char.ofNat ((n % 16) * 4096 + payload b1 * 64 + payload b2), 3)
        else none
      | _ => none
    else if n < 0xF5 then
      let lo := if n == 0xF0 then 0x90 else 0x80
      let hi := if n == 0xF4 then 0x8F else 0xBF
      match rest with
      | b1 :: b2 :: b3 :: _ =>
        if lo ≤ b1.toNat && b1.toNat ≤ hi && isContinuation b2 && isContinuation b3 then
          some (Char.ofNat ((n % 8) * 262144 + payload b1 * 4096 + payload b2 * 64 + payload b3), 4)
        else none
      | _ => none
    else none

/-- The characters of bytes, each with the bytes it was read from, reading at most `fuel`
characters. -/
def runesFrom : Nat → Bytes → List (Char × Bytes)
  | 0, _ => []
  | _, [] => []
  | fuel + 1, b :: rest =>
    match decodeFirst? (b :: rest) with
    | some (c, n) => (c, (b :: rest).take n) :: runesFrom fuel ((b :: rest).drop n)
    | none => ('�', [b]) :: runesFrom fuel rest

/-- The characters of bytes, each with the bytes it was read from, as a range loop over a
string reads them; every character takes a byte at least, so as many characters as there are
bytes is enough. -/
def runes (bs : Bytes) : List (Char × Bytes) := runesFrom bs.length bs

/-- The maximal runs of characters that are not blank, each as the bytes it was read from;
`cur` holds the bytes of the run that is open. -/
def fieldsFrom (cur : Bytes) : List (Char × Bytes) → List Bytes
  | [] => if cur.isEmpty then [] else [cur]
  | (c, bytes) :: rest =>
    if isBlank c then (if cur.isEmpty then [] else [cur]) ++ fieldsFrom [] rest
    else fieldsFrom (cur ++ bytes) rest

/-- The words of bytes: the maximal runs of characters that are not blank. -/
def fields (bs : Bytes) : List Bytes := fieldsFrom [] (runes bs)

/-- The bytes from offset `lo` up to offset `hi`, `s[lo:hi]`; `none` where the offsets fall out
of order or past the end, where the cut would fail. -/
def slice? (b : Bytes) (lo hi : Nat) : Option Bytes :=
  if lo ≤ hi ∧ hi ≤ b.length then some ((b.drop lo).take (hi - lo)) else none

/-- The pieces that bytes read as, in order: a character with its encoding, or a single byte
that begins no valid encoding. -/
def utf8Pieces : Nat → List UInt8 → List (Sum Char UInt8)
  | 0, _ => []
  | _, [] => []
  | fuel + 1, b :: rest =>
    match decodeFirst? (b :: rest) with
    | some (c, size) => .inl c :: utf8Pieces fuel ((b :: rest).drop size)
    | none => .inr b :: utf8Pieces fuel rest

/-- The text that bytes read as, each byte that begins no valid encoding read as U+FFFD. -/
def lossy (bytes : List UInt8) : String :=
  String.ofList ((utf8Pieces bytes.length bytes).map fun
    | .inl c => c
    | .inr _ => '�')

/-- Bytes in double quotes, each character escaped as `quote` escapes it and each byte that
begins no valid encoding written as `\xNN`. -/
def quoteBytes (bytes : List UInt8) : String :=
  String.ofList ('"' :: ((utf8Pieces bytes.length bytes).flatMap (fun
    | .inl c => quoteChar c
    | .inr b => '\\' :: 'x' :: hexDigits 2 b.toNat) ++ ['"']))

/-- Bytes cut at every occurrence of a separator byte: one piece more than there are
separators, empty pieces included. -/
def splitOnByte (sep : UInt8) : Bytes → List Bytes
  | [] => [[]]
  | b :: rest =>
    let pieces := splitOnByte sep rest
    if b == sep then [] :: pieces
    else
      match pieces with
      | p :: ps => (b :: p) :: ps
      | [] => [[b]]

example : splitOnByte 0x7C (utf8 "a|b||") = [utf8 "a", utf8 "b", [], []] := by decide +kernel

example : lossy [0xC3, 0xA9, 0x80] = "é�" := by decide +kernel
example : quoteBytes [0xC3, 0xA9, 0x80] = "\"é\\x80\"" := by decide +kernel
example : quoteBytes [0xED, 0xA0, 0x80] = "\"\\xed\\xa0\\x80\"" := by decide +kernel
example : lossy [0xF0, 0x9F, 0x98, 0x80] = "😀" := by decide +kernel

end SigmaQuery.Text
