import SigmaQuery.Text.Utf8

/-!
# The characters of a YAML stream

A YAML reader sees its input as a sequence of characters read in blocks of 512 bytes, with
an endless run of NUL characters after the last one. A block is checked as a whole when the
reader first needs one of its characters: a character outside the printable set of YAML
(tab, line feed, carriage return, the visible ASCII range, NEL and the non-surrogate,
non-special planes) makes the read fail. `Source.readLimit` is the first character that can
no longer be read because its block, or an earlier one, holds such a character.

A byte-order mark at the very start is not part of the characters. Positions (`Mark`) count
characters, and lines and columns from zero.

Source: the reader of the yaml.v2 and yaml.v3 packages, as `yaml.Unmarshal` in
`src/tree.go:229` and `yaml.NewDecoder` in `src/placeholders.go:48` run it.
-/

namespace SigmaQuery.Yaml

/-- A position in a stream: the number of characters before it, and its line and column. -/
structure Mark where
  /-- Characters before the position. -/
  index : Nat := 0
  /-- Line of the position, from zero. -/
  line : Nat := 0
  /-- Column of the position, from zero. -/
  column : Nat := 0
  deriving Repr, Inhabited, DecidableEq

/-- Characters a YAML stream may hold. -/
def allowedChar (c : Char) : Bool :=
  let n := c.toNat
  n == 0x09 || n == 0x0A || n == 0x0D || (0x20 ≤ n && n ≤ 0x7E) || n == 0x85 ||
    (0xA0 ≤ n && n ≤ 0xD7FF) || (0xE000 ≤ n && n ≤ 0xFFFD) || (0x10000 ≤ n && n ≤ 0x10FFFF)

/-- A space or a tab. -/
def isBlank (c : Char) : Bool := c == ' ' || c == '\t'

/-- A line break: carriage return, line feed, NEL, line or paragraph separator. -/
def isBreak (c : Char) : Bool :=
  c == '\r' || c == '\n' || c.toNat == 0x85 || c.toNat == 0x2028 || c.toNat == 0x2029

/-- A line break or the end of the stream. -/
def isBreakz (c : Char) : Bool := isBreak c || c == '\x00'

/-- A blank, a line break or the end of the stream. -/
def isBlankz (c : Char) : Bool := isBlank c || isBreakz c

/-- A character of an anchor name or tag handle: ASCII letters, digits, `_` and `-`. -/
def isWordChar (c : Char) : Bool :=
  c.isAlphanum || c == '_' || c == '-'

/-- The value of a hexadecimal digit. -/
def hexValue? (c : Char) : Option Nat :=
  if '0' ≤ c && c ≤ '9' then some (c.toNat - '0'.toNat)
  else if 'a' ≤ c && c ≤ 'f' then some (c.toNat - 'a'.toNat + 10)
  else if 'A' ≤ c && c ≤ 'F' then some (c.toNat - 'A'.toNat + 10)
  else none

/-- The rules in which YAML readers differ. Rules are read as YAML 1.1; configuration files are
read as YAML 1.2, whose reader also scans two tokens past the one it hands on, so that a
fault just after the end of a document refuses the document. -/
structure Dialect where
  /-- Whether a tag inside a flow collection may end at a comma. -/
  commaEndsTag : Bool := false
  /-- Whether a tab that does not start a line separates tokens as a space does. -/
  tabSeparates : Bool := false
  /-- How many tokens are scanned past the one handed on. -/
  lookahead : Nat := 0
  deriving Repr, Inhabited, DecidableEq

namespace Dialect

/-- The rules of YAML 1.1. -/
def yaml11 : Dialect := {}

/-- The rules of YAML 1.2. -/
def yaml12 : Dialect := { commaEndsTag := true, tabSeparates := true, lookahead := 2 }

end Dialect

/-- The characters of a stream and the first position that cannot be read. -/
structure Source where
  /-- The characters, without a leading byte-order mark. -/
  chars : Array Char
  /-- The first character whose block cannot be read, if any. -/
  readLimit : Option Nat
  deriving Inhabited

namespace Source

/-- Block size of the reader, in bytes. -/
def blockSize : Nat := 512

/-- The characters after a leading byte-order mark is dropped, and the bytes it took. -/
def dropMark (cs : List Char) : List Char × Nat :=
  match cs with
  | c :: rest => if c.toNat == 0xFEFF then (rest, 3) else (cs, 0)
  | [] => ([], 0)

/-- Counts, from `count` on, the characters that end at or before byte `bound`, given the
byte offset `offset` where `cs` starts. -/
def countWithin (bound : Nat) : List Char → Nat → Nat → Nat
  | [], _, count => count
  | c :: rest, offset, count =>
    let stop := offset + Text.byteWidth c
    if stop ≤ bound then countWithin bound rest stop (count + 1) else count

/-- The byte offset where the first character that is not allowed ends. -/
def badEnd? : List Char → Nat → Option Nat
  | [], _ => none
  | c :: rest, offset =>
    let stop := offset + Text.byteWidth c
    if allowedChar c then badEnd? rest stop else some stop

/-- Reads a text as a stream. -/
def ofString (s : String) : Source :=
  let (cs, skipped) := dropMark s.toList
  let limit := (badEnd? cs skipped).map fun stop =>
    let block := (stop + blockSize - 1) / blockSize
    countWithin (blockSize * (block - 1)) cs skipped 0
  { chars := cs.toArray, readLimit := limit }

/-- The character at a position; NUL past the end. -/
def get (src : Source) (i : Nat) : Char := src.chars.getD i '\x00'

example : (ofString "a\x01").readLimit = some 0 := by decide +kernel
example : (ofString "ab").readLimit = none := by decide +kernel

end Source

end SigmaQuery.Yaml
