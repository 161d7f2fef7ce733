/-!
# Edit distance

The edit distance of two byte strings is the least number of byte insertions, deletions and
replacements that turn one into the other. It is computed row by row: the row for a prefix
of the first string holds, for each prefix of the second, the distance between the two.

Source: the edit distance by which the cobra package suggests commands for a mistyped one
below `rootCmd` of `src/cmd/root.go:21–29`.
-/

namespace SigmaQuery.Text

namespace EditDistance

/-- The rest of a row of the distance table for the next byte `c` of the first string, from
the bytes of the second string still to be met, the matching part of the row above (starting
one column to the left) and the entry just to the left. -/
def rowFrom (c : UInt8) : List UInt8 → List Nat → Nat → List Nat
  | b :: bs, diag :: up :: above, left =>
    let here := if c == b then diag else min (min up left) diag + 1
    here :: rowFrom c bs (up :: above) here
  | _, _, _ => []

/-- The row of the distance table after the row `above`, for the `i`-th byte `c` of the first
string. -/
def row (t : List UInt8) (above : List Nat) (c : UInt8) (i : Nat) : List Nat :=
  i :: rowFrom c t above i

/-- The last row of the distance table, from the row `above` on. -/
def lastRow (t : List UInt8) : List UInt8 → List Nat → Nat → List Nat
  | [], above, _ => above
  | c :: cs, above, i => lastRow t cs (row t above c (i + 1)) (i + 1)

end EditDistance

/-- The edit distance of two byte strings. -/
def editDistance (s t : List UInt8) : Nat :=
  ((EditDistance.lastRow t s (List.range (t.length + 1)) 0).getLast?).getD 0

example : editDistance "kitten".toUTF8.toList "sitting".toUTF8.toList = 3 := by decide +kernel
example : editDistance [] "abc".toUTF8.toList = 3 := by decide +kernel

end SigmaQuery.Text
