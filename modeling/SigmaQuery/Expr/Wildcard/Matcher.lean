import SigmaQuery.Expr.Wildcard
import SigmaQuery.Text.Utf8
/-!
# Wildcard matchers

The names a wildcard pattern selects, as the matcher `glob.Compile` builds for it in
`Item.Glob` of `src/token.go:18–24` decides them: texts, leading and trailing texts, single
characters, counts of characters, rows of tests of known width, and searches that place one
test inside a name and hand its left and right to two others. Compiling regroups choices around their common parts,
merges runs of single-character and any-run tests into counts and rows, and splits a sequence
at its widest test of known width; these rules, not the pattern read as a regular language,
decide a match. Names are UTF-8 bytes: positions are byte offsets, widths count characters,
and a byte that begins no valid encoding is one character U+FFFD.
-/

namespace SigmaQuery.Wildcard

/-- The UTF-8 bytes of a name or of a piece of one. -/
abbrev Bytes := List UInt8

/-- The character that bytes start with and the bytes it takes: a byte that begins no valid
encoding is U+FFFD of one byte, and no bytes at all are U+FFFD of none. -/
def firstChar (s : Bytes) : Char × Nat :=
  match s with
  | [] => ('�', 0)
  | _ => (Text.decodeFirst? s).getD ('�', 1)

/-- The characters of bytes from offset `i` on, each with the offset where it starts. -/
def charsFrom : Nat → Nat → Bytes → List (Nat × Char)
  | 0, _, _ => []
  | _, _, [] => []
  | fuel + 1, i, b :: rest =>
    let (c, w) := firstChar (b :: rest)
    (i, c) :: charsFrom fuel (i + w) ((b :: rest).drop w)

/-- The characters of bytes, each with the offset where it starts. -/
def chars (s : Bytes) : List (Nat × Char) := charsFrom s.length 0 s

/-- The number of characters of bytes. -/
def charCount (s : Bytes) : Nat := (chars s).length

/-- The offsets where the characters of bytes start, and the end. -/
def boundaries (s : Bytes) : List Nat := (chars s).map (·.1) ++ [s.length]

/-- The first offset, from `i` on, where `needle` occurs. -/
def indexFrom (needle : Bytes) : Nat → Bytes → Option Nat
  | i, [] => if needle.isEmpty then some i else none
  | i, b :: rest => if needle.isPrefixOf (b :: rest) then some i else indexFrom needle (i + 1) rest

/-- The first offset where `needle` occurs in `s`. -/
def indexOf (needle s : Bytes) : Option Nat := indexFrom needle 0 s

/-- The last offset where `needle` occurs in `s`. -/
def lastIndexOf (needle s : Bytes) : Option Nat :=
  ((List.range (s.length + 1)).filter fun i => needle.isPrefixOf (s.drop i)).getLast?

/-- The ends of the occurrences of a non-empty `needle` in `s`, found from the last one
backwards, each search stopping where the last occurrence found starts; in increasing order. -/
def occurrenceEnds (needle : Bytes) : Nat → Bytes → List Nat
  | 0, _ => []
  | fuel + 1, s =>
    match lastIndexOf needle s with
    | none => []
    | some j => occurrenceEnds needle fuel (s.take j) ++ [j + needle.length]

/-- Merges two increasing lists of offsets; an offset at the head of both is kept once. -/
def mergeOffsets : List Nat → List Nat → List Nat
  | [], ys => ys
  | xs, [] => xs
  | x :: xs, y :: ys =>
    if x == y then x :: mergeOffsets xs ys
    else if x < y then x :: mergeOffsets xs (y :: ys)
    else y :: mergeOffsets (x :: xs) ys

/-- A compiled wildcard pattern. -/
inductive Matcher where
  /-- Only the empty name. -/
  | nothing
  /-- Every name. -/
  | anything
  /-- A name of at most one character. -/
  | single
  /-- A name of at most one character, in a set or outside it when `negated`. -/
  | oneOf (cs : List Char) (negated : Bool)
  /-- A name of at most one character, in a range or outside it when `negated`. -/
  | inRange (lo hi : Char) (negated : Bool)
  /-- Exactly a text. -/
  | text (t : Bytes)
  /-- A name that starts with a text. -/
  | startsWith (t : Bytes)
  /-- A name that ends with a text. -/
  | endsWith (t : Bytes)
  /-- A name that starts with one text and ends with another; the two may overlap. -/
  | startsEndsWith (head tail : Bytes)
  /-- A name that holds a text, or does not when `negated`. -/
  | containing (t : Bytes) (negated : Bool)
  /-- A name of at least `n` characters, and of at least one. -/
  | atLeast (n : Nat)
  /-- A name of at most `n` characters. -/
  | atMost (n : Nat)
  /-- A name that every matcher accepts. -/
  | every (ms : List Matcher)
  /-- A name that some matcher accepts. -/
  | either (ms : List Matcher)
  /-- A name of `width` characters, cut into pieces for the matchers in turn. -/
  | row (width : Nat) (ms : List Matcher)
  /-- A name where `value` is found with a part that `left` accepts before it and a part
  that `right` accepts after it; a missing side accepts only the empty part. -/
  | split (value : Matcher) (left right : Option Matcher)
  deriving Repr, Inhabited

namespace Matcher

mutual

/-- The number of characters of every name a matcher accepts, where the matcher states one. -/
def width? : Matcher → Option Nat
  | .nothing => some 0
  | .single | .oneOf .. | .inRange .. => some 1
  | .text t => some (charCount t)
  | .row n _ => some n
  | .every ms => if ms.isEmpty then some 0 else none
  | .either ms => eitherWidth? none ms
  | .split v l r =>
    match v.width?, sideWidth? l, sideWidth? r with
    | some a, some b, some c => some (a + b + c)
    | _, _, _ => none
  | _ => none

/-- The width of a choice: the first width stated is kept, and an alternative without one
after it, or with another one, leaves the choice without a width. -/
def eitherWidth? : Option Nat → List Matcher → Option Nat
  | w, [] => w
  | none, m :: ms => eitherWidth? m.width? ms
  | some w, m :: ms =>
    match m.width? with
    | some w' => if w == w' then eitherWidth? (some w) ms else none
    | none => none

/-- The width of a side of a split: zero for a missing side. -/
def sideWidth? : Option Matcher → Option Nat
  | none => some 0
  | some m => m.width?

end

/-- The width of a side of a split as a number that is negative when there is none. -/
def sideExtent (m : Option Matcher) : Int :=
  match sideWidth? m with
  | some n => n
  | none => -1

/-- The offset up to which a row's test of width `n` looks in `s`: the start of the `n`-th
character, or of the last character when `s` has fewer or `n` is not positive; and the number
of characters counted. -/
def rowCut (n : Int) (s : Bytes) : Nat × Nat :=
  let cs := chars s
  match cs.drop (n.toNat - 1) with
  | (i, _) :: _ => if 0 < n then (i, n.toNat) else ((cs.getLast?.map (·.1)).getD 0, cs.length)
  | [] => ((cs.getLast?.map (·.1)).getD 0, cs.length)

/-- The search of a split: from `offset` on, `find` places the value inside the window that
ends at `limit`, the part before it goes to `leftOk`, and the parts after it, the longest
first, go to `rightOk`; on failure the search goes on one character after the place found. -/
def splitSearch (s : Bytes) (limit : Nat) (find : Bytes → Option (Nat × List Nat))
    (leftOk rightOk : Bytes → Bool) : Nat → Nat → Bool
  | 0, _ => false
  | fuel + 1, offset =>
    if offset < limit then
      match find ((s.take limit).drop offset) with
      | none => false
      | some (index, ends) =>
        let at_ := offset + index
        if leftOk (s.take at_) && ends.reverse.any (fun len => rightOk (s.drop (at_ + len))) then true
        else splitSearch s limit find leftOk rightOk fuel (at_ + (firstChar (s.drop at_)).2)
    else false

mutual

/-- Whether a matcher accepts the whole of `s`. -/
def accepts : Matcher → Bytes → Bool
  | .nothing, s => s.isEmpty
  | .anything, _ => true
  | .single, s => s.length ≤ (firstChar s).2
  | .oneOf cs negated, s =>
    let (c, w) := firstChar s
    s.length ≤ w && cs.contains c != negated
  | .inRange lo hi negated, s =>
    let (c, w) := firstChar s
    s.length ≤ w && (lo ≤ c && c ≤ hi) != negated
  | .text t, s => s == t
  | .startsWith t, s => t.isPrefixOf s
  | .endsWith t, s => t.isSuffixOf s
  | .startsEndsWith head tail, s => head.isPrefixOf s && tail.isSuffixOf s
  | .containing t negated, s => (indexOf t s).isSome != negated
  | .atLeast n, s => 0 < charCount s && n ≤ charCount s
  | .atMost n, s => charCount s ≤ n
  | .every ms, s => allAccept ms s
  | .either ms, s => someAccepts ms s
  | .row n ms, s => charCount s == n && rowAccepts ms s
  | .split v l r, s =>
    let total : Int :=
      match v.width?, sideWidth? l, sideWidth? r with
      | some a, some b, some c => a + b + c
      | _, _, _ => -1
    if total ≥ 0 && total > s.length then false
    else
      let offset := (sideExtent l).toNat
      let limit := if sideExtent r ≥ 0 then s.length - (sideExtent r).toNat else s.length
      splitSearch s limit (fun w => index v w) (fun p => sideAccepts l p)
        (fun p => sideAccepts r p) (s.length + 1) offset

/-- Whether every matcher of a list accepts `s`. -/
def allAccept : List Matcher → Bytes → Bool
  | [], _ => true
  | m :: ms, s => m.accepts s && allAccept ms s

/-- Whether some matcher of a list accepts `s`. -/
def someAccepts : List Matcher → Bytes → Bool
  | [], _ => false
  | m :: ms, s => m.accepts s || someAccepts ms s

/-- Whether a side of a split accepts `s`; a missing side accepts only the empty part. -/
def sideAccepts : Option Matcher → Bytes → Bool
  | none, s => s.isEmpty
  | some m, s => m.accepts s

/-- Whether the tests of a row accept `s` piece by piece. A test of width `n` takes the bytes
up to and including the first byte of the `n`-th character; a test that finds no byte left
to take fails. -/
def rowAccepts : List Matcher → Bytes → Bool
  | [], _ => true
  | m :: ms, s =>
    let n : Int := match m.width? with
      | some k => k
      | none => -1
    let (next, counted) := rowCut n s
    if (counted : Int) < n || next + 1 > s.length then false
    else m.accepts (s.take (next + 1)) && rowAccepts ms (s.drop (next + 1))

/-- Where a matcher first finds a match in `s`: the offset of its start and the lengths, in
bytes, that the match may have. A split finds nothing. -/
def index : Matcher → Bytes → Option (Nat × List Nat)
  | .nothing, _ => some (0, [0])
  | .anything, s => some (0, boundaries s)
  | .single, s => ((chars s).head?).map fun (i, c) => (i, [Text.byteWidth c])
  | .oneOf cs negated, s =>
    ((chars s).find? fun (_, c) => negated == !cs.contains c).map fun (i, c) =>
      (i, [Text.byteWidth c])
  | .inRange lo hi negated, s =>
    ((chars s).find? fun (_, c) => negated != (lo ≤ c && c ≤ hi)).map fun (i, c) =>
      (i, [Text.byteWidth c])
  | .text t, s => (indexOf t s).map fun i => (i, [t.length])
  | .startsWith t, s =>
    (indexOf t s).map fun i =>
      (i, t.length :: (chars (s.drop (i + t.length))).map fun (j, c) =>
        t.length + j + Text.byteWidth c)
  | .endsWith t, s => (indexOf t s).map fun i => (0, [i + t.length])
  | .startsEndsWith head tail, s =>
    match indexOf head s with
    | none => none
    | some i =>
      if tail.isEmpty then some (i, [s.length - i])
      else if s.length ≤ i then none
      else
        let ends := occurrenceEnds tail (s.length + 1) (s.drop i)
        if ends.isEmpty then none else some (i, ends)
  | .containing t negated, s =>
    if negated then
      let rest := match indexOf t s with
        | some i => s.take i
        | none => s
      some (0, boundaries rest)
    else
      match indexOf t s with
      | none => none
      | some i =>
        let offset := i + t.length
        if s.length ≤ offset then some (0, [offset])
        else some (0, (boundaries (s.drop offset)).map (offset + ·))
  | .atLeast n, s =>
    if s.length + 1 ≤ n then none
    else
      let ends := ((chars s).drop (n - 1)).map fun (i, c) => i + Text.byteWidth c
      if ends.isEmpty then none else some (0, ends)
  | .atMost n, s => some (0, 0 :: ((chars s).take n).map fun (i, c) => i + Text.byteWidth c)
  | .every ms, s => everyIndex ms s true 0 0 []
  | .either ms, s => eitherIndex ms s none []
  | .row n ms, s =>
    (((chars s).takeWhile fun (i, _) => n ≤ s.length - i).find? fun (i, _) =>
      rowAccepts ms (s.drop i)).map fun (i, _) => (i, [n])
  | .split .., _ => none

/-- Where all matchers of a list find a match together: each searches from the start of the
match before it, and only the lengths on which all agree are kept. -/
def everyIndex : List Matcher → Bytes → Bool → Nat → Nat → List Nat → Option (Nat × List Nat)
  | [], _, _, at_, _, current => some (at_, current)
  | m :: ms, s, first, at_, offset, current =>
    match m.index (s.drop at_) with
    | none => none
    | some (idx, lens) =>
      let next :=
        if first then lens
        else
          let delta : Int := (at_ : Int) - (idx + offset)
          current.flatMap fun (ex : Nat) => lens.filter fun (n : Nat) => (ex : Int) + delta == (n : Int)
      if !first && next.isEmpty then none
      else everyIndex ms s false (idx + offset) (offset + idx) next

/-- Where the first of several matchers finds a match: the least start, with the lengths of
all matchers that start there merged. -/
def eitherIndex : List Matcher → Bytes → Option Nat → List Nat → Option (Nat × List Nat)
  | [], _, best, lens => best.map fun i => (i, lens)
  | m :: ms, s, best, lens =>
    match m.index s, best with
    | none, _ => eitherIndex ms s best lens
    | some (idx, seg), none => eitherIndex ms s (some idx) seg
    | some (idx, seg), some b =>
      if idx < b then eitherIndex ms s (some idx) seg
      else if idx > b then eitherIndex ms s best lens
      else eitherIndex ms s best (mergeOffsets lens seg)

end

/-- Whether a matcher accepts a name, seen as its UTF-8 bytes. -/
def selects (m : Matcher) (name : Bytes) : Bool := m.accepts name

end Matcher

end SigmaQuery.Wildcard
