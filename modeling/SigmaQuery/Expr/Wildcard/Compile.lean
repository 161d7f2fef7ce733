import SigmaQuery.Expr.Wildcard.Matcher
/-!
# Compiling wildcard patterns

A pattern's tree is compiled bottom up into a `Matcher`, by the rules the matcher module lists:

* `regroup` takes the nodes common to the start or the end of all alternatives of a choice out
  of it (`commonCounts` finds how many).
* `glue` turns a run of tests into a count of characters or a row, and `minimize` replaces the
  best such run of a sequence until none is left.
* `arrange` splits what remains at its widest test, and `simplify` turns splits around a text
  into the tests of leading, trailing or contained text.

Source: the compiler that `glob.Compile` of the gobwas/glob package runs after parsing, as
`Item.Glob` of `src/token.go:18–24` calls it.
-/

namespace SigmaQuery.Wildcard

/-- The bytes of the text of characters. -/
def utf8 (cs : List Char) : Bytes := (String.ofList cs).toUTF8.toList

/-- Simplifies a matcher at its top: a choice of one, a one-character set, and a split around
a text whose sides are missing, any-run tests, or a leading or trailing text. -/
def simplify : Matcher → Matcher
  | .either [m] => m
  | .oneOf [c] false => .text (utf8 [c])
  | .split v l r =>
    let l := match l with
      | some m => some (simplify m)
      | none => none
    let r := match r with
      | some m => some (simplify m)
      | none => none
    match v, l, r with
    | .text t, none, none => .text t
    | .text t, some .anything, some .anything => .containing t false
    | .text t, some .anything, none => .endsWith t
    | .text t, none, some .anything => .startsWith t
    | .text t, none, some (.endsWith u) => .startsEndsWith t u
    | .text t, some (.startsWith p), none => .startsEndsWith p t
    | _, _, _ => .split v l r
  | m => m

/-- What a test adds to a count of characters: whether it is an any-run test, and the set
outside which a one-character test looks (empty for `?`); `none` for other tests. -/
def countPart : Matcher → Option (Bool × List Char)
  | .anything => some (true, [])
  | .single => some (false, [])
  | .oneOf cs true => some (false, cs)
  | _ => none

/-- A run of any-run and one-character tests as a count of characters, when all of them look
outside the same set: any-run tests alone are one, with `n` one-character tests the count is
at least `n`, and without any-run tests exactly `n` characters, none of which may hold the
set as a text. -/
def glueAsCount (ms : List Matcher) : Option Matcher :=
  if ms.length ≤ 1 then none
  else
    match ms.mapM countPart with
    | none => none
    | some parts =>
      let set := (parts.head?.map (·.2)).getD []
      if !parts.all (·.2 == set) then none
      else
        let anyRun := parts.any (·.1)
        let n := (parts.filter fun p => !p.1).length
        if anyRun && n == 0 then some .anything
        else if anyRun && set.isEmpty then some (.atLeast n)
        else
          some (.every ((if n > 0 then .atLeast n :: (if anyRun then [] else [.atMost n]) else []) ++
            (if set.isEmpty then [] else [.containing (utf8 set) true])))

/-- A run of tests that all have a width as a row. -/
def glueAsRow (ms : List Matcher) : Option Matcher :=
  if ms.length ≤ 1 then none
  else (ms.mapM Matcher.width?).map fun ws => .row (ws.foldl (· + ·) 0) ms

/-- A run of tests as one test: a count of characters, else a row. -/
def glue (ms : List Matcher) : Option Matcher :=
  match glueAsCount ms with
  | some m => some m
  | none => glueAsRow ms

/-- The run of a sequence to glue, as the test and the bounds of the run. Runs are tried by
their start, and from each start the longest first; a later run replaces the one kept when
it is wider with both widths known, or when it is longer. -/
def bestRun (ms : List Matcher) : Option (Matcher × Nat × Nat) :=
  let runs := (List.range ms.length).flatMap fun l =>
    (List.range (ms.length - l)).map fun k => (l, ms.length - k)
  runs.foldl (fun best (l, r) =>
    match glue ((ms.drop l).take (r - l)) with
    | none => best
    | some g =>
      match best with
      | none => some (g, l, r)
      | some (done, l', r') =>
        let wider := match done.width?, g.width? with
          | some a, some b => a < b
          | _, _ => false
        if wider || r' - l' < r - l then some (g, l, r) else best) none

/-- Glues the best run of a sequence, again and again while that shortens it. -/
def minimize : Nat → List Matcher → List Matcher
  | 0, ms => ms
  | fuel + 1, ms =>
    match bestRun ms with
    | none => ms
    | some (g, l, r) =>
      let next := ms.take l ++ g :: ms.drop r
      if next.length == ms.length then next else minimize fuel next

/-- The position of the last of the widest tests with a width, from position `i` on. -/
def widest : Nat → Option (Nat × Nat) → List Matcher → Option (Nat × Nat)
  | _, best, [] => best
  | i, best, m :: ms =>
    match m.width?, best with
    | some w, none => widest (i + 1) (some (w, i)) ms
    | some w, some (b, j) => widest (i + 1) (if b ≤ w then some (w, i) else some (b, j)) ms
    | none, _ => widest (i + 1) best ms

/-- Compiles a sequence of tests: one test is itself, a run that glues is glued, and otherwise
the sequence is split at its widest test, or after its first test when none has a width. -/
def arrange : Nat → List Matcher → Matcher
  | 0, _ => .nothing
  | _ + 1, [] => .nothing
  | _ + 1, [m] => m
  | fuel + 1, m :: ms =>
    match glue (m :: ms) with
    | some g => g
    | none =>
      match widest 0 none (m :: ms) with
      | none => .split m none (some (arrange fuel ms))
      | some (_, i) =>
        match (m :: ms).drop i with
        | [] => .nothing
        | v :: right =>
          let left := (m :: ms).take i
          .split v (if left.isEmpty then none else some (arrange fuel left))
            (if right.isEmpty then none else some (arrange fuel right))

/-- The first position of the shortest of several lists of nodes. -/
def shortestIndex (itemss : List (List Node)) : Nat :=
  let best := itemss.zip (List.range itemss.length) |>.foldl (fun (best : Option (Nat × Nat)) (items, i) =>
    match best with
    | none => some (items.length, i)
    | some (len, j) => if items.length < len then some (items.length, i) else some (len, j)) none
  (best.map (·.2)).getD 0

/-- How many nodes of the shortest alternative `tree` (of `n` nodes) are common to the starts
and to the ends of all `others`. Both are counted at once, pairing the `i`-th node from the
start with the `i`-th from the end; the count from the end stops where it would reach a node
counted from the start, and neither goes past the length of `tree` together. -/
def commonCounts (tree : List Node) (others : List (List Node)) (n : Nat) :
    Nat → Nat → Bool → Bool → Nat → Nat → Nat × Nat
  | 0, _, _, _, lc, rc => (lc, rc)
  | fuel + 1, i, stopLeft, stopRight, lc, rc =>
    if !(lc + rc < n && i < n && !(stopLeft && stopRight)) then (lc, rc)
    else
      let j := n - 1 - i
      let treeLeft := tree.getD i .nothing
      let treeRight := tree.getD j .nothing
      let (stopLeft, stopRight) := others.foldl (fun (sl, sr) other =>
        if sl && sr then (sl, sr)
        else
          let sl := sl || !(treeLeft == other.getD i .nothing)
          let sr := sr || (!sl && j ≤ i)
          let sr := sr || !(treeRight == other.getD (j + other.length - n) .nothing)
          (sl, sr)) (stopLeft, stopRight)
      let lc := if stopLeft then lc else lc + 1
      let rc := if stopRight then rc else rc + 1
      commonCounts tree others n fuel (i + 1) stopLeft stopRight lc rc

/-- The items of a list of sequences, when all of its nodes are sequences. -/
def sequenceItems : List Node → Option (List (List Node))
  | [] => some []
  | .sequence items :: rest => (sequenceItems rest).map (items :: ·)
  | _ :: _ => none

/-- Adds a node to a list unless an equal node is in it already. -/
def addNew (acc : List Node) (n : Node) : List Node :=
  if acc.contains n then acc else acc ++ [n]

/-- Takes the nodes common to the starts and ends of all alternatives out of a choice: the
common start, a choice among what is left of each alternative (without repetitions; a single
empty rest is dropped), and the common end. `none` when nothing is common or when some
alternative is not a sequence. -/
def regroup (alternatives : List Node) : Option Node := do
  let itemss ← sequenceItems alternatives
  if itemss.length ≤ 1 then none
  let k := shortestIndex itemss
  let tree := itemss.getD k []
  let others := (itemss.zip (List.range itemss.length)).filterMap fun (items, i) =>
    if i == k then none else some items
  let (lc, rc) := commonCounts tree others tree.length tree.length 0 false false 0 0
  if lc == 0 && rc == 0 then none
  let rests := itemss.map fun items =>
    let rest := (items.drop lc).take (items.length - lc - rc)
    if rest.isEmpty then Node.nothing else .sequence rest
  let middle := match rests.foldl addNew [] with
    | [] => []
    | [n] => if n == .nothing then [] else [n]
    | ns => [.choice ns]
  pure (.sequence ((if lc == 0 then [] else [.sequence (tree.take lc)]) ++ middle ++
    (if rc == 0 then [] else [.sequence (tree.drop (tree.length - rc))])))

/-- Compiles a node of a pattern's tree. -/
def compileNode : Nat → Node → Matcher
  | 0, _ => .nothing
  | fuel + 1, .choice alternatives =>
    match regroup alternatives with
    | some n => compileNode fuel n
    | none => .either (alternatives.map fun a => simplify (compileNode fuel a))
  | _ + 1, .sequence [] => .nothing
  | fuel + 1, .sequence items =>
    let ms := items.map fun a => simplify (compileNode fuel a)
    simplify (arrange (ms.length + 1) (minimize ms.length ms))
  | _ + 1, .any | _ + 1, .super => .anything
  | _ + 1, .single => .single
  | _ + 1, .nothing => .nothing
  | _ + 1, .oneOf cs negated => simplify (.oneOf cs negated)
  | _ + 1, .inRange lo hi negated => .inRange lo hi negated
  | _ + 1, .text cs => .text (utf8 cs)

/-- Compiles a wildcard pattern, or gives the reason it cannot be read. -/
def compile (pattern : String) : Except String Matcher :=
  (Pattern.read pattern).map (compileNode (8 * pattern.length + 16))

/-- Whether a pattern, compiled, accepts a name; `false` for a pattern that cannot be read. -/
def patternSelects (pattern name : String) : Bool :=
  match compile pattern with
  | .ok m => m.selects name.toUTF8.toList
  | .error _ => false

example : patternSelects "?" "" = true := by decide +kernel
example : patternSelects "\x7ba,\x7d*" "" = false := by decide +kernel
example : patternSelects "*\x7ba,\x7dc" "c" = false := by decide +kernel
example : patternSelects "\x7b?,ab\x7da" "a" = true := by decide +kernel
example : patternSelects "sel*" "selection" = true := by decide +kernel

end SigmaQuery.Wildcard
