/-!
# Wildcard patterns

A condition names several detection entries at once with a wildcard pattern: `*` stands for
any run of characters (so does `**`), `?` for one character, `[abc]` and `[!abc]` for one
character of a set or outside it, `[a-z]` and `[!a-z]` for one character of a range or outside
it, and `{a,b}` for one of several patterns. A backslash makes the next character literal;
`]` and `}` are literal where nothing is open, and so is `,` outside braces.

Reading a pattern has two steps. `lexemes` cuts it into lexemes one item at a time; an item
that finds a fault (an unclosed range, a character that cannot be read) is dropped whole and
the fault stands in its place. `Pattern.read` then builds the tree of the pattern, refusing a
range whose ends are out of order or that is neither a set nor a range. A NUL character ends
an item as the end of the text does, and the reader goes on after it only inside literal
text. Which names a pattern selects is decided by the matcher it compiles to
(`Wildcard.Matcher`).

Source: the lexer and parser that `glob.Compile` of the gobwas/glob package runs, as
`Item.Glob` of `src/token.go:18–24` calls it.
-/

namespace SigmaQuery.Wildcard

/-- A lexeme of a wildcard pattern. -/
inductive Lexeme where
  /-- Literal text. -/
  | text (cs : List Char)
  /-- `*`. -/
  | any
  /-- `**`. -/
  | super
  /-- `?`. -/
  | single
  /-- `[`. -/
  | rangeOpen
  /-- `]`. -/
  | rangeClose
  /-- `!` after `[`. -/
  | negate
  /-- The low end of a range. -/
  | rangeLo (c : Char)
  /-- The `-` of a range. -/
  | rangeBetween
  /-- The high end of a range. -/
  | rangeHi (c : Char)
  /-- `{`. -/
  | termsOpen
  /-- `,` inside braces. -/
  | separator
  /-- `}` inside braces. -/
  | termsClose
  /-- The end of the pattern. -/
  | eof
  deriving Repr, DecidableEq, Inhabited

/-- The reader of a pattern: what is left, the last fault, the last character read (NUL at the
end), the character that read consumed, and whether that character was given back. -/
structure Reader where
  rest : List Char
  fault : Option String := none
  last : Char := '\x00'
  taken : Option Char := none
  back : Bool := false
  deriving Inhabited

namespace Reader

/-- The character that cannot be read: the replacement character. -/
def unreadable : Char := Char.ofNat 0xFFFD

/-- Looks at the next character without taking it; NUL at the end. -/
def peek (r : Reader) : Char × Reader :=
  match r.rest with
  | [] => ('\x00', r)
  | c :: _ => if c == unreadable then ('\x00', { r with fault := some "could not read rune" }) else (c, r)

/-- Takes the next character; NUL at the end. A character given back is taken again. -/
def read (r : Reader) : Char × Reader :=
  if r.back then
    (r.last, { r with back := false, rest := if r.taken.isSome then r.rest.drop 1 else r.rest })
  else
    match r.rest with
    | [] => ('\x00', { r with last := '\x00', taken := none })
    | c :: t =>
      if c == unreadable then
        ('\x00', { r with fault := some "could not read rune", last := '\x00', taken := none })
      else (c, { r with rest := t, last := c, taken := some c })

/-- Gives back the last character read; only one character can be given back. -/
def unread (r : Reader) : Reader :=
  if r.back then { r with fault := some "could not unread rune" }
  else { r with back := true, rest := r.taken.toList ++ r.rest }

/-- Records a fault; a later fault replaces an earlier one. -/
def fail (msg : String) (r : Reader) : Reader := { r with fault := some msg }

end Reader

/-- The characters that end literal text outside braces. -/
def textBreakers : List Char := ['?', '*', '[', '{']

/-- The characters that end literal text inside braces. -/
def termsBreakers : List Char := textBreakers ++ ['}', ',']

/-- Reads literal text up to a breaker or the end; a backslash makes the next character
literal. Gives the text read, which may be empty. -/
def readText (breakers : List Char) : Nat → Bool → List Char → Reader → List Char × Reader
  | 0, _, acc, r => (acc.reverse, r)
  | fuel + 1, escaped, acc, r =>
    let (c, r) := r.read
    if c == '\x00' then (acc.reverse, r)
    else if !escaped && c == '\\' then readText breakers fuel true acc r
    else if !escaped && breakers.contains c then (acc.reverse, r.unread)
    else readText breakers fuel false (c :: acc) r

/-- The lexeme of literal text, if there is any. -/
def textLexeme (cs : List Char) : List Lexeme :=
  if cs.isEmpty then [] else [.text cs]

/-- Reads the inside of a range after its `[`, up to and with its `]`. -/
def readRange : Nat → (wantHi wantClose seenNot : Bool) → List Lexeme → Reader →
    List Lexeme × Reader
  | 0, _, _, _, acc, r => (acc.reverse, r)
  | fuel + 1, wantHi, wantClose, seenNot, acc, r =>
    let (c, r) := r.read
    if c == '\x00' then (acc.reverse, r.fail "unexpected end of input")
    else if wantClose then
      if c != ']' then (acc.reverse, r.fail "expected close range character")
      else ((Lexeme.rangeClose :: acc).reverse, r)
    else if wantHi then readRange fuel false true seenNot (.rangeHi c :: acc) r
    else if !seenNot && c == '!' then readRange fuel false false true (.negate :: acc) r
    else
      let (n, r) := r.peek
      if n == '-' then
        readRange fuel true false seenNot (.rangeBetween :: .rangeLo c :: acc)
          { r with rest := r.rest.drop 1 }
      else
        let (cs, r) := readText [']'] (r.rest.length + 2) false [] r.unread
        readRange fuel false true seenNot ((textLexeme cs).reverse ++ acc) r

/-- Reads one item: the lexemes it gives, the reader after it and the new depth of braces. -/
def readItem (depth : Nat) (r : Reader) : List Lexeme × Reader × Nat :=
  let fuel := r.rest.length + 2
  let (c, r) := r.read
  if c == '\x00' then ([.eof], r, depth)
  else if c == '{' then ([.termsOpen], r, depth + 1)
  else if c == ',' && depth > 0 then ([.separator], r, depth)
  else if c == '}' && depth > 0 then ([.termsClose], r, depth - 1)
  else if c == '[' then
    let (ls, r) := readRange fuel false false false [] r
    (.rangeOpen :: ls, r, depth)
  else if c == '?' then ([.single], r, depth)
  else if c == '*' then
    let (c2, r) := r.read
    if c2 == '*' then ([.super], r, depth) else ([.any], r.unread, depth)
  else
    let (cs, r) := readText (if depth > 0 then termsBreakers else textBreakers) fuel false [] r.unread
    (textLexeme cs, r, depth)

/-- Reads items up to the end of the pattern. An item that records a fault is dropped and
the fault ends the lexemes. -/
def lexemesFrom : Nat → Nat → Reader → List Lexeme × Option String
  | 0, _, _ => ([.eof], none)
  | fuel + 1, depth, r =>
    let (ls, r, depth) := readItem depth r
    match r.fault with
    | some msg => ([], some msg)
    | none =>
      if ls.contains .eof then (ls, none)
      else
        let (more, fault) := lexemesFrom fuel depth r
        (ls ++ more, fault)

/-- The lexemes of a pattern, and the fault that ends them early, if any. -/
def lexemes (pattern : String) : List Lexeme × Option String :=
  lexemesFrom (pattern.length + 2) 0 { rest := pattern.toList }

/-- A node of the tree of a wildcard pattern. A pattern reads as a `sequence`, and so does each
alternative of a `choice`. -/
inductive Node where
  /-- Literal text. -/
  | text (cs : List Char)
  /-- `*`: any run of characters. -/
  | any
  /-- `**`: any run of characters. -/
  | super
  /-- `?`: one character. -/
  | single
  /-- One character of a set, or outside it when `negated`. -/
  | oneOf (cs : List Char) (negated : Bool)
  /-- One character of a range, or outside it when `negated`. -/
  | inRange (lo hi : Char) (negated : Bool)
  /-- One of several alternatives. -/
  | choice (alternatives : List Node)
  /-- Nodes in a row. -/
  | sequence (items : List Node)
  /-- Only the empty text: an alternative that is left empty when the parts common to all
  alternatives are taken out. -/
  | nothing
  deriving Repr, Inhabited

mutual

/-- Whether two nodes are the same: of one kind, with equal fields and equal children. -/
def Node.same : Node → Node → Bool
  | .text a, .text b => a == b
  | .any, .any | .super, .super | .single, .single | .nothing, .nothing => true
  | .oneOf a m, .oneOf b n => a == b && m == n
  | .inRange a b m, .inRange c d n => a == c && b == d && m == n
  | .choice as, .choice bs => Node.sameAll as bs
  | .sequence as, .sequence bs => Node.sameAll as bs
  | _, _ => false

/-- Whether two lists of nodes are the same, node by node. -/
def Node.sameAll : List Node → List Node → Bool
  | [], [] => true
  | a :: as, b :: bs => a.same b && Node.sameAll as bs
  | _, _ => false

end

instance : BEq Node := ⟨Node.same⟩

/-- What the reader of nodes has open: for each open `{`, the nodes before it and the
alternatives finished inside it. -/
structure Frame where
  before : List Node
  alternatives : List (List Node)

/-- The choice among finished alternatives, the last one given last first. -/
def closeChoice (f : Frame) (cur : List Node) : Node :=
  .choice ((f.alternatives.reverse ++ [cur.reverse]).map .sequence)

/-- Closes every open brace, innermost first, around the nodes read last. -/
def closeAll : List Frame → List Node → List Node
  | [], cur => cur
  | f :: fs, cur => closeAll fs (closeChoice f cur :: f.before)

/-- The fields of a range as read so far. -/
structure RangeParts where
  negated : Bool := false
  lo : Char := '\x00'
  hi : Char := '\x00'
  chars : List Char := []

/-- Reads the lexemes of a range after its `[` into a node. -/
def rangeNode : RangeParts → List Lexeme → Option String →
    Except String (Node × List Lexeme)
  | _, [], fault => .error (fault.getD "unexpected end")
  | p, l :: rest, fault =>
    match l with
    | .eof => .error "unexpected end"
    | .negate => rangeNode { p with negated := true } rest fault
    | .rangeLo c => rangeNode { p with lo := c } rest fault
    | .rangeHi c =>
      if c < p.lo then
        .error ("hi character '" ++ c.toString ++ "' should be greater than lo '" ++
          p.lo.toString ++ "'")
      else rangeNode { p with hi := c } rest fault
    | .text cs => rangeNode { p with chars := cs } rest fault
    | .rangeClose =>
      let isRange := p.lo != '\x00' && p.hi != '\x00'
      let isChars := !p.chars.isEmpty
      if isChars == isRange then .error "could not parse range"
      else if isRange then .ok (.inRange p.lo p.hi p.negated, rest)
      else .ok (.oneOf p.chars p.negated, rest)
    | _ => rangeNode p rest fault

/-- Builds the nodes from lexemes; `cur` holds the nodes of the innermost open sequence, last
first. -/
def build (fault : Option String) : Nat → List Frame → List Node → List Lexeme →
    Except String Node
  | 0, frames, cur, _ => .ok (.sequence (closeAll frames cur).reverse)
  | _ + 1, _, _, [] =>
    match fault with
    | some msg => .error msg
    | none => .error "unexpected end"
  | fuel + 1, frames, cur, l :: rest =>
    match l with
    | .eof => .ok (.sequence (closeAll frames cur).reverse)
    | .text cs => build fault fuel frames (.text cs :: cur) rest
    | .any => build fault fuel frames (.any :: cur) rest
    | .super => build fault fuel frames (.super :: cur) rest
    | .single => build fault fuel frames (.single :: cur) rest
    | .rangeOpen => do
      let (p, rest) ← rangeNode {} rest fault
      build fault fuel frames (p :: cur) rest
    | .termsOpen => build fault fuel (⟨cur, []⟩ :: frames) [] rest
    | .separator =>
      match frames with
      | f :: fs => build fault fuel ({ f with alternatives := cur.reverse :: f.alternatives } :: fs) [] rest
      | [] => build fault fuel [] cur rest
    | .termsClose =>
      match frames with
      | f :: fs => build fault fuel fs (closeChoice f cur :: f.before) rest
      | [] => build fault fuel [] cur rest
    | _ => .error "unexpected token"

namespace Pattern

/-- Reads a wildcard pattern into its tree, or gives the reason it cannot be read. -/
def read (pattern : String) : Except String Node :=
  let (ls, fault) := lexemes pattern
  build fault (ls.length + 1) [] [] ls

end Pattern

example : (match Pattern.read "s?l\x7b1,2\x7d" with
    | .ok n => n == .sequence [.text ['s'], .single, .text ['l'],
        .choice [.sequence [.text ['1']], .sequence [.text ['2']]]]
    | .error _ => false) = true := by decide +kernel
example : (match Pattern.read "[a-" with | .error e => e | .ok _ => "") =
    "unexpected end of input" := by decide +kernel
example : (match Pattern.read "[z-a]" with | .error e => e | .ok _ => "") =
    "hi character 'a' should be greater than lo 'z'" := by decide +kernel

end SigmaQuery.Wildcard
