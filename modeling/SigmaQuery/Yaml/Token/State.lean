import SigmaQuery.Yaml.Error
import SigmaQuery.Yaml.Token

/-!
# The state of the YAML scanner

The scanner walks the characters of a stream once. Beside the position it keeps the tokens
that are scanned but not yet handed on, the indentation levels of the open block
collections, the depth of flow collections, and one possible simple key per flow level: the
place where a key may have started, which becomes a key token when a `:` follows on the same
line within 1024 characters.

This module holds that state and the small steps every scanning rule is built from: reading
and skipping characters, asking the reader for more, queueing tokens, and keeping simple keys
and indentation levels.

Source: the scanner state of the yaml.v2 and yaml.v3 packages.
-/

namespace SigmaQuery.Yaml

/-- A place where a simple key may start. -/
structure SimpleKey where
  /-- Whether a key may still start here. -/
  possible : Bool := false
  /-- Whether the indentation demands that a key starts here. -/
  required : Bool := false
  /-- The number of the token the key would stand before. -/
  tokenNumber : Nat := 0
  /-- Where the key would start. -/
  mark : Mark := {}
  deriving Repr, Inhabited

/-- The state of the scanner. -/
structure Scanner where
  /-- The characters of the stream. -/
  src : Source
  /-- The current position. -/
  mark : Mark := {}
  /-- Tokens scanned but not yet handed on, oldest first. -/
  queue : List Token := []
  /-- Tokens handed on so far. -/
  delivered : Nat := 0
  /-- Whether the stream start token was produced. -/
  started : Bool := false
  /-- Column of the innermost block collection, `-1` outside all. -/
  indent : Int := -1
  /-- Columns of the enclosing block collections, innermost first. -/
  indents : List Int := []
  /-- One possible simple key per flow level, the innermost last. -/
  keys : Array SimpleKey := #[]
  /-- Which simple key, by its place in `keys`, belongs to a token number. -/
  keyOfToken : List (Nat × Nat) := []
  /-- Depth of flow collections. -/
  flowLevel : Nat := 0
  /-- Whether a simple key may start at the current position. -/
  keyAllowed : Bool := false
  /-- The rules the stream is read by. -/
  dialect : Dialect := {}
  deriving Inhabited

/-- Scanning steps: they change the scanner or refuse the stream. -/
abbrev ScanM := StateT Scanner (Except YamlError)

namespace Scanner

/-- The deepest nesting of flow or block collections the scanner accepts. -/
def maxDepth : Nat := 10000

/-- The character `k` places ahead of the current one. -/
def peekAt (k : Nat) : ScanM Char := do
  let s ← get
  pure (s.src.get (s.mark.index + k))

/-- The current character. -/
def cur : ScanM Char := peekAt 0

/-- Makes sure that `n` characters from the current one can be read. -/
def need (n : Nat) : ScanM Unit := do
  let s ← get
  match s.src.readLimit with
  | some limit =>
    if s.mark.index + n > limit then throw (.reader "control characters are not allowed")
  | none => pure ()

/-- Refuses the stream at the current position. -/
def fail {α : Type} (problem : String) (context : Mark) : ScanM α := do
  let s ← get
  throw (.scanner problem s.mark context)

/-- Moves past one character of the current line. -/
def skip : ScanM Unit :=
  modify fun s => { s with mark := { s.mark with index := s.mark.index + 1,
                                                 column := s.mark.column + 1 } }

/-- Moves past a line break of `width` characters. -/
def advanceLine (width : Nat) : ScanM Unit :=
  modify fun s => { s with mark := { index := s.mark.index + width, line := s.mark.line + 1,
                                     column := 0 } }

/-- Moves past a line break, if the current character starts one. -/
def skipLine : ScanM Unit := do
  let c ← cur
  let d ← peekAt 1
  if c == '\r' && d == '\n' then advanceLine 2
  else if isBreak c then advanceLine 1

/-- Appends the current character to `acc` and moves past it. -/
def readChar (acc : String) : ScanM String := do
  let c ← cur
  skip
  pure (acc.push c)

/-- Appends a line break to `acc` and moves past it: CR LF, CR, LF and NEL become LF;
the line and paragraph separators are kept. Anything else is left alone. -/
def readLine (acc : String) : ScanM String := do
  let c ← cur
  let d ← peekAt 1
  if c == '\r' && d == '\n' then
    advanceLine 2
    pure (acc.push '\n')
  else if c == '\r' || c == '\n' || c.toNat == 0x85 then
    advanceLine 1
    pure (acc.push '\n')
  else if c.toNat == 0x2028 || c.toNat == 0x2029 then
    advanceLine 1
    pure (acc.push c)
  else pure acc

/-- Appends a token to the queue. -/
def append (t : Token) : ScanM Unit :=
  modify fun s => { s with queue := s.queue ++ [t] }

/-- Inserts a token at a place of the queue. -/
def insert (pos : Nat) (t : Token) : ScanM Unit :=
  modify fun s => { s with queue := s.queue.insertIdx pos t }

/-- The number the next scanned token will have. -/
def nextNumber (s : Scanner) : Nat := s.delivered + s.queue.length

/-- The simple key of the innermost flow level. -/
def topKey (s : Scanner) : SimpleKey := s.keys.back?.getD {}

/-- Forgets which simple key belongs to a token number. -/
def forgetToken (n : Nat) (table : List (Nat × Nat)) : List (Nat × Nat) :=
  table.filter (·.1 != n)

/-- Drops the possible simple key of the innermost flow level; refuses the stream if the
key was required. -/
def removeKey : ScanM Unit := do
  let s ← get
  let k := topKey s
  if k.possible then
    if k.required then fail "could not find expected ':'" k.mark
    set { s with keys := s.keys.pop.push { k with possible := false },
                 keyOfToken := forgetToken k.tokenNumber s.keyOfToken }

/-- Records that a simple key may start at the current position, if one may. -/
def saveKey : ScanM Unit := do
  let s ← get
  if s.keyAllowed then
    let required := s.flowLevel == 0 && s.indent == (s.mark.column : Int)
    let key : SimpleKey :=
      { possible := true, required, tokenNumber := nextNumber s, mark := s.mark }
    removeKey
    modify fun s => { s with keys := s.keys.pop.push key,
                             keyOfToken := (key.tokenNumber, s.keys.size - 1) ::
                               forgetToken key.tokenNumber s.keyOfToken }

/-- Whether the simple key at place `i` can still start a key: it must be on the current
line and at most 1024 characters back. A key that can no longer start is dropped, and the
stream is refused if it was required. -/
def keyValid (i : Nat) : ScanM Bool := do
  let s ← get
  match s.keys[i]? with
  | none => pure false
  | some k =>
    if !k.possible then pure false
    else if k.mark.line < s.mark.line || k.mark.index + 1024 < s.mark.index then
      if k.required then fail "could not find expected ':'" k.mark
      set { s with keys := s.keys.modify i fun k => { k with possible := false } }
      pure false
    else pure true

/-- Enters a flow collection. -/
def increaseFlow : ScanM Unit := do
  let s ← get
  let key : SimpleKey := { mark := s.mark }
  set { s with keys := s.keys.push key, flowLevel := s.flowLevel + 1 }
  if s.flowLevel + 1 > maxDepth then
    fail ("exceeded max depth of " ++ toString maxDepth) key.mark

/-- Leaves a flow collection. -/
def decreaseFlow : ScanM Unit :=
  modify fun s =>
    if s.flowLevel > 0 then
      { s with flowLevel := s.flowLevel - 1, keys := s.keys.pop,
               keyOfToken := forgetToken (topKey s).tokenNumber s.keyOfToken }
    else s

/-- Opens a block collection at `column` if it is deeper than the current one, with a start
token of kind `kind` placed before token `number`, or at the end of the queue. -/
def rollIndent (column : Int) (number : Option Nat) (kind : TokenKind) (mark : Mark) :
    ScanM Unit := do
  let s ← get
  if s.flowLevel == 0 && s.indent < column then
    set { s with indents := s.indent :: s.indents, indent := column }
    if s.indents.length + 1 > maxDepth then
      fail ("exceeded max depth of " ++ toString maxDepth) (topKey s).mark
    let t : Token := { kind, start := mark, stop := mark }
    match number with
    | some n => insert (n - s.delivered) t
    | none => append t

/-- Closes the block collections deeper than `column`, one block end token each. -/
def closeBlocks (column : Int) (here : Mark) : Int → List Int → List Token → Int × List Int × List Token
  | indent, i :: rest, acc =>
    if indent > column then closeBlocks column here i rest (acc ++ [{ kind := .blockEnd, start := here, stop := here }])
    else (indent, i :: rest, acc)
  | indent, [], acc => (indent, [], acc)

/-- Closes the block collections deeper than `column`. -/
def unrollIndent (column : Int) : ScanM Unit :=
  modify fun s =>
    if s.flowLevel == 0 then
      let (indent, indents, queue) := closeBlocks column s.mark s.indent s.indents s.queue
      { s with indent, indents, queue }
    else s

end Scanner

end SigmaQuery.Yaml
