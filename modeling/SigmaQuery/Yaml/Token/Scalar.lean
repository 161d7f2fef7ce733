import SigmaQuery.Yaml.Token.State

/-!
# Scanning scalars and node properties

The rules that read the text of one token: plain scalars, single- and double-quoted scalars,
literal and folded block scalars, anchors and aliases, tags, and directives.

Scalars that run over several lines are folded: a single line break between two pieces of
text becomes a space, a run of line breaks keeps all but the first, and blanks around breaks
are dropped. Each rule stops at the first character that cannot continue its token.

Source: the scalar rules of the scanner of the yaml.v2 and yaml.v3 packages.
-/

namespace SigmaQuery.Yaml

namespace Scanner

/-- The characters left to scan, plus two: enough steps for any loop over them. -/
def budget : ScanM Nat := do
  let s ← get
  pure (s.src.chars.size - s.mark.index + 2)

/-- The current column. -/
def column : ScanM Nat := do
  let s ← get
  pure s.mark.column

/-- The current position. -/
def here : ScanM Mark := do
  let s ← get
  pure s.mark

/-- Whether a document marker `---` or `...` followed by a blank stands at the current
position, at the start of a line. -/
def atDocumentMarker : ScanM Bool := do
  let col ← column
  let c0 ← peekAt 0
  let c1 ← peekAt 1
  let c2 ← peekAt 2
  let c3 ← peekAt 3
  pure (col == 0 && ((c0 == '-' && c1 == '-' && c2 == '-') || (c0 == '.' && c1 == '.' && c2 == '.'))
    && isBlankz c3)

/-- Text of a scalar being folded: the content so far, and the blanks and breaks seen since
its last piece of text. -/
structure Folding where
  content : String := ""
  leadingBreak : String := ""
  trailingBreaks : String := ""
  whitespaces : String := ""
  leadingBlanks : Bool := false
  deriving Inhabited

/-- Adds the blanks or breaks seen since the last piece of text: one break becomes a
space, more breaks stay as they are after the first, blanks stay as they are. -/
def Folding.join (f : Folding) : Folding :=
  if f.leadingBlanks then
    let content :=
      if f.leadingBreak.startsWith "\n" then
        if f.trailingBreaks.isEmpty then f.content.push ' ' else f.content ++ f.trailingBreaks
      else f.content ++ f.leadingBreak ++ f.trailingBreaks
    { f with content, leadingBreak := "", trailingBreaks := "", leadingBlanks := false }
  else
    { f with content := f.content ++ f.whitespaces, whitespaces := "" }

/-- Consumes blanks and line breaks after a piece of a scalar. A tab that stands in the
indentation of a plain scalar is refused when `tabCheck` gives the indentation. -/
def foldBlanks (tabCheck : Option (Int × Mark)) : Nat → Folding → ScanM Folding
  | 0, f => pure f
  | fuel + 1, f => do
    let c ← cur
    if isBlank c then
      if let some (indent, start) := tabCheck then
        let col ← column
        if f.leadingBlanks && (col : Int) < indent && c == '\t' then
          fail "found a tab character that violates indentation" start
      let f ← if !f.leadingBlanks then do
          let w ← readChar f.whitespaces
          pure { f with whitespaces := w }
        else do
          skip
          pure f
      need 1
      foldBlanks tabCheck fuel f
    else if isBreak c then
      need 2
      let f ← if !f.leadingBlanks then do
          let b ← readLine ""
          pure { f with whitespaces := "", leadingBreak := b, leadingBlanks := true }
        else do
          let b ← readLine f.trailingBreaks
          pure { f with trailingBreaks := b }
      need 1
      foldBlanks tabCheck fuel f
    else pure f

/-- Consumes the characters of one piece of a plain scalar, up to a blank, a `: ` or, in a
flow collection, a flow indicator. Returns the text and where the last character ends. -/
def plainPiece : Nat → Folding → Mark → ScanM (Folding × Mark)
  | 0, f, stop => pure (f, stop)
  | fuel + 1, f, stop => do
    let c ← cur
    if isBlankz c then return (f, stop)
    let d ← peekAt 1
    let s ← get
    if (c == ':' && isBlankz d) || (s.flowLevel > 0 &&
        (c == ',' || c == '?' || c == '[' || c == ']' || c == '{' || c == '}')) then
      return (f, stop)
    let f := if f.leadingBlanks || !f.whitespaces.isEmpty then f.join else f
    let content ← readChar f.content
    let stop ← here
    need 2
    plainPiece fuel { f with content } stop

/-- Consumes the pieces of a plain scalar and the blanks between them. -/
def plainPieces (indent : Int) (start : Mark) : Nat → Folding → Mark → ScanM (Folding × Mark)
  | 0, f, stop => pure (f, stop)
  | fuel + 1, f, stop => do
    need 4
    if (← atDocumentMarker) then return (f, stop)
    if (← cur) == '#' then return (f, stop)
    let (f, stop) ← plainPiece (← budget) f stop
    let c ← cur
    if !(isBlank c || isBreak c) then return (f, stop)
    need 1
    let f ← foldBlanks (some (indent, start)) (← budget) f
    let s ← get
    if s.flowLevel == 0 && (s.mark.column : Int) < indent then return (f, stop)
    plainPieces indent start fuel f stop

/-- Scans a plain scalar. A scalar that ends after a line break lets a simple key follow. -/
def plainScalar : ScanM Token := do
  let s ← get
  let start := s.mark
  let (f, stop) ← plainPieces (s.indent + 1) start (← budget) {} start
  if f.leadingBlanks then modify fun s => { s with keyAllowed := true }
  pure { kind := .scalar f.content .plain, start, stop }

/-- The character a one-letter escape of a double-quoted scalar stands for, or the number
of hexadecimal digits that follow it. -/
def escapeOf (c : Char) : Option (Sum Char Nat) :=
  match c with
  | '0' => some (.inl '\x00')
  | 'a' => some (.inl '\x07')
  | 'b' => some (.inl '\x08')
  | 't' => some (.inl '\t')
  | '\t' => some (.inl '\t')
  | 'n' => some (.inl '\n')
  | 'v' => some (.inl '\x0b')
  | 'f' => some (.inl '\x0c')
  | 'r' => some (.inl '\r')
  | 'e' => some (.inl '\x1b')
  | ' ' => some (.inl ' ')
  | '"' => some (.inl '"')
  | '\'' => some (.inl '\'')
  | '\\' => some (.inl '\\')
  | 'N' => some (.inl (Char.ofNat 0x85))
  | '_' => some (.inl (Char.ofNat 0xA0))
  | 'L' => some (.inl (Char.ofNat 0x2028))
  | 'P' => some (.inl (Char.ofNat 0x2029))
  | 'x' => some (.inr 2)
  | 'u' => some (.inr 4)
  | 'U' => some (.inr 8)
  | _ => none

/-- Reads `count` hexadecimal digits from the current position on. -/
def hexDigits (start : Mark) : Nat → Nat → Nat → ScanM Nat
  | 0, _, acc => pure acc
  | count + 1, k, acc => do
    match hexValue? (← peekAt k) with
    | some v => hexDigits start count (k + 1) (acc * 16 + v)
    | none => fail "did not find expected hexdecimal number" start

/-- Moves past `n` characters of the current line. -/
def skipN : Nat → ScanM Unit
  | 0 => pure ()
  | n + 1 => do
    skip
    skipN n

/-- Reads an escape sequence of a double-quoted scalar, the backslash included. -/
def escape (start : Mark) (content : String) : ScanM String := do
  match escapeOf (← peekAt 1) with
  | none => fail "found unknown escape character" start
  | some (.inl c) =>
    skip
    skip
    pure (content.push c)
  | some (.inr width) =>
    skip
    skip
    need width
    let value ← hexDigits start width 0 0
    if (0xD800 ≤ value && value ≤ 0xDFFF) || value > 0x10FFFF then
      fail "found invalid Unicode character escape code" start
    skipN width
    pure (content.push (Char.ofNat value))

/-- Consumes the characters of one piece of a quoted scalar, up to a blank or the closing
quote. An escaped line break ends the piece and starts a fold. -/
def quotedPiece (single : Bool) (start : Mark) : Nat → Folding → ScanM Folding
  | 0, f => pure f
  | fuel + 1, f => do
    let c ← cur
    if isBlankz c then return f
    let d ← peekAt 1
    if single && c == '\'' && d == '\'' then
      skip
      skip
      need 2
      quotedPiece single start fuel { f with content := f.content.push '\'' }
    else if single && c == '\'' then return f
    else if !single && c == '"' then return f
    else if !single && c == '\\' && isBreak d then
      need 3
      skip
      skipLine
      return { f with leadingBlanks := true }
    else if !single && c == '\\' then
      let content ← escape start f.content
      need 2
      quotedPiece single start fuel { f with content }
    else
      let content ← readChar f.content
      need 2
      quotedPiece single start fuel { f with content }

/-- Consumes the pieces of a quoted scalar up to its closing quote. -/
def quotedPieces (single : Bool) (start : Mark) : Nat → Folding → ScanM Folding
  | 0, f => pure f
  | fuel + 1, f => do
    need 4
    if (← atDocumentMarker) then fail "found unexpected document indicator" start
    if (← cur) == '\x00' then fail "found unexpected end of stream" start
    let f ← quotedPiece single start (← budget) { f with leadingBlanks := false }
    need 1
    let c ← cur
    if (single && c == '\'') || (!single && c == '"') then return f
    let f ← foldBlanks none (← budget) f
    quotedPieces single start fuel f.join

/-- Scans a single- or double-quoted scalar. -/
def quotedScalar (single : Bool) : ScanM Token := do
  let start ← here
  skip
  let f ← quotedPieces single start (← budget) {}
  skip
  let stop ← here
  pure { kind := .scalar f.content (if single then .singleQuoted else .doubleQuoted), start, stop }

/-- Consumes the indentation and empty lines in front of a line of a block scalar, and
settles the indentation if it is not yet known. Returns the indentation, the breaks and the
end of the scalar so far. -/
def blockBreaksFrom (start : Mark) (indent : Nat) (breaks : String) (stop : Mark) :
    Nat → Nat → ScanM (Nat × String × Mark)
  | 0, _ => pure (indent, breaks, stop)
  | fuel + 1, maxIndent => do
    need 1
    let rec spaces : Nat → ScanM Unit
      | 0 => pure ()
      | n + 1 => do
        let col ← column
        if (indent == 0 || col < indent) && (← cur) == ' ' then
          skip
          need 1
          spaces n
    spaces (← budget)
    let col ← column
    let maxIndent := max maxIndent col
    if (indent == 0 || col < indent) && (← cur) == '\t' then
      fail "found a tab character where an indentation space is expected" start
    if !isBreak (← cur) then
      if indent == 0 then
        let s ← get
        let settled := max (max maxIndent (s.indent + 1).toNat) 1
        return (settled, breaks, stop)
      return (indent, breaks, stop)
    need 2
    let breaks ← readLine breaks
    let stop ← here
    blockBreaksFrom start indent breaks stop fuel maxIndent

/-- Consumes the indentation and empty lines in front of a line of a block scalar; the end
of the scalar moves to the current position and past each empty line. -/
def blockBreaks (start : Mark) (indent : Nat) (breaks : String) : ScanM (Nat × String × Mark) := do
  blockBreaksFrom start indent breaks (← here) (← budget) 0

/-- Reads the chomping and indentation indicators of a block scalar header. -/
def blockHeader (start : Mark) : ScanM (Int × Nat) := do
  need 1
  let c ← cur
  if c == '+' || c == '-' then
    let chomping : Int := if c == '+' then 1 else -1
    skip
    need 1
    let d ← cur
    if d.isDigit then
      if d == '0' then fail "found an indentation indicator equal to 0" start
      skip
      return (chomping, d.toNat - '0'.toNat)
    return (chomping, 0)
  else if c.isDigit then
    if c == '0' then fail "found an indentation indicator equal to 0" start
    skip
    need 1
    let d ← cur
    if d == '+' || d == '-' then
      skip
      return (if d == '+' then 1 else -1, c.toNat - '0'.toNat)
    return (0, c.toNat - '0'.toNat)
  else return (0, 0)

/-- Moves past blanks. -/
def skipBlanks : Nat → ScanM Unit
  | 0 => pure ()
  | n + 1 => do
    if isBlank (← cur) then
      skip
      need 1
      skipBlanks n

/-- Moves past a comment, up to the line break. -/
def skipComment : Nat → ScanM Unit
  | 0 => pure ()
  | n + 1 => do
    if !isBreakz (← cur) then
      skip
      need 1
      skipComment n

/-- The lines of a block scalar after its header. -/
structure BlockText where
  content : String := ""
  leadingBreak : String := ""
  trailingBreaks : String := ""
  leadingBlank : Bool := false
  stop : Mark := {}

/-- Consumes the lines of a block scalar that stand at its indentation. -/
def blockLines (literal : Bool) (start : Mark) (indent : Nat) : Nat → BlockText → ScanM BlockText
  | 0, b => pure b
  | fuel + 1, b => do
    let col ← column
    let c ← cur
    if !(col == indent && c != '\x00') then return b
    let trailingBlank := isBlank c
    let content :=
      if !literal && !b.leadingBlank && !trailingBlank && b.leadingBreak.startsWith "\n" then
        if b.trailingBreaks.isEmpty then b.content.push ' ' else b.content
      else b.content ++ b.leadingBreak
    let content := content ++ b.trailingBreaks
    let leadingBlank := isBlank c
    let rec line : Nat → String → ScanM String
      | 0, acc => pure acc
      | n + 1, acc => do
        if isBreakz (← cur) then return acc
        let acc ← readChar acc
        need 1
        line n acc
    let content ← line (← budget) content
    need 2
    let leadingBreak ← readLine ""
    let (_, trailingBreaks, stop) ← blockBreaks start indent ""
    blockLines literal start indent fuel
      { content, leadingBreak, trailingBreaks, leadingBlank, stop }

/-- Scans a literal (`|`) or folded (`>`) block scalar. -/
def blockScalar (literal : Bool) : ScanM Token := do
  let start ← here
  skip
  let (chomping, increment) ← blockHeader start
  need 1
  skipBlanks (← budget)
  if (← cur) == '#' then skipComment (← budget)
  if !isBreakz (← cur) then fail "did not find expected comment or line break" start
  if isBreak (← cur) then
    need 2
    skipLine
  let s ← get
  let indent : Nat :=
    if increment > 0 then (if s.indent ≥ 0 then s.indent.toNat + increment else increment)
    else 0
  let (indent, trailingBreaks, stop) ← blockBreaks start indent ""
  need 1
  let b ← blockLines literal start indent (← budget) { trailingBreaks, stop }
  let content := if chomping != -1 then b.content ++ b.leadingBreak else b.content
  let content := if chomping == 1 then content ++ b.trailingBreaks else content
  pure { kind := .scalar content (if literal then .literal else .folded), start, stop := b.stop }

/-- Reads a run of name characters. -/
def wordChars : Nat → String → ScanM String
  | 0, acc => pure acc
  | n + 1, acc => do
    if isWordChar (← cur) then
      let acc ← readChar acc
      need 1
      wordChars n acc
    else pure acc

/-- Scans an anchor (`&name`) or an alias (`*name`). -/
def anchorOrAlias (isAnchor : Bool) : ScanM Token := do
  let start ← here
  skip
  need 1
  let name ← wordChars (← budget) ""
  let stop ← here
  let c ← cur
  if name.isEmpty || !(isBlankz c || c == '?' || c == ':' || c == ',' || c == ']' || c == '}' ||
      c == '%' || c == '@' || c == '`') then
    fail "did not find expected alphabetic or numeric character" start
  pure { kind := if isAnchor then .anchor name else .alias name, start, stop }

/-- Reads a tag handle: `!`, `!!` or `!word!`, or the `!word` start of a tag. -/
def tagHandle (directive : Bool) (start : Mark) : ScanM String := do
  need 1
  if (← cur) != '!' then fail "did not find expected '!'" start
  let s ← readChar ""
  need 1
  let s ← wordChars (← budget) s
  if (← cur) == '!' then readChar s
  else
    if directive && s != "!" then fail "did not find expected '!'" start
    pure s

/-- The number of bytes of a UTF-8 sequence that starts with `octet`, or zero. -/
def octetWidth (octet : Nat) : Nat :=
  if octet &&& 0x80 == 0 then 1
  else if octet &&& 0xE0 == 0xC0 then 2
  else if octet &&& 0xF0 == 0xE0 then 3
  else if octet &&& 0xF8 == 0xF0 then 4
  else 0

/-- Reads the `%`-escaped octets of one character of a tag. -/
def uriEscapes (start : Mark) : Nat → Nat → List UInt8 → ScanM (List UInt8)
  | 0, _, acc => pure acc
  | fuel + 1, left, acc => do
    need 3
    let c ← cur
    match hexValue? (← peekAt 1), hexValue? (← peekAt 2) with
    | some hi, some lo =>
      if c != '%' then fail "did not find URI escaped octet" start
      let octet := hi * 16 + lo
      let left ← if left == 0 then do
          let w := octetWidth octet
          if w == 0 then fail "found an incorrect leading UTF-8 octet" start
          pure w
        else do
          if octet &&& 0xC0 != 0x80 then fail "found an incorrect trailing UTF-8 octet" start
          pure left
      skip
      skip
      skip
      let acc := acc ++ [octet.toUInt8]
      if left - 1 == 0 then pure acc else uriEscapes start fuel (left - 1) acc
    | _, _ => fail "did not find URI escaped octet" start

/-- Characters that may stand in a tag URI. -/
def isUriChar (c : Char) : Bool :=
  isWordChar c || ";/?:@&=+$,.!~*'()[]%".contains c

/-- Reads the URI part of a tag, after the characters of `head` that follow its first. -/
def tagUri (head : String) (start : Mark) : ScanM String := do
  need 1
  let rec go : Nat → String → Bool → ScanM (String × Bool)
    | 0, acc, seen => pure (acc, seen)
    | n + 1, acc, seen => do
      let c ← cur
      if !isUriChar c then return (acc, seen)
      let acc ← if c == '%' then do
          let octets ← uriEscapes start (← budget) 0 []
          pure (acc ++ Text.lossy octets)
        else readChar acc
      need 1
      go n acc true
  let (uri, seen) ← go (← budget) (String.ofList (head.toList.drop 1)) (!head.isEmpty)
  if !seen then fail "did not find expected tag URI" start
  pure uri

/-- Scans a tag. -/
def tag : ScanM Token := do
  let start ← here
  need 2
  let (handle, suffix) ← if (← peekAt 1) == '<' then do
      skip
      skip
      let suffix ← tagUri "" start
      if (← cur) != '>' then fail "did not find the expected '>'" start
      skip
      pure ("", suffix)
    else do
      let handle ← tagHandle false start
      if handle.startsWith "!" && handle.length > 1 && handle.endsWith "!" then
        let suffix ← tagUri "" start
        pure (handle, suffix)
      else
        let suffix ← tagUri handle start
        if suffix.isEmpty then pure ("", "!") else pure ("!", suffix)
  need 1
  let c ← cur
  let s ← get
  if !isBlankz c then
    if s.flowLevel == 0 || c != ',' || !s.dialect.commaEndsTag then
      fail "did not find expected whitespace or line break" start
  let stop ← here
  pure { kind := .tag handle suffix, start, stop }

/-- Reads one number of a `%YAML` directive, at most two digits. -/
def versionNumber (start : Mark) : ScanM Nat := do
  need 1
  let rec go : Nat → Nat → Nat → ScanM (Nat × Nat)
    | 0, value, length => pure (value, length)
    | n + 1, value, length => do
      let c ← cur
      if !c.isDigit then return (value, length)
      if length + 1 > 2 then fail "found extremely long version number" start
      skip
      need 1
      go n (value * 10 + (c.toNat - '0'.toNat)) (length + 1)
  let (value, length) ← go (← budget) 0 0
  if length == 0 then fail "did not find expected version number" start
  pure value

/-- Scans a directive line: `%YAML` or `%TAG`, then an optional comment. -/
def directive : ScanM Token := do
  let start ← here
  skip
  need 1
  let name ← wordChars (← budget) ""
  if name.isEmpty then fail "could not find expected directive name" start
  if !isBlankz (← cur) then fail "found unexpected non-alphabetical character" start
  let kind ← if name == "YAML" then do
      need 1
      skipBlanks (← budget)
      let major ← versionNumber start
      if (← cur) != '.' then fail "did not find expected digit or '.' character" start
      skip
      let minor ← versionNumber start
      pure (TokenKind.versionDirective major minor)
    else if name == "TAG" then do
      need 1
      skipBlanks (← budget)
      let handle ← tagHandle true start
      need 1
      if !isBlank (← cur) then fail "did not find expected whitespace" start
      skipBlanks (← budget)
      let pfx ← tagUri "" start
      need 1
      if !isBlankz (← cur) then fail "did not find expected whitespace or line break" start
      pure (TokenKind.tagDirective handle pfx)
    else fail "found unknown directive name" start
  let stop ← here
  need 1
  skipBlanks (← budget)
  if (← cur) == '#' then skipComment (← budget)
  if !isBreakz (← cur) then fail "did not find expected comment or line break" start
  if isBreak (← cur) then
    need 2
    skipLine
  pure { kind, start, stop }

end Scanner

end SigmaQuery.Yaml
