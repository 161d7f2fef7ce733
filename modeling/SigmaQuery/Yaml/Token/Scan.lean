import SigmaQuery.Yaml.Token.Scalar

/-!
# From characters to tokens

`Token.scan` turns a stream into the tokens a parser reads, in order. The scanner skips
blanks, comments and line breaks, closes the block collections the new column leaves, and
picks the rule for the next token by its first character. A simple key is confirmed only
when the `:` after it is seen, so a token is handed on only once no simple key can still
turn it into a key.

A refusal stops the tokens where a parser reading them one by one would meet it: the
result lists the tokens handed on before it, then the refusal.

Source: `yaml_parser_fetch_next_token` of the yaml.v2 and yaml.v3 packages.
-/

namespace SigmaQuery.Yaml

namespace Scanner

/-- Moves past blanks, comments and line breaks up to the next token. A byte-order mark may
start a line; tabs are skipped only where no simple key may start, inside flow collections,
and, where the dialect lets tabs separate, after the start of a line. -/
def toNextToken : Nat → ScanM Unit
  | 0 => pure ()
  | fuel + 1 => do
    need 1
    if (← column) == 0 && (← cur).toNat == 0xFEFF then skip
    need 1
    let rec blanks : Nat → ScanM Unit
      | 0 => pure ()
      | n + 1 => do
        let s ← get
        let c ← cur
        if c == ' ' || (c == '\t' && (s.flowLevel > 0 || !s.keyAllowed ||
            (s.dialect.tabSeparates && s.mark.column > 0))) then
          skip
          need 1
          blanks n
    blanks (← budget)
    if (← cur) == '#' then skipComment (← budget)
    if isBreak (← cur) then
      need 2
      skipLine
      modify fun s => if s.flowLevel == 0 then { s with keyAllowed := true } else s
      toNextToken fuel

/-- Starts the stream: the outermost indentation, one simple key slot. -/
def fetchStreamStart : ScanM Unit := do
  modify fun s => { s with indent := -1, keys := s.keys.push {}, keyOfToken := [],
                           keyAllowed := true, started := true }
  let m ← here
  append { kind := .streamStart, start := m, stop := m }

/-- Ends the stream: a line break is assumed, all block collections close. -/
def fetchStreamEnd : ScanM Unit := do
  modify fun s =>
    if s.mark.column != 0 then
      { s with mark := { s.mark with column := 0, line := s.mark.line + 1 } }
    else s
  unrollIndent (-1)
  removeKey
  modify fun s => { s with keyAllowed := false }
  let m ← here
  append { kind := .streamEnd, start := m, stop := m }

/-- Scans a directive line. -/
def fetchDirective : ScanM Unit := do
  unrollIndent (-1)
  removeKey
  modify fun s => { s with keyAllowed := false }
  append (← directive)

/-- Scans `---` or `...`. -/
def fetchDocumentIndicator (kind : TokenKind) : ScanM Unit := do
  unrollIndent (-1)
  removeKey
  modify fun s => { s with keyAllowed := false }
  let start ← here
  skip
  skip
  skip
  append { kind, start, stop := (← here) }

/-- Scans `[` or `{`. -/
def fetchFlowStart (kind : TokenKind) : ScanM Unit := do
  saveKey
  increaseFlow
  modify fun s => { s with keyAllowed := true }
  let start ← here
  skip
  append { kind, start, stop := (← here) }

/-- Scans `]` or `}`. -/
def fetchFlowEnd (kind : TokenKind) : ScanM Unit := do
  removeKey
  decreaseFlow
  modify fun s => { s with keyAllowed := false }
  let start ← here
  skip
  append { kind, start, stop := (← here) }

/-- Scans `,` in a flow collection. -/
def fetchFlowEntry : ScanM Unit := do
  removeKey
  modify fun s => { s with keyAllowed := true }
  let start ← here
  skip
  append { kind := .flowEntry, start, stop := (← here) }

/-- Scans the block entry indicator `-`, opening a block sequence if needed. -/
def fetchBlockEntry : ScanM Unit := do
  let s ← get
  if s.flowLevel == 0 then
    if !s.keyAllowed then fail "block sequence entries are not allowed in this context" s.mark
    rollIndent s.mark.column none .blockSequenceStart s.mark
  removeKey
  modify fun s => { s with keyAllowed := true }
  let start ← here
  skip
  append { kind := .blockEntry, start, stop := (← here) }

/-- Scans the key indicator `?`, opening a block mapping if needed. -/
def fetchKey : ScanM Unit := do
  let s ← get
  if s.flowLevel == 0 then
    if !s.keyAllowed then fail "mapping keys are not allowed in this context" s.mark
    rollIndent s.mark.column none .blockMappingStart s.mark
  removeKey
  modify fun s => { s with keyAllowed := s.flowLevel == 0 }
  let start ← here
  skip
  append { kind := .key, start, stop := (← here) }

/-- Scans the value indicator `:`. If a simple key stands before it, a key token is put in
front of that key, and a block mapping is opened at its column if needed. -/
def fetchValue : ScanM Unit := do
  let s ← get
  let top := s.keys.size - 1
  if (← keyValid top) then
    let s ← get
    let key := topKey s
    insert (key.tokenNumber - s.delivered) { kind := .key, start := key.mark, stop := key.mark }
    rollIndent key.mark.column (some key.tokenNumber) .blockMappingStart key.mark
    modify fun s => { s with keys := s.keys.modify top fun k => { k with possible := false },
                             keyOfToken := forgetToken key.tokenNumber s.keyOfToken,
                             keyAllowed := false }
  else
    let s ← get
    if s.flowLevel == 0 then
      if !s.keyAllowed then fail "mapping values are not allowed in this context" s.mark
      rollIndent s.mark.column none .blockMappingStart s.mark
    modify fun s => { s with keyAllowed := s.flowLevel == 0 }
  let start ← here
  skip
  append { kind := .value, start, stop := (← here) }

/-- Scans an anchor or an alias, which may start a simple key. -/
def fetchAnchor (isAnchor : Bool) : ScanM Unit := do
  saveKey
  modify fun s => { s with keyAllowed := false }
  append (← anchorOrAlias isAnchor)

/-- Scans a tag, which may start a simple key. -/
def fetchTag : ScanM Unit := do
  saveKey
  modify fun s => { s with keyAllowed := false }
  append (← tag)

/-- Scans a block scalar. -/
def fetchBlockScalar (literal : Bool) : ScanM Unit := do
  removeKey
  modify fun s => { s with keyAllowed := true }
  append (← blockScalar literal)

/-- Scans a quoted scalar, which may be a simple key. -/
def fetchQuoted (single : Bool) : ScanM Unit := do
  saveKey
  modify fun s => { s with keyAllowed := false }
  append (← quotedScalar single)

/-- Scans a plain scalar, which may be a simple key. -/
def fetchPlain : ScanM Unit := do
  saveKey
  modify fun s => { s with keyAllowed := false }
  append (← plainScalar)

/-- Characters that cannot start a plain scalar on their own. -/
def isIndicator (c : Char) : Bool :=
  "-?:,[]\x7b\x7d#&*!|>'\"%@`".contains c

/-- Scans the next token, or more than one when block collections close or open. -/
def fetchNext : ScanM Unit := do
  need 1
  if !(← get).started then fetchStreamStart
  else
    toNextToken (← budget)
    unrollIndent (← column)
    need 4
    let s ← get
    let c0 ← peekAt 0
    let c1 ← peekAt 1
    let c2 ← peekAt 2
    let c3 ← peekAt 3
    let col := s.mark.column
    let flow := s.flowLevel > 0
    if c0 == '\x00' then fetchStreamEnd
    else if col == 0 && c0 == '%' then fetchDirective
    else if col == 0 && c0 == '-' && c1 == '-' && c2 == '-' && isBlankz c3 then
      fetchDocumentIndicator .documentStart
    else if col == 0 && c0 == '.' && c1 == '.' && c2 == '.' && isBlankz c3 then
      fetchDocumentIndicator .documentEnd
    else if c0 == '[' then fetchFlowStart .flowSequenceStart
    else if c0 == '{' then fetchFlowStart .flowMappingStart
    else if c0 == ']' then fetchFlowEnd .flowSequenceEnd
    else if c0 == '}' then fetchFlowEnd .flowMappingEnd
    else if c0 == ',' then fetchFlowEntry
    else if c0 == '-' && isBlankz c1 then fetchBlockEntry
    else if c0 == '?' && (flow || isBlankz c1) then fetchKey
    else if c0 == ':' && (flow || isBlankz c1) then fetchValue
    else if c0 == '*' then fetchAnchor false
    else if c0 == '&' then fetchAnchor true
    else if c0 == '!' then fetchTag
    else if c0 == '|' && !flow then fetchBlockScalar true
    else if c0 == '>' && !flow then fetchBlockScalar false
    else if c0 == '\'' then fetchQuoted true
    else if c0 == '"' then fetchQuoted false
    else if !(isBlankz c0 || isIndicator c0) || (c0 == '-' && !isBlank c1) ||
        (!flow && (c0 == '?' || c0 == ':') && !isBlankz c1) then
      fetchPlain
    else fail "found character that cannot start any token" s.mark

/-- Scans until the oldest queued token can be handed on: the queue holds more tokens than the
dialect looks ahead, and no simple key that can still become a key stands before its first
token. -/
def fetchMore : Nat → ScanM Unit
  | 0 => pure ()
  | fuel + 1 => do
    let s ← get
    if s.queue.length > s.dialect.lookahead then
      match s.keyOfToken.lookup s.delivered with
      | none => return
      | some i => if !(← keyValid i) then return
    fetchNext
    fetchMore fuel

/-- Hands on the next token. -/
def nextToken : ScanM Token := do
  fetchMore (2 * (← budget) + 8)
  let s ← get
  match s.queue with
  | t :: rest =>
    set { s with queue := rest, delivered := s.delivered + 1 }
    pure t
  | [] => throw (.scanner "unknown problem parsing YAML content" s.mark {})

end Scanner

namespace Token

/-- Tokens from `s` on, up to the stream end or a refusal. -/
def scanFrom : Nat → Scanner → List Token × Option YamlError
  | 0, _ => ([], none)
  | fuel + 1, s =>
    match Scanner.nextToken.run s with
    | .error e => ([], some e)
    | .ok (t, s') =>
      if t.kind.isStreamEnd then ([t], none)
      else
        let (rest, err) := scanFrom fuel s'
        (t :: rest, err)

/-- The tokens of a stream in the order a parser reads them, and the refusal that stops
them, if any. -/
def scan (dialect : Dialect) (src : Source) : List Token × Option YamlError :=
  scanFrom (4 * src.chars.size + 16) { src, dialect }

end Token

end SigmaQuery.Yaml
