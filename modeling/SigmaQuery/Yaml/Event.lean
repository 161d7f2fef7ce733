import SigmaQuery.Yaml.Token.Scan

/-!
# YAML events

The parser reads tokens and reports the structure of a stream as events: the start and end of
the stream, of each document, of each sequence and mapping, and each scalar and alias, with the
anchor and the resolved tag of every node. A missing node (a key without value, an entry without
content) is reported as an empty plain scalar.

`Event.firstDocument` gives the events of the stream start and of the first document, or of
an empty stream, and stops at the first refusal. A tag's handle is replaced by the prefix that
a `%TAG` directive or a default (`!` and `!!`) gives it.

Source: the parser of the yaml.v2 and yaml.v3 packages.
-/

namespace SigmaQuery.Yaml

/-- What an event reports. -/
inductive EventKind where
  | streamStart
  | streamEnd
  | documentStart
  | documentEnd
  /-- A reference to an anchored node. -/
  | alias (name : String)
  /-- A scalar; `plain` tells whether it may be resolved from its text. -/
  | scalar (anchor : Option String) (tag : String) (value : String) (plain : Bool)
  | sequenceStart (anchor : Option String) (tag : String)
  | sequenceEnd
  | mappingStart (anchor : Option String) (tag : String)
  | mappingEnd
  deriving Repr, Inhabited

/-- An event and where its text starts and ends. -/
structure Event where
  kind : EventKind
  start : Mark
  stop : Mark
  deriving Repr, Inhabited

/-- Where the parser is in the grammar. -/
inductive ParseState where
  | streamStart
  | implicitDocumentStart
  | documentStart
  | documentContent
  | documentEnd
  | blockNode
  | blockNodeOrIndentlessSequence
  | flowNode
  | blockSequenceFirstEntry
  | blockSequenceEntry
  | indentlessSequenceEntry
  | blockMappingFirstKey
  | blockMappingKey
  | blockMappingValue
  | flowSequenceFirstEntry
  | flowSequenceEntry
  | flowSequenceEntryMappingKey
  | flowSequenceEntryMappingValue
  | flowSequenceEntryMappingEnd
  | flowMappingFirstKey
  | flowMappingKey
  | flowMappingValue
  | flowMappingEmptyValue
  | finished
  deriving Repr, Inhabited, DecidableEq

/-- The state of the parser. -/
structure Parser where
  /-- Tokens not yet read. -/
  tokens : List Token
  /-- The refusal that follows the last token, if any. -/
  refusal : Option YamlError
  /-- The current state. -/
  state : ParseState := .streamStart
  /-- States to return to, innermost first. -/
  states : List ParseState := []
  /-- Starts of the open collections, innermost first. -/
  marks : List Mark := []
  /-- Tag handles and their prefixes. -/
  tagDirectives : List (String × String) := []
  deriving Inhabited

/-- Parsing steps: they change the parser or refuse the stream. -/
abbrev ParseM := StateT Parser (Except YamlError)

namespace Parser

/-- The next token. -/
def peek : ParseM Token := do
  let p ← get
  match p.tokens with
  | t :: _ => pure t
  | [] => throw (p.refusal.getD (.failure "yaml: unknown problem parsing YAML content"))

/-- Moves past the next token. -/
def skipToken : ParseM Unit :=
  modify fun p => { p with tokens := p.tokens.drop 1 }

/-- Continues in the state on top of the stack. -/
def popState : ParseM Unit :=
  modify fun p => match p.states with
    | s :: rest => { p with state := s, states := rest }
    | [] => p

/-- Remembers a state to return to. -/
def pushState (s : ParseState) : ParseM Unit :=
  modify fun p => { p with states := s :: p.states }

/-- Forgets the start of the innermost collection, and gives it. -/
def popMark : ParseM Mark := do
  let p ← get
  match p.marks with
  | m :: rest =>
    set { p with marks := rest }
    pure m
  | [] => pure {}

/-- Refuses the stream at `problemAt`, inside the construct that starts at `context`. -/
def fail {α : Type} (problem : String) (problemAt context : Mark) : ParseM α :=
  throw (.parser problem problemAt context)

/-- An empty plain scalar at a position. -/
def emptyScalar (m : Mark) : Event :=
  { kind := .scalar none "" "" true, start := m, stop := m }

/-- Reads a node: an alias, or properties followed by a scalar or the start of a collection.
`block` allows block collections, `indentless` a sequence at the indentation of its key. -/
def parseNode (block indentless : Bool) : ParseM Event := do
  let t ← peek
  if let .alias name := t.kind then
    popState
    skipToken
    return { kind := .alias name, start := t.start, stop := t.stop }
  let start := t.start
  let mut stop := t.start
  let mut anchor : Option String := none
  let mut tagToken : Option (String × String × Mark) := none
  let mut t := t
  if let .anchor name := t.kind then
    anchor := some name
    stop := t.stop
    skipToken
    t ← peek
    if let .tag handle suffix := t.kind then
      tagToken := some (handle, suffix, t.start)
      stop := t.stop
      skipToken
      t ← peek
  else if let .tag handle suffix := t.kind then
    tagToken := some (handle, suffix, t.start)
    stop := t.stop
    skipToken
    t ← peek
    if let .anchor name := t.kind then
      anchor := some name
      stop := t.stop
      skipToken
      t ← peek
  let mut tag := ""
  if let some (handle, suffix, tagMark) := tagToken then
    if handle.isEmpty then tag := suffix
    else
      let p ← get
      match p.tagDirectives.find? (·.1 == handle) with
      | some (_, pfx) => tag := pfx ++ suffix
      | none => pure ()
      if tag.isEmpty then fail "found undefined tag handle" tagMark start
  if indentless && t.kind.isBlockEntry then
    modify fun p => { p with state := .indentlessSequenceEntry }
    return { kind := .sequenceStart anchor tag, start, stop := t.stop }
  match t.kind with
  | .scalar value style =>
    let plain := (tag.isEmpty && style == .plain) || tag == "!"
    popState
    skipToken
    return { kind := .scalar anchor tag value plain, start, stop := t.stop }
  | .flowSequenceStart =>
    modify fun p => { p with state := .flowSequenceFirstEntry }
    return { kind := .sequenceStart anchor tag, start, stop := t.stop }
  | .flowMappingStart =>
    modify fun p => { p with state := .flowMappingFirstKey }
    return { kind := .mappingStart anchor tag, start, stop := t.stop }
  | .blockSequenceStart =>
    if block then
      modify fun p => { p with state := .blockSequenceFirstEntry }
      return { kind := .sequenceStart anchor tag, start, stop := t.stop }
  | .blockMappingStart =>
    if block then
      modify fun p => { p with state := .blockMappingFirstKey }
      return { kind := .mappingStart anchor tag, start, stop := t.stop }
  | _ => pure ()
  if anchor.isSome || !tag.isEmpty then
    popState
    return { kind := .scalar anchor tag "" tag.isEmpty, start, stop }
  fail "did not find expected node content" t.start start

/-- Reads the directives in front of a document and adds the default tag handles. -/
def processDirectives : ParseM Unit := do
  let rec go : Nat → Bool → ParseM Token
    | 0, _ => peek
    | fuel + 1, versionSeen => do
      let t ← peek
      match t.kind with
      | .versionDirective major minor =>
        if versionSeen then fail "found duplicate %YAML directive" t.start {}
        if major != 1 || minor != 1 then fail "found incompatible YAML document" t.start {}
        skipToken
        go fuel true
      | .tagDirective handle pfx =>
        let p ← get
        if p.tagDirectives.any (·.1 == handle) then
          fail "found duplicate %TAG directive" t.start {}
        set { p with tagDirectives := p.tagDirectives ++ [(handle, pfx)] }
        skipToken
        go fuel versionSeen
      | _ => pure t
  let p ← get
  let _ ← go (p.tokens.length + 1) false
  for (handle, pfx) in [("!", "!"), ("!!", "tag:yaml.org,2002:")] do
    modify fun p =>
      if p.tagDirectives.any (·.1 == handle) then p
      else { p with tagDirectives := p.tagDirectives ++ [(handle, pfx)] }

/-- Reads the start of a document, or the end of the stream. -/
def documentStart (implicit : Bool) : ParseM Event := do
  let mut t ← peek
  if !implicit then
    let rec extraEnds : Nat → ParseM Token
      | 0 => peek
      | fuel + 1 => do
        let t ← peek
        if t.kind.isDocumentEnd then
          skipToken
          extraEnds fuel
        else pure t
    t ← extraEnds ((← get).tokens.length + 1)
  if implicit && !(t.kind.isDirective || t.kind.isDocumentStart || t.kind.isStreamEnd) then
    processDirectives
    pushState .documentEnd
    modify fun p => { p with state := .blockNode }
    return { kind := .documentStart, start := t.start, stop := t.stop }
  else if !t.kind.isStreamEnd then
    let start := t.start
    processDirectives
    let t2 ← peek
    if !t2.kind.isDocumentStart then fail "did not find expected <document start>" t2.start {}
    pushState .documentEnd
    modify fun p => { p with state := .documentContent }
    skipToken
    return { kind := .documentStart, start, stop := t2.stop }
  else
    modify fun p => { p with state := .finished }
    skipToken
    return { kind := .streamEnd, start := t.start, stop := t.stop }

/-- Reads the content of an explicit document, which may be empty. -/
def documentContent : ParseM Event := do
  let t ← peek
  if t.kind.isDirective || t.kind.isDocumentStart || t.kind.isDocumentEnd ||
      t.kind.isStreamEnd then
    popState
    return emptyScalar t.start
  parseNode true false

/-- Reads the end of a document, written or not. -/
def documentEnd : ParseM Event := do
  let t ← peek
  let stop ← if t.kind.isDocumentEnd then do
      skipToken
      pure t.stop
    else pure t.start
  modify fun p => { p with tagDirectives := [], state := .documentStart }
  return { kind := .documentEnd, start := t.start, stop }

/-- Reads an entry of a block sequence, or its end. -/
def blockSequenceEntry (first : Bool) : ParseM Event := do
  if first then
    let t ← peek
    modify fun p => { p with marks := t.start :: p.marks }
    skipToken
  let t ← peek
  if t.kind.isBlockEntry then
    let m := t.stop
    skipToken
    let t ← peek
    if !(t.kind.isBlockEntry || t.kind.isBlockEnd) then
      pushState .blockSequenceEntry
      parseNode true false
    else
      modify fun p => { p with state := .blockSequenceEntry }
      return emptyScalar m
  else if t.kind.isBlockEnd then
    popState
    let _ ← popMark
    skipToken
    return { kind := .sequenceEnd, start := t.start, stop := t.stop }
  else
    let context ← popMark
    fail "did not find expected '-' indicator" t.start context

/-- Reads an entry of a sequence written at the indentation of its key, or its end. -/
def indentlessSequenceEntry : ParseM Event := do
  let t ← peek
  if t.kind.isBlockEntry then
    let m := t.stop
    skipToken
    let t ← peek
    if !(t.kind.isBlockEntry || t.kind.isKey || t.kind.isValue || t.kind.isBlockEnd) then
      pushState .indentlessSequenceEntry
      parseNode true false
    else
      modify fun p => { p with state := .indentlessSequenceEntry }
      return emptyScalar m
  else
    popState
    return { kind := .sequenceEnd, start := t.start, stop := t.start }

/-- Reads a key of a block mapping, or its end. -/
def blockMappingKey (first : Bool) : ParseM Event := do
  if first then
    let t ← peek
    modify fun p => { p with marks := t.start :: p.marks }
    skipToken
  let t ← peek
  if t.kind.isKey then
    let m := t.stop
    skipToken
    let t ← peek
    if !(t.kind.isKey || t.kind.isValue || t.kind.isBlockEnd) then
      pushState .blockMappingValue
      parseNode true true
    else
      modify fun p => { p with state := .blockMappingValue }
      return emptyScalar m
  else if t.kind.isBlockEnd then
    popState
    let _ ← popMark
    skipToken
    return { kind := .mappingEnd, start := t.start, stop := t.stop }
  else
    let context ← popMark
    fail "did not find expected key" t.start context

/-- Reads a value of a block mapping, which may be empty. -/
def blockMappingValue : ParseM Event := do
  let t ← peek
  if t.kind.isValue then
    let m := t.stop
    skipToken
    let t ← peek
    if !(t.kind.isKey || t.kind.isValue || t.kind.isBlockEnd) then
      pushState .blockMappingKey
      parseNode true true
    else
      modify fun p => { p with state := .blockMappingKey }
      return emptyScalar m
  else
    modify fun p => { p with state := .blockMappingKey }
    return emptyScalar t.start

/-- Reads an entry of a flow sequence, or its end. -/
def flowSequenceEntry (first : Bool) : ParseM Event := do
  if first then
    let t ← peek
    modify fun p => { p with marks := t.start :: p.marks }
    skipToken
  let mut t ← peek
  if !t.kind.isFlowSequenceEnd then
    if !first then
      if t.kind.isFlowEntry then
        skipToken
        t ← peek
      else
        let context ← popMark
        fail "did not find expected ',' or ']'" t.start context
    if t.kind.isKey then
      modify fun p => { p with state := .flowSequenceEntryMappingKey }
      skipToken
      return { kind := .mappingStart none "", start := t.start, stop := t.stop }
    else if !t.kind.isFlowSequenceEnd then
      pushState .flowSequenceEntry
      return (← parseNode false false)
  popState
  let _ ← popMark
  skipToken
  return { kind := .sequenceEnd, start := t.start, stop := t.stop }

/-- Reads the key of a single-pair mapping inside a flow sequence. -/
def flowSequenceEntryMappingKey : ParseM Event := do
  let t ← peek
  if !(t.kind.isValue || t.kind.isFlowEntry || t.kind.isFlowSequenceEnd) then
    pushState .flowSequenceEntryMappingValue
    parseNode false false
  else
    skipToken
    modify fun p => { p with state := .flowSequenceEntryMappingValue }
    return emptyScalar t.stop

/-- Reads the value of a single-pair mapping inside a flow sequence. -/
def flowSequenceEntryMappingValue : ParseM Event := do
  let t ← peek
  if t.kind.isValue then
    skipToken
    let t2 ← peek
    if !(t2.kind.isFlowEntry || t2.kind.isFlowSequenceEnd) then
      pushState .flowSequenceEntryMappingEnd
      return (← parseNode false false)
  modify fun p => { p with state := .flowSequenceEntryMappingEnd }
  return emptyScalar t.start

/-- Ends a single-pair mapping inside a flow sequence. -/
def flowSequenceEntryMappingEnd : ParseM Event := do
  let t ← peek
  modify fun p => { p with state := .flowSequenceEntry }
  return { kind := .mappingEnd, start := t.start, stop := t.start }

/-- Reads a key of a flow mapping, or its end. -/
def flowMappingKey (first : Bool) : ParseM Event := do
  if first then
    let t ← peek
    modify fun p => { p with marks := t.start :: p.marks }
    skipToken
  let mut t ← peek
  if !t.kind.isFlowMappingEnd then
    if !first then
      if t.kind.isFlowEntry then
        skipToken
        t ← peek
      else
        let context ← popMark
        fail "did not find expected ',' or '\x7d'" t.start context
    if t.kind.isKey then
      skipToken
      let t2 ← peek
      if !(t2.kind.isValue || t2.kind.isFlowEntry || t2.kind.isFlowMappingEnd) then
        pushState .flowMappingValue
        return (← parseNode false false)
      else
        modify fun p => { p with state := .flowMappingValue }
        return emptyScalar t2.start
    else if !t.kind.isFlowMappingEnd then
      pushState .flowMappingEmptyValue
      return (← parseNode false false)
  popState
  let _ ← popMark
  skipToken
  return { kind := .mappingEnd, start := t.start, stop := t.stop }

/-- Reads a value of a flow mapping; `empty` when its key stood alone. -/
def flowMappingValue (empty : Bool) : ParseM Event := do
  let t ← peek
  if empty then
    modify fun p => { p with state := .flowMappingKey }
    return emptyScalar t.start
  if t.kind.isValue then
    skipToken
    let t2 ← peek
    if !(t2.kind.isFlowEntry || t2.kind.isFlowMappingEnd) then
      pushState .flowMappingKey
      return (← parseNode false false)
  modify fun p => { p with state := .flowMappingKey }
  return emptyScalar t.start

/-- Reads the start of the stream. -/
def streamStart : ParseM Event := do
  let t ← peek
  if !(match t.kind with | .streamStart => true | _ => false) then
    fail "did not find expected <stream-start>" t.start {}
  modify fun p => { p with state := .implicitDocumentStart }
  skipToken
  return { kind := .streamStart, start := t.start, stop := t.stop }

/-- Reads the next event. -/
def next : ParseM Event := do
  match (← get).state with
  | .streamStart => streamStart
  | .implicitDocumentStart => documentStart true
  | .documentStart => documentStart false
  | .documentContent => documentContent
  | .documentEnd => documentEnd
  | .blockNode => parseNode true false
  | .blockNodeOrIndentlessSequence => parseNode true true
  | .flowNode => parseNode false false
  | .blockSequenceFirstEntry => blockSequenceEntry true
  | .blockSequenceEntry => blockSequenceEntry false
  | .indentlessSequenceEntry => indentlessSequenceEntry
  | .blockMappingFirstKey => blockMappingKey true
  | .blockMappingKey => blockMappingKey false
  | .blockMappingValue => blockMappingValue
  | .flowSequenceFirstEntry => flowSequenceEntry true
  | .flowSequenceEntry => flowSequenceEntry false
  | .flowSequenceEntryMappingKey => flowSequenceEntryMappingKey
  | .flowSequenceEntryMappingValue => flowSequenceEntryMappingValue
  | .flowSequenceEntryMappingEnd => flowSequenceEntryMappingEnd
  | .flowMappingFirstKey => flowMappingKey true
  | .flowMappingKey => flowMappingKey false
  | .flowMappingValue => flowMappingValue false
  | .flowMappingEmptyValue => flowMappingValue true
  | .finished => throw (.failure "yaml: attempted to go past the end of stream; corrupted value?")

end Parser

namespace Event

/-- Events from `p` on, up to the end of the first document or of the stream. -/
def untilDocumentEnd : Nat → Parser → List Event × Option YamlError
  | 0, _ => ([], none)
  | fuel + 1, p =>
    match Parser.next.run p with
    | .error e => ([], some e)
    | .ok (e, p') =>
      match e.kind with
      | .documentEnd | .streamEnd => ([e], none)
      | _ =>
        let (rest, err) := untilDocumentEnd fuel p'
        (e :: rest, err)

/-- The events of the stream start and of the first document of a token sequence, and the
refusal that stops them, if any. -/
def firstDocument (tokens : List Token) (refusal : Option YamlError) :
    List Event × Option YamlError :=
  untilDocumentEnd (4 * tokens.length + 8) { tokens, refusal }

end Event

end SigmaQuery.Yaml
