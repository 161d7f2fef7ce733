import SigmaQuery.Yaml.Event

/-!
# YAML nodes

The first document of a stream as a tree: scalars, sequences, mappings with their entries in
written order, and aliases. An anchor is registered when its node starts, before the node's
content is read, so an alias inside a node may name that node itself; each alias therefore
refers to its node by the number of the anchor registration, and `Document.anchored` holds the
finished nodes by that number. An alias names the latest node that carries its anchor;
naming an anchor not seen yet is refused.

Every node keeps the zero-based line where it starts, for messages.

Source: the composer of the yaml.v2 and yaml.v3 packages.
-/

namespace SigmaQuery.Yaml

/-- A node of a YAML document. -/
inductive Node where
  /-- A scalar with its text and explicit tag; `plain` when it may be resolved from its text. -/
  | scalar (value : String) (tag : String) (plain : Bool) (line : Nat)
  /-- An alias: its name, its own number and the registration it refers to. -/
  | alias (name : String) (id : Nat) (target : Nat) (line : Nat)
  /-- A sequence. A tag written on it is read and dropped: it never decides anything. -/
  | sequence (items : List Node) (line : Nat)
  /-- A mapping, its entries in written order; like a sequence, it keeps no tag. -/
  | mapping (entries : List (Node × Node)) (line : Nat)
  deriving Repr, Inhabited

namespace Node

/-- The zero-based line where a node starts. -/
def line : Node → Nat
  | .scalar _ _ _ l => l
  | .alias _ _ _ l => l
  | .sequence _ l => l
  | .mapping _ l => l

/-- The explicit tag of a node: that of a scalar, empty for every other node. -/
def tag : Node → String
  | .scalar _ t _ _ => t
  | _ => ""

end Node

/-- The first document of a stream: its root, its anchored nodes by registration, and the
number of its nodes. -/
structure Document where
  root : Node
  anchored : Array Node
  size : Nat
  deriving Inhabited

/-- What composing has seen so far: the registration of each anchor name, latest first, the
finished anchored nodes, and the numbers of aliases and of nodes. -/
structure Composer where
  anchors : List (String × Nat) := []
  anchored : Array Node := #[]
  aliases : Nat := 0
  nodes : Nat := 0
  deriving Inhabited

namespace Composer

/-- Registers an anchor, if any, and gives its number. -/
def register (anchor : Option String) (c : Composer) : Option Nat × Composer :=
  match anchor with
  | none => (none, c)
  | some name =>
    let r := c.anchored.size
    (some r, { c with anchors := (name, r) :: c.anchors, anchored := c.anchored.push default })

/-- Stores a finished node under its registration. -/
def finish (reg : Option Nat) (n : Node) (c : Composer) : Composer :=
  match reg with
  | none => c
  | some r => { c with anchored := c.anchored.setIfInBounds r n }

end Composer

namespace Document

/-- The next event, or the refusal that stands in its place. -/
def headEvent (refusal : Option YamlError) : List Event → Except YamlError Event
  | e :: _ => .ok e
  | [] => .error (refusal.getD (.failure "yaml: unknown problem parsing YAML content"))

/-- Whether an event ends a sequence. -/
def endsSequence (e : Event) : Bool :=
  match e.kind with
  | .sequenceEnd => true
  | _ => false

/-- Whether an event ends a mapping. -/
def endsMapping (e : Event) : Bool :=
  match e.kind with
  | .mappingEnd => true
  | _ => false

mutual

/-- Builds the node that starts with the next event. -/
def node (refusal : Option YamlError) : Nat → List Event → Composer →
    Except YamlError (Node × List Event × Composer)
  | 0, _, _ => .error (.failure "yaml: document nested too deeply")
  | fuel + 1, events, c => do
    let e ← headEvent refusal events
    let rest := events.drop 1
    let c := { c with nodes := c.nodes + 1 }
    match e.kind with
    | .scalar anchor tag value plain =>
      let (reg, c) := c.register anchor
      let n := Node.scalar value tag plain e.start.line
      pure (n, rest, c.finish reg n)
    | .alias name =>
      match c.anchors.lookup name with
      | none => .error (.failure ("yaml: unknown anchor '" ++ name ++ "' referenced"))
      | some r => pure (.alias name c.aliases r e.start.line, rest, { c with aliases := c.aliases + 1 })
    | .sequenceStart anchor _ =>
      let (reg, c) := c.register anchor
      let (items, rest, c) ← sequenceItems refusal fuel rest c
      let n := Node.sequence items e.start.line
      pure (n, rest, c.finish reg n)
    | .mappingStart anchor _ =>
      let (reg, c) := c.register anchor
      let (entries, rest, c) ← mappingEntries refusal fuel rest c
      let n := Node.mapping entries e.start.line
      pure (n, rest, c.finish reg n)
    | _ => .error (.failure "yaml: attempted to parse unknown event")

/-- Builds the items of a sequence up to its end event, which it consumes. -/
def sequenceItems (refusal : Option YamlError) : Nat → List Event → Composer →
    Except YamlError (List Node × List Event × Composer)
  | 0, _, _ => .error (.failure "yaml: document nested too deeply")
  | fuel + 1, events, c => do
    let e ← headEvent refusal events
    if endsSequence e then return ([], events.drop 1, c)
    let (n, rest, c) ← node refusal fuel events c
    let (items, rest, c) ← sequenceItems refusal fuel rest c
    pure (n :: items, rest, c)

/-- Builds the entries of a mapping up to its end event, which it consumes. -/
def mappingEntries (refusal : Option YamlError) : Nat → List Event → Composer →
    Except YamlError (List (Node × Node) × List Event × Composer)
  | 0, _, _ => .error (.failure "yaml: document nested too deeply")
  | fuel + 1, events, c => do
    let e ← headEvent refusal events
    if endsMapping e then return ([], events.drop 1, c)
    let (k, rest, c) ← node refusal fuel events c
    let (v, rest, c) ← node refusal fuel rest c
    let (entries, rest, c) ← mappingEntries refusal fuel rest c
    pure ((k, v) :: entries, rest, c)

end

/-- Composes the first document from the events of a stream; `none` for a stream without
documents. -/
def compose (events : List Event) (refusal : Option YamlError) :
    Except YamlError (Option Document) := do
  let e ← headEvent refusal events
  match e.kind with
  | .streamStart => pure ()
  | _ => throw (.failure "yaml: expected STREAM-START")
  let events := events.drop 1
  let e ← headEvent refusal events
  match e.kind with
  | .streamEnd => return none
  | .documentStart =>
    let (root, rest, c) ← node refusal (2 * events.length + 2) (events.drop 1) {}
    let _ ← headEvent refusal rest
    return some { root, anchored := c.anchored, size := c.nodes }
  | _ => throw (.failure "yaml: attempted to parse unknown event")

/-- Reads the first document of a text by the rules of a dialect. -/
def read (dialect : Dialect) (text : String) : Except YamlError (Option Document) :=
  let (tokens, scanRefusal) := Token.scan dialect (Source.ofString text)
  let (events, refusal) := Event.firstDocument tokens scanRefusal
  compose events refusal

end Document

end SigmaQuery.Yaml
