import SigmaQuery.Yaml.Source

/-!
# YAML tokens

The scanner turns a stream into tokens: markers of structure (the start and end of the
stream, of documents, of block and flow collections), indicators (`-`, `?`, `:`, `,`),
properties (anchors, aliases, tags), directives and scalars. Block collections have no
written start: the scanner adds their start and end tokens from the indentation, and adds a
key token in front of a simple key once it sees the `:` that follows it.

Source: the scanner of the yaml.v2 and yaml.v3 packages.
-/

namespace SigmaQuery.Yaml

/-- How a scalar is written. -/
inductive ScalarStyle where
  | plain
  | singleQuoted
  | doubleQuoted
  | literal
  | folded
  deriving Repr, Inhabited, DecidableEq

/-- What a token is, with its data. -/
inductive TokenKind where
  | streamStart
  | streamEnd
  /-- `%YAML major.minor`. -/
  | versionDirective (major minor : Nat)
  /-- `%TAG handle prefix`. -/
  | tagDirective (handle pfx : String)
  | documentStart
  | documentEnd
  | blockSequenceStart
  | blockMappingStart
  | blockEnd
  | flowSequenceStart
  | flowSequenceEnd
  | flowMappingStart
  | flowMappingEnd
  | blockEntry
  | flowEntry
  | key
  | value
  /-- `*name`. -/
  | alias (name : String)
  /-- `&name`. -/
  | anchor (name : String)
  /-- `!handle!suffix`, `!suffix` or `!<uri>`. -/
  | tag (handle suffix : String)
  /-- A scalar with its content. -/
  | scalar (content : String) (style : ScalarStyle)
  deriving Repr, Inhabited

/-- A token and where it starts and ends. -/
structure Token where
  kind : TokenKind
  start : Mark
  stop : Mark
  deriving Repr, Inhabited

namespace TokenKind

/-- Whether the token is the block entry indicator `-`. -/
def isBlockEntry : TokenKind → Bool
  | .blockEntry => true
  | _ => false

/-- Whether the token is a key indicator. -/
def isKey : TokenKind → Bool
  | .key => true
  | _ => false

/-- Whether the token is a value indicator. -/
def isValue : TokenKind → Bool
  | .value => true
  | _ => false

/-- Whether the token closes a block collection. -/
def isBlockEnd : TokenKind → Bool
  | .blockEnd => true
  | _ => false

/-- Whether the token is the flow entry indicator `,`. -/
def isFlowEntry : TokenKind → Bool
  | .flowEntry => true
  | _ => false

/-- Whether the token closes a flow sequence. -/
def isFlowSequenceEnd : TokenKind → Bool
  | .flowSequenceEnd => true
  | _ => false

/-- Whether the token closes a flow mapping. -/
def isFlowMappingEnd : TokenKind → Bool
  | .flowMappingEnd => true
  | _ => false

/-- Whether the token is a directive. -/
def isDirective : TokenKind → Bool
  | .versionDirective .. => true
  | .tagDirective .. => true
  | _ => false

/-- Whether the token starts a document. -/
def isDocumentStart : TokenKind → Bool
  | .documentStart => true
  | _ => false

/-- Whether the token ends a document. -/
def isDocumentEnd : TokenKind → Bool
  | .documentEnd => true
  | _ => false

/-- Whether the token ends the stream. -/
def isStreamEnd : TokenKind → Bool
  | .streamEnd => true
  | _ => false

end TokenKind

end SigmaQuery.Yaml
