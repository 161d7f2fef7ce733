import SigmaQuery.Yaml.Source

/-!
# Why a YAML stream is refused

A stream is refused by the reader (a character that is not allowed), by the scanner (text
that forms no token), by the parser (tokens in an order the grammar does not allow), or later,
while a document is composed and decoded.

Messages name the line of the problem. A scanner counts lines from one; a parser names the
zero-based line of the token it stopped at. Either falls back to the line of the context
when the problem is on the first line, and a message names no line when both are zero.

Source: the error texts of the yaml.v2 and yaml.v3 packages.
-/

namespace SigmaQuery.Yaml

/-- A reason to refuse a YAML stream. -/
inductive YamlError where
  /-- A block of the input holds a character that is not allowed. -/
  | reader (problem : String)
  /-- Text that forms no token, at `problemAt`, inside the construct that starts at `context`. -/
  | scanner (problem : String) (problemAt context : Mark)
  /-- Tokens out of grammar order, at `problemAt`, inside the construct that starts at `context`. -/
  | parser (problem : String) (problemAt context : Mark)
  /-- A failure after parsing, with its full message. -/
  | failure (message : String)
  deriving Repr, Inhabited

namespace YamlError

/-- The text of a refusal. -/
def message : YamlError → String
  | .reader problem => "yaml: " ++ problem
  | .scanner problem problemAt context =>
    let line := if problemAt.line != 0 then problemAt.line + 1 else context.line
    "yaml: " ++ (if line != 0 then "line " ++ toString line ++ ": " else "") ++ problem
  | .parser problem problemAt context =>
    let line := if problemAt.line != 0 then problemAt.line else context.line
    "yaml: " ++ (if line != 0 then "line " ++ toString line ++ ": " else "") ++ problem
  | .failure message => message

example : (YamlError.parser "did not find expected key" { line := 5 } {}).message =
    "yaml: line 5: did not find expected key" := by decide +kernel
example : (YamlError.scanner "mapping values are not allowed in this context"
    { line := 1 } {}).message =
    "yaml: line 2: mapping values are not allowed in this context" := by decide +kernel

end YamlError

end SigmaQuery.Yaml
