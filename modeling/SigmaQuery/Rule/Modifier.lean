/-!
# Comparison modifiers

How a selection compares a field with its values: for equality, as a substring, as a prefix,
as a suffix, as an IPv4 network, or as a regular expression. A modifier is also addressed by
its number (`0` for equality up to `5` for regular expressions); other numbers name no
comparison and print as `modifier(N)`.

Source: `TextPatternModifier` and its `String` method, `src/pattern.go:9–38`.
-/

namespace SigmaQuery

/-- How a selection compares a field with its values.
`TextPatternModifier`, `src/pattern.go:9–19`. -/
inductive Modifier where
  /-- The field equals a value. -/
  | equals
  /-- The field contains a value. -/
  | contains
  /-- The field starts with a value. -/
  | startsWith
  /-- The field ends with a value. -/
  | endsWith
  /-- The field is an address of a network. -/
  | cidr
  /-- The field matches a regular expression. -/
  | regex
  /-- A number that names no comparison. -/
  | unknown (code : Int)
  deriving DecidableEq, Repr, Inhabited

namespace Modifier

/-- The modifier with a given number. -/
def ofCode : Int → Modifier
  | 0 => .equals
  | 1 => .contains
  | 2 => .startsWith
  | 3 => .endsWith
  | 4 => .cidr
  | 5 => .regex
  | n => .unknown n

/-- The modifier with a given name, as it is written in a request. -/
def ofName? : String → Option Modifier
  | "equals" => some .equals
  | "contains" => some .contains
  | "startswith" => some .startsWith
  | "endswith" => some .endsWith
  | "cidr" => some .cidr
  | "re" => some .regex
  | _ => none

/-- The name of a modifier; a number that names no comparison prints as `modifier(N)`.
`TextPatternModifier.String`, `src/pattern.go:21–38`. -/
def name : Modifier → String
  | .equals => "equals"
  | .contains => "contains"
  | .startsWith => "startswith"
  | .endsWith => "endswith"
  | .cidr => "cidr"
  | .regex => "re"
  | .unknown n => "modifier(" ++ toString n ++ ")"

example : (ofCode 42).name = "modifier(42)" := by decide +kernel
example : (ofCode (-1)).name = "modifier(-1)" := by decide +kernel

end Modifier

end SigmaQuery
