import SigmaQuery.Rule.Modifier
import SigmaQuery.Text.Utf8

/-!
# Condition trees

The detection logic of a rule as a tree: conjunctions and disjunctions of any number of
branches, negations, and selections that compare one field with a list of values, any of
which may match. A selection with the empty field is a keyword selection: its values are
looked for in the whole event. A field name is kept as bytes, since a binary key need not be
UTF-8 and the name is written into queries as it is. A tree given from outside may also hold a missing branch.

`Condition.walk` lists the nodes of a tree in depth-first order, parents before children,
descending only below the nodes a test accepts; missing branches are not listed.

Source: `src/sigma.go:3–35` and `src/nodes.go:3–63`.
-/

namespace SigmaQuery

/-- A comparison of one field with values, any of which may match; the empty field stands for
the whole event.
`Selection` and `ValueMatch`, `src/sigma.go:10–22`. -/
structure Selection where
  /-- The field compared, empty for a keyword selection. -/
  field : Text.Bytes
  /-- How the field is compared with each value. -/
  modifier : Modifier
  /-- The values, joined by disjunction. -/
  values : List String
  deriving Repr, Inhabited, DecidableEq

namespace Selection

/-- Whether a selection looks for its values in the whole event.
`Selection.Keyword`, `src/sigma.go:27`. -/
def keyword (s : Selection) : Bool := s.field.isEmpty

end Selection

/-- The detection logic of a rule. -/
inductive Condition where
  /-- All branches hold. -/
  | and (items : List Condition)
  /-- Some branch holds. -/
  | or (items : List Condition)
  /-- The branch does not hold. -/
  | not (operand : Condition)
  /-- A selection holds. -/
  | select (s : Selection)
  /-- No branch at all. -/
  | missing
  deriving Repr, Inhabited

namespace Condition

/-- The conjunction of branches; one branch stands for itself.
`NodeAnd.Reduce`, `src/nodes.go:10–15`. -/
def allOf : List Condition → Condition
  | [c] => c
  | cs => .and cs

/-- The disjunction of branches; one branch stands for itself.
`NodeOr.Reduce`, `src/nodes.go:24–29`. -/
def anyOf : List Condition → Condition
  | [c] => c
  | cs => .or cs

/-- The name of a node's kind: `and`, `or`, `not` or `sel`. -/
def kind : Condition → String
  | .and _ => "and"
  | .or _ => "or"
  | .not _ => "not"
  | .select _ => "sel"
  | .missing => "nil"

mutual

/-- The nodes of a tree in depth-first order, parents first; the children of a node are
visited only when `descend` accepts the node.
`Walk`, `src/nodes.go:47–63`. -/
def walk (descend : Condition → Bool) : Condition → List Condition
  | .missing => []
  | c@(.and items) => c :: (if descend c then walkAll descend items else [])
  | c@(.or items) => c :: (if descend c then walkAll descend items else [])
  | c@(.not operand) => c :: (if descend c then walk descend operand else [])
  | c@(.select _) => [c]

/-- The nodes of several trees in depth-first order. -/
def walkAll (descend : Condition → Bool) : List Condition → List Condition
  | [] => []
  | c :: rest => walk descend c ++ walkAll descend rest

end

/-- Whether a node is not a negation. -/
def notNegation : Condition → Bool
  | .not _ => false
  | _ => true

example : ((Condition.not (.select ⟨Text.utf8 "a", .equals, ["b"]⟩)).walk notNegation).map kind =
    ["not"] :=
  by decide +kernel

end Condition

end SigmaQuery
