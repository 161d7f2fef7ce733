import SigmaQuery.Query.Term
import SigmaQuery.Rule.Condition
import SigmaQuery.Text.Utf8

/-!
# Compiling condition trees into queries

A condition tree becomes one log search query. A selection becomes its terms, each prefixed
with `@field:` (the field renamed by the field mapping, then escaped) unless it is a keyword
selection, and joined by ` OR `. Conjunctions join their branches with ` AND `, disjunctions
with ` OR `, and a negation writes `NOT ` before its operand; a group of one branch is that
branch.

Parentheses are written only where needed: every part of a query has a binding strength (or
below and, and below not, and a single term binds tightest), and a part is parenthesised
when it binds less tightly than the operator it stands under.

A query is made of bytes, because field names keep the bytes of the rule text, which need not
be UTF-8.

Source: `Compiler` and its methods, `src/pkg/datadog/compiler.go:11–125`.
-/

namespace SigmaQuery.Query

/-- How tightly a part of a query binds.
The precedences `precOr`, `precAnd`, `precNot` and `precAtom`,
`src/pkg/datadog/compiler.go:11–17`. -/
inductive Strength where
  /-- A disjunction, or a selection with several terms. -/
  | disjunction
  /-- A conjunction. -/
  | conjunction
  /-- A negation. -/
  | negation
  /-- A single term. -/
  | term
  deriving DecidableEq, Repr

namespace Strength

/-- The rank of a strength: higher binds tighter. -/
def rank : Strength → Nat
  | .disjunction => 1
  | .conjunction => 2
  | .negation => 3
  | .term => 4

end Strength

/-- A part of a query, parenthesised when it binds less tightly than the operator above it.
`wrap`, `src/pkg/datadog/compiler.go:120–125`. -/
def wrap (text : Text.Bytes) (inner outer : Strength) : Text.Bytes :=
  if inner.rank < outer.rank then Text.utf8 "(" ++ text ++ Text.utf8 ")" else text

/-- The settings of compilation: how fields are renamed.
`Compiler`, `src/pkg/datadog/compiler.go:25–30`. -/
structure Compiler where
  /-- Field renamings; an empty new name leaves the field as it is. -/
  fieldMapping : List (String × String) := []
  deriving Repr, Inhabited

namespace Compiler

/-- The name a field is written with.
`Compiler.field`, `src/pkg/datadog/compiler.go:113–118`. -/
def field (c : Compiler) (name : Text.Bytes) : Text.Bytes :=
  match c.fieldMapping.find? (fun (k, _) => Text.utf8 k == name) with
  | some (_, mapped) => if mapped == "" then name else Text.utf8 mapped
  | none => name

/-- The terms of a selection, each with the field prefix.
The term loop of `Compiler.selection`, `src/pkg/datadog/compiler.go:99–106`. -/
def terms (pfx : Text.Bytes) (m : Modifier) : List String → Except RuleError (List Text.Bytes)
  | [] => .ok []
  | v :: rest => do
    let t ← term m v
    let ts ← terms pfx m rest
    pure ((pfx ++ Text.utf8 t) :: ts)

/-- What each term of a selection starts with: `@`, the written field name escaped, and `:`; a
keyword selection has no prefix. -/
def fieldPrefix (c : Compiler) (s : Selection) : Text.Bytes :=
  if s.keyword then [] else Text.utf8 "@" ++ escapeField (c.field s.field) ++ Text.utf8 ":"

/-- The query part of a selection.
`Compiler.selection`, `src/pkg/datadog/compiler.go:89–111`. -/
def selection (c : Compiler) (s : Selection) : Except RuleError (Text.Bytes × Strength) := do
  if s.values.isEmpty then
    throw (.malformed "" ("selection on field " ++ Text.quoteBytes s.field ++ " has no values"))
  match ← terms (c.fieldPrefix s) s.modifier s.values with
  | [t] => pure (t, .term)
  | ts => pure ((Text.utf8 " OR ").intercalate ts, .disjunction)

mutual

/-- The query part of a tree and how tightly it binds.
`Compiler.lower`, `src/pkg/datadog/compiler.go:42–66`. -/
def lower (c : Compiler) : Condition → Except RuleError (Text.Bytes × Strength)
  | .select s => c.selection s
  | .and items => c.group .conjunction "and" items
  | .or items => c.group .disjunction "or" items
  | .not .missing => .error (.malformed "" "negation without operand")
  | .not operand => do
    let (inner, strength) ← c.lower operand
    pure (Text.utf8 "NOT " ++ wrap inner strength .negation, .negation)
  | .missing => .error (.malformed "" "missing condition node")

/-- The query part of a group of branches joined by an operator.
`Compiler.group`, `src/pkg/datadog/compiler.go:68–87`. -/
def group (c : Compiler) (strength : Strength) (op : String) :
    List Condition → Except RuleError (Text.Bytes × Strength)
  | [] => .error (.malformed "" ("empty " ++ op ++ " group"))
  | [child] => c.lower child
  | children => do
    let parts ← c.parts strength children
    pure ((Text.utf8 (" " ++ String.map Char.toUpper op ++ " ")).intercalate parts, strength)

/-- The query parts of branches under an operator, each wrapped as needed. -/
def parts (c : Compiler) (outer : Strength) : List Condition → Except RuleError (List Text.Bytes)
  | [] => .ok []
  | child :: rest => do
    let (text, strength) ← c.lower child
    let more ← c.parts outer rest
    pure (wrap text strength outer :: more)

end

/-- The query of a condition tree.
`Compiler.Compile`, `src/pkg/datadog/compiler.go:32–40`. -/
def compile (c : Compiler) (cond : Condition) : Except RuleError Text.Bytes :=
  (·.1) <$> c.lower cond

example : (match ({} : Compiler).selection ⟨[0x61, 0x80], .equals, ["b"]⟩ with
    | .ok q => q.1
    | .error _ => []) = [0x40, 0x61, 0x80, 0x3A, 0x62] := by decide +kernel

end Compiler

end SigmaQuery.Query
