import SigmaQuery.Rule.Error
import SigmaQuery.Text.Utf8

/-!
# Placeholders

A selection with the `expand` modifier names lists of values by placeholder: the value
`%name%` stands for every value defined under `name` (or under `%name%`, which is looked up
first). A value not wrapped in percent signs stands for itself. A placeholder that is not
defined, or is defined with no values, refuses the selection; so does every placeholder when
no definitions are given at all.

Source: `src/placeholders.go:11–89`.
-/

namespace SigmaQuery

/-- Definitions of placeholders: each name with its values. Names are distinct.
`Placeholders`, `src/placeholders.go:16–19`. -/
structure Placeholders where
  entries : List (String × List String) := []
  deriving Repr, Inhabited

namespace Placeholders

/-- The number of defined placeholders.
`Placeholders.Len`, `src/placeholders.go:52–57`. -/
def size (p : Placeholders) : Nat := p.entries.length

/-- The values defined under a name. -/
def find? (p : Placeholders) (name : String) : Option (List String) := p.entries.lookup name

/-- Defines a name, replacing an earlier definition in its place. -/
def insert (p : Placeholders) (name : String) (values : List String) : Placeholders :=
  if p.entries.any (·.1 == name) then
    { entries := p.entries.map fun (k, v) => if k == name then (k, values) else (k, v) }
  else { entries := p.entries ++ [(name, values)] }

/-- Definitions from a list of names and values; a later definition of a name wins. -/
def ofList (defs : List (String × List String)) : Placeholders :=
  defs.foldl (fun p (k, v) => p.insert k v) {}

/-- The values a single value stands for.
`Placeholders.expand`, `src/placeholders.go:73–89`. -/
def expand (p : Option Placeholders) (value : String) : Except RuleError (List String) :=
  if Text.byteLength value < 3 || !value.startsWith "%" || !value.endsWith "%" then .ok [value]
  else
    let inner := String.ofList ((value.toList.drop 1).dropLast)
    let found := match p with
      | none => none
      | some p =>
        match p.find? value with
        | some (v :: vs) => some (v :: vs)
        | _ =>
          match p.find? inner with
          | some (v :: vs) => some (v :: vs)
          | _ => none
    match found with
    | some vs => .ok vs
    | none => .error (.unsupportedFeature "" "placeholder" (value ++ " is not defined"))

/-- The values several values stand for, in order.
`Placeholders.expandAll`, `src/placeholders.go:59–69`. -/
def expandAll (p : Option Placeholders) : List String → Except RuleError (List String)
  | [] => .ok []
  | v :: rest => do
    let vs ← expand p v
    let more ← expandAll p rest
    pure (vs ++ more)

end Placeholders

end SigmaQuery
