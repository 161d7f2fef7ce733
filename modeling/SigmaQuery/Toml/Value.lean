/-!
# TOML values and tables

A TOML document is a sequence of statements: table headers `[a.b]`, headers of arrays of
tables `[[a.b]]`, and pairs `key = value` whose key may be dotted. `build` assembles the
statements into one table, and refuses a document that defines anything twice:

* a pair whose key is already there;
* a header for a table that a header or a dotted key already defined, or for a name that holds
  a value;
* a dotted key that walks into a table a header defined, into an array of tables or into a
  value;
* a header of an array of tables for a name that holds something else.

A header may pass through any table, and through an array of tables into its last table. A
table named only on the way to a header may be defined by a later header, or extended by
dotted keys. Inline tables and arrays are values: nothing may be added to them later.

Source: the go-toml package, as `viper.ReadInConfig` in `initConfig` of `src/cmd/root.go:83`
reads a TOML file.
-/

namespace SigmaQuery.Toml

/-- A TOML value. -/
inductive Value where
  | str (s : String)
  | int (n : Int)
  /-- A float: its shortest text (`+Inf`, `-Inf` and `NaN` for the special values), its
  whole part and whether it is zero. -/
  | float (shown : String) (truncated : Int) (zero : Bool)
  | bool (b : Bool)
  /-- A date, a time, or both, by the text it is written back as. -/
  | datetime (text : String)
  | arr (items : List Value)
  /-- A table, entries in the order first written. -/
  | table (entries : List (String × Value))
  deriving Repr, Inhabited

/-- A statement of a TOML document. -/
inductive Statement where
  /-- A table header `[path]`. -/
  | header (path : List String)
  /-- A header `[[path]]` that starts a new table of an array of tables. -/
  | arrayHeader (path : List String)
  /-- A pair `key = value`, the key split at its dots. -/
  | pair (key : List String) (value : Value)
  deriving Repr, Inhabited

/-- How a table being built came to be. -/
inductive Origin where
  /-- Named on the way to a header. -/
  | implicit
  /-- Defined by a header. -/
  | header
  /-- Defined by a dotted key. -/
  | dotted
  deriving DecidableEq, Repr, Inhabited

/-- An entry of a table being built. -/
inductive Slot where
  /-- A value given by a pair; nothing can be added to it. -/
  | value (v : Value)
  /-- A table, with how it came to be. -/
  | table (origin : Origin) (entries : List (String × Slot))
  /-- An array of tables: the finished tables and the one that headers and pairs now fill. -/
  | tables (done : List (List (String × Slot))) (current : List (String × Slot))
  deriving Repr, Inhabited

/-- The entries of a table with the entry of a name replaced, or added at the end. -/
def put (es : List (String × Slot)) (k : String) (s : Slot) : List (String × Slot) :=
  if es.any (·.1 == k) then es.map fun (k', s') => if k' == k then (k', s) else (k', s')
  else es ++ [(k, s)]

/-- The entry of a name in a table. -/
def lookup (es : List (String × Slot)) (k : String) : Option Slot :=
  (es.find? (·.1 == k)).map (·.2)

/-- Changes the entries of the table at the end of a path with `f`. Each name on the way is
given to `enter`, which says what to walk into, creating it or refusing. -/
def updateAt (enter : String → Option Slot → Except String Slot)
    (f : List (String × Slot) → Except String (List (String × Slot))) :
    List String → List (String × Slot) → Except String (List (String × Slot))
  | [], es => f es
  | k :: rest, es => do
    let s ← enter k (lookup es k)
    let s' ← match s with
      | .table o inner => (updateAt enter f rest inner).map (.table o)
      | .tables done cur => (updateAt enter f rest cur).map (.tables done)
      | .value _ => .error ("toml: expected " ++ k ++ " to be a table")
    pure (put es k s')

/-- How a header walks: it names missing tables on the way, and refuses a value. -/
def enterForHeader (k : String) : Option Slot → Except String Slot
  | none => .ok (.table .implicit [])
  | some (.value _) => .error ("toml: expected " ++ k ++ " to be a table")
  | some s => .ok s

/-- How a dotted key walks: it defines missing tables, and enters only tables defined by
dotted keys or named on the way to a header. -/
def enterForDotted (k : String) : Option Slot → Except String Slot
  | none => .ok (.table .dotted [])
  | some (.table .header _) =>
    .error ("toml: cannot redefine table " ++ k ++ " that has already been explicitly defined")
  | some (.table o inner) => .ok (.table o inner)
  | some _ => .error ("toml: expected " ++ k ++ " to be a table")

/-- How a pair walks to the table of its section, which its header made. -/
def enterSection (k : String) : Option Slot → Except String Slot
  | some s => .ok s
  | none => .error ("toml: missing table " ++ k)

/-- Defines the table a header names. -/
def openTable (root : List (String × Slot)) (path : List String) :
    Except String (List (String × Slot)) :=
  match path.getLast? with
  | none => .error "toml: empty table key"
  | some last =>
    updateAt enterForHeader (fun es =>
      match lookup es last with
      | none => .ok (put es last (.table .header []))
      | some (.table .implicit inner) => .ok (put es last (.table .header inner))
      | some _ => .error ("toml: table " ++ last ++ " already exists")) path.dropLast root

/-- Starts a new table of the array of tables a header names. -/
def openArrayTable (root : List (String × Slot)) (path : List String) :
    Except String (List (String × Slot)) :=
  match path.getLast? with
  | none => .error "toml: empty table key"
  | some last =>
    updateAt enterForHeader (fun es =>
      match lookup es last with
      | none => .ok (put es last (.tables [] []))
      | some (.tables done cur) => .ok (put es last (.tables (done ++ [cur]) []))
      | some _ => .error ("toml: key " ++ last ++ " should be an array table")) path.dropLast root

/-- Adds a pair to the table of the section a header opened. -/
def addPair (root : List (String × Slot)) (place : List String) (key : List String)
    (v : Value) : Except String (List (String × Slot)) :=
  match key.getLast? with
  | none => .error "toml: empty key"
  | some last =>
    updateAt enterSection (fun es =>
      updateAt enterForDotted (fun inner =>
        match lookup inner last with
        | none => .ok (put inner last (.value v))
        | some _ => .error ("toml: key " ++ last ++ " is already defined")) key.dropLast es)
      place root

mutual

/-- The value a built entry stands for. -/
def Slot.toValue : Slot → Value
  | .value v => v
  | .table _ es => .table (entriesValue es)
  | .tables done cur => .arr (tablesValue done ++ [.table (entriesValue cur)])

/-- The values of built entries. -/
def entriesValue : List (String × Slot) → List (String × Value)
  | [] => []
  | (k, s) :: rest => (k, s.toValue) :: entriesValue rest

/-- The tables of an array of tables. -/
def tablesValue : List (List (String × Slot)) → List Value
  | [] => []
  | es :: rest => .table (entriesValue es) :: tablesValue rest

end

/-- Runs statements from a section on, onto the table built so far. -/
def runStatements : List Statement → List String → List (String × Slot) →
    Except String (List (String × Slot))
  | [], _, root => .ok root
  | .header p :: rest, _, root => do runStatements rest p (← openTable root p)
  | .arrayHeader p :: rest, _, root => do runStatements rest p (← openArrayTable root p)
  | .pair k v :: rest, place, root => do runStatements rest place (← addPair root place k v)

/-- The table that statements build, or why they define something twice. -/
def build (stmts : List Statement) : Except String (List (String × Value)) :=
  (runStatements stmts [] []).map entriesValue

example : (build [.pair ["a", "b"] (.int 1), .pair ["a", "c"] (.int 2)]).toOption.isSome = true := by
  decide +kernel
example : (build [.pair ["a"] (.int 1), .pair ["a"] (.int 2)]).toOption.isSome = false := by
  decide +kernel
example : (build [.header ["x", "y"], .header ["x"], .header ["x", "y"]]).toOption.isSome = false := by
  decide +kernel
example : (build [.arrayHeader ["t"], .pair ["a"] (.int 1), .arrayHeader ["t"],
    .pair ["a"] (.int 2)]).toOption.isSome = true := by decide +kernel

end SigmaQuery.Toml
