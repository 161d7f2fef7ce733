import SigmaQuery.Text.Utf8
/-!
# Volumes

A volume is a read-write snapshot of a directory tree: the files with their contents, the
directories that exist even when they hold nothing, and device files. A directory also exists
when something lies below it, and `/` always exists. Relative paths start from the volume's
working directory.

Paths are cleaned lexically before use (`clean`): repeated separators and `.` parts are
dropped, and `..` removes the part before it. Looking up a path that does not exist is refused
as a missing file, or as "not a directory" when a file stands where a directory of the path
should be, or when a path that ends in `/` names something other than a directory.
`children` lists the names inside a directory in byte order.

Source: the file system that `os.ReadFile` in `src/rule.go:190`, `os.Stat` in
`src/ruleset.go:29`, `filepath.Walk` in `src/rule.go:243` and `os.Create` in
`src/cmd/convert.go:67` see.
-/

namespace SigmaQuery.Files

/-- The pieces of a text between slashes. -/
def splitSlash : List Char → List (List Char)
  | [] => [[]]
  | c :: rest =>
    if c == '/' then [] :: splitSlash rest
    else match splitSlash rest with
      | l :: ls => (c :: l) :: ls
      | [] => [[c]]

/-- The nonempty parts of a path. -/
def parts (path : String) : List String :=
  ((splitSlash path.toList).filter (!·.isEmpty)).map String.ofList

/-- Drops `.` parts and resolves `..` parts against the parts before them; `acc` holds the
parts kept so far, last first. A `..` at the top of a rooted path is dropped. -/
def resolveParts (rooted : Bool) : List String → List String → List String
  | [], acc => acc
  | "." :: rest, acc => resolveParts rooted rest acc
  | ".." :: rest, acc =>
    match acc with
    | x :: xs => if x == ".." then resolveParts rooted rest (".." :: acc) else resolveParts rooted rest xs
    | [] => if rooted then resolveParts rooted rest [] else resolveParts rooted rest [".."]
  | p :: rest, acc => resolveParts rooted rest (p :: acc)

/-- The shortest path that names the same place, by lexical rules alone. -/
def clean (path : String) : String :=
  let rooted := path.startsWith "/"
  let body := "/".intercalate (resolveParts rooted (parts path) []).reverse
  if rooted then "/" ++ body else if body == "" then "." else body

/-- Joins two paths; an empty part is left out. -/
def join (a b : String) : String :=
  if a == "" then clean b else if b == "" then clean a else clean (a ++ "/" ++ b)

/-- A device file. -/
inductive Device where
  /-- Reads as empty and takes every write. -/
  | null
  /-- Reads as empty and refuses every write, having no space left. -/
  | full
  deriving Repr, Inhabited, DecidableEq

/-- What a path names in a volume. -/
inductive Entry where
  /-- A file with its content. -/
  | file (content : Text.Bytes)
  /-- A directory. -/
  | dir
  /-- A device file. -/
  | device (d : Device)
  deriving Repr, Inhabited, DecidableEq

/-- A directory tree: files by clean absolute path, directories that exist, device files, and
the directory relative paths start from. -/
structure Volume where
  files : List (String × Text.Bytes) := []
  dirs : List String := []
  devices : List (String × Device) := []
  cwd : String := "/"
  deriving Repr, Inhabited

namespace Volume

/-- Whether a path is below a directory. -/
def isBelow (dir path : String) : Bool :=
  if dir == "/" then path != "/" && path.startsWith "/" else path.startsWith (dir ++ "/")

/-- The clean absolute path a path names, relative paths starting from the working
directory. -/
def absolute (v : Volume) (path : String) : String :=
  if path.startsWith "/" then clean path else clean (v.cwd ++ "/" ++ path)

/-- What a clean absolute path names, if anything. -/
def entry? (v : Volume) (path : String) : Option Entry :=
  match v.files.lookup path, v.devices.lookup path with
  | some content, _ => some (.file content)
  | none, some d => some (.device d)
  | none, none =>
    if path == "/" || v.dirs.contains path || v.files.any (isBelow path ·.1) ||
        v.dirs.any (isBelow path ·) || v.devices.any (isBelow path ·.1) then some .dir
    else none

/-- The directories above a clean absolute path, nearest last. -/
def ancestors (path : String) : List String :=
  let ps := parts path
  (List.range ps.length).map fun n => "/" ++ "/".intercalate (ps.take n)

/-- What a path names, or why it cannot be looked up; the empty path names nothing. -/
def lookup (v : Volume) (path : String) : Except String Entry :=
  if path.isEmpty then .error "no such file or directory" else
  let dirOnly := path.endsWith "/" && clean path != "/"
  let path := v.absolute path
  match v.entry? path with
  | some .dir => .ok .dir
  | some e => if dirOnly then .error "not a directory" else .ok e
  | none =>
    if (ancestors path).any (fun a => a != "/" &&
        ((v.files.lookup a).isSome || (v.devices.lookup a).isSome)) then
      .error "not a directory"
    else .error "no such file or directory"

/-- Inserts a name into a list kept in byte order, without repeating it. -/
def insertName (name : String) : List String → List String
  | [] => [name]
  | n :: rest =>
    if name == n then n :: rest
    else if name < n then name :: n :: rest
    else n :: insertName name rest

/-- The names inside a directory, in byte order. -/
def children (v : Volume) (dir : String) : List String :=
  let dir := v.absolute dir
  let below := (v.files.map (·.1) ++ v.dirs ++ v.devices.map (·.1)).filter (isBelow dir)
  let names := below.filterMap fun p =>
    (parts (if dir == "/" then p else String.ofList (p.toList.drop (dir.length + 1)))).head?
  names.foldl (fun acc n => insertName n acc) []

/-- Writes a file, replacing its content if it exists. -/
def write (v : Volume) (path : String) (content : Text.Bytes) : Volume :=
  let path := v.absolute path
  if (v.files.lookup path).isSome then
    { v with files := v.files.map fun (p, c) => if p == path then (p, content) else (p, c) }
  else { v with files := v.files ++ [(path, content)] }

/-- A bound on the depth of the tree: the total length of its paths. -/
def depthBound (v : Volume) : Nat :=
  (v.files.map (·.1.length)).foldl (· + ·) 0 + (v.dirs.map String.length).foldl (· + ·) 0 +
    (v.devices.map (·.1.length)).foldl (· + ·) 0 + v.cwd.length + 2

/-- The files whose content differs from an earlier state of the volume, or that it did not
have, with their contents. -/
def changes (before after : Volume) : List (String × Text.Bytes) :=
  after.files.filter fun (p, c) => before.files.lookup p != some c

end Volume

example : clean "/a/./b/../c//d/" = "/a/c/d" := by decide +kernel
example : clean "../x/.." = ".." := by decide +kernel

end SigmaQuery.Files
