import SigmaQuery.Cli.Log
import SigmaQuery.Files.Volume
/-!
# Sessions

A run of the program is a computation over a session: what it has written to standard output
and standard error, its volume of files, and the level its logger is set to. A run may stop
early, which ends the program with status 1; what it wrote until then stays.

Output goes to standard output, to a file, or to a device. Opening a file for output creates
it, or empties it when it exists; its directory must exist. Writing to a full device fails
as soon as there is something to write.

Source: `create` of `src/cmd/convert.go:61–68`, the `bufio.Writer` of
`src/cmd/convert.go:157–163`, and `logrus.Fatal`, which ends the program with status 1.
-/

namespace SigmaQuery.Cli

open Files

/-- The state of a run of the program. -/
structure Session where
  volume : Volume
  out : Text.Bytes := []
  err : String := ""
  threshold : Level := .info
  deriving Repr, Inhabited

/-- A step of a run; throwing stops the program with status 1. -/
abbrev Run := ExceptT Unit (StateM Session)

namespace Run

/-- Writes bytes to standard output. -/
def put (b : Text.Bytes) : Run Unit := modify fun st => { st with out := st.out ++ b }

/-- Writes a text to standard output. -/
def say (s : String) : Run Unit := put (Text.utf8 s)

/-- Writes to standard error. -/
def complain (s : String) : Run Unit := modify fun st => { st with err := st.err ++ s }

/-- Logs an entry with fields, when the logger's level admits it. -/
def logWith (level : Level) (message : String) (fields : List (String × Text.Bytes)) : Run Unit :=
  modify fun st =>
    if st.threshold.admits level then { st with err := st.err ++ (LogEntry.line { level, message, fields }) }
    else st

/-- Logs an entry, when the logger's level admits it. -/
def log (level : Level) (message : String) : Run Unit := logWith level message []

/-- Logs a fatal entry and stops. -/
def fatal {α : Type} (message : String) : Run α := do
  log .fatal message
  throw ()

/-- The volume of files. -/
def volume : Run Volume := return (← get).volume

end Run

/-- Where output goes. -/
inductive Target where
  | stdout
  /-- A file, by the path it was opened with. -/
  | file (path : String)
  /-- A device, by the path it was opened with. -/
  | device (path : String) (d : Device)
  deriving Repr, Inhabited

namespace Target

/-- The directory part of a clean absolute path. -/
def parentOf (path : String) : String :=
  "/" ++ "/".intercalate (parts path).dropLast

/-- Opens a path for output: an empty path or `-` is standard output. Gives the target, or
why the path cannot be opened. -/
def openFor (v : Volume) (path : String) : Except String (Target × Volume) :=
  if path == "" || path == "-" then .ok (.stdout, v)
  else
    let fault := fun (e : String) => Except.error ("open " ++ path ++ ": " ++ e)
    match v.lookup path with
    | .ok .dir => fault "is a directory"
    | .ok (.device d) => .ok (.device path d, v)
    | .ok (.file _) => .ok (.file path, v.write path [])
    | .error "not a directory" => fault "not a directory"
    | .error e =>
      if path.endsWith "/" then fault "is a directory"
      else
        match v.lookup (parentOf (v.absolute path)) with
        | .ok .dir => .ok (.file path, v.write path [])
        | .ok _ => fault "not a directory"
        | .error _ => fault e

end Target

namespace Run

/-- Opens a path for output, stopping with the reason when it cannot be opened. -/
def openOutput (path : String) : Run Target := do
  match Target.openFor (← volume) path with
  | .ok (t, v) =>
    modify fun st => { st with volume := v }
    pure t
  | .error e => fatal e

/-- Writes all of some bytes to a target, stopping when the target refuses them. -/
def emit (t : Target) (text : Text.Bytes) : Run Unit := do
  match t with
  | .stdout => put text
  | .file path => modify fun st => { st with volume := st.volume.write path text }
  | .device _ .null => pure ()
  | .device path .full =>
    if text.isEmpty then pure () else fatal ("write " ++ path ++ ": no space left on device")

end Run

end SigmaQuery.Cli
