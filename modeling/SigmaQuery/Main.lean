import SigmaQuery.Cli.Invocation
/-!
# The command line

Runs the converter on the real file system. The files the program may read are gathered
into a volume first: the tree of the working directory, the tree of every path that an
argument or a setting from the environment names, and the configuration files of the home
directory. The run itself is pure; afterwards its
output is printed, the files it created or changed are written, and the program exits with
its status.

Source: `main` of `src/cmd/sigma-datadog/main.go:20–22`.
-/

section

open SigmaQuery Cli Files

/-- Adds the tree at a path to a volume: a file with its bytes, a directory with everything
below it. What cannot be read is left out. -/
partial def gather (v : Volume) (path : String) : IO Volume := do
  let p := System.mkFilePath [path]
  if ← p.isDir then
    let v := { v with dirs := v.dirs ++ [path] }
    let entries ← (p.readDir : IO _) <|> pure #[]
    entries.foldlM (fun v e => gather v e.path.toString) v
  else if ← p.pathExists then
    match ← (IO.FS.readBinFile p).toBaseIO with
    | .ok content => pure { v with files := v.files ++ [(path, content.toList)] }
    | .error _ => pure v
  else pure v

/-- The paths an argument may name: itself, the part after an equals sign, and the parts
between commas. -/
def candidates (arg : String) : List String :=
  let value := match arg.splitOn "=" with
    | _ :: rest@(_ :: _) => "=".intercalate rest
    | _ => arg
  (arg :: value :: value.splitOn ",").filter (!·.isEmpty)

def main (args : List String) : IO UInt32 := do
  let cwd := (← IO.currentDir).toString
  let mut env : List (String × String) := []
  for name in environmentNames do
    if let some value ← IO.getEnv name then env := env ++ [(name, value)]
  let base : Volume := { cwd, devices := [("/dev/null", .null), ("/dev/full", .full)] }
  let mut v ← gather base cwd
  let homeConfigs := match env.lookup "HOME" with
    | some home => configExtensions.map fun ext => home ++ "/" ++ configName ++ "." ++ ext
    | none => []
  let settingValues := (env.filter (·.1 != "HOME")).flatMap fun (_, value) => candidates value
  let wanted := (args.flatMap candidates ++ settingValues ++ homeConfigs).eraseDups
  for path in wanted do
    let abs := v.absolute path
    if !(v.files.any (·.1 == abs)) && !abs.startsWith (cwd ++ "/") && abs != "/" then
      v ← gather v abs
  let o := Invocation.run { args, env, volume := v }
  for (path, content) in o.written do
    IO.FS.writeBinFile (System.mkFilePath [path]) content.toByteArray
  (← IO.getStdout).write o.stdout.toByteArray
  IO.eprint o.stderr
  pure o.status.toUInt32

end
