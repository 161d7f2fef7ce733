import SigmaQuery.Cli.ConfigFile
import SigmaQuery.Cli.Convert
import SigmaQuery.Cli.Report
import SigmaQuery.Cli.Tool
/-!
# Invocations

An invocation of the program is its arguments, its environment and its files. Running it
finds the command the arguments address and reads that command's flags. A command line that
addresses no command, or whose flags cannot be read, is refused: the reason goes to both
streams, with a pointer to help or the command's usage, and the program ends with status 1.
A command line that asks for help, or addresses a command that only holds others, shows the
command's help.

Otherwise the run is set up before the command runs: the configuration file is read (the
one the `--config` flag names, or `.go-sigma-datadog` with a known extension in the home
directory), and announced on standard error when it could be read; a configuration file that
cannot be read is passed over in silence. Then the logger is set: `--quiet` logs errors
only, else `--debug` logs everything, else the logger logs from `info` up.

The outcome of a run is its status, what it wrote to each stream, and the files it created
or changed.

Source: `Execute`, `initConfig` and `initLogging` of `src/cmd/root.go:31–99`, over
`Command.ExecuteC` of the cobra package.
-/

namespace SigmaQuery.Cli

open Files Run

/-- A run of the program: its arguments, environment and files. -/
structure Invocation where
  args : List String
  env : List (String × String)
  volume : Volume
  deriving Repr, Inhabited

/-- What a run of the program leaves: its exit status, what it wrote to standard output and
standard error, and the files it created or changed, with their contents. -/
structure Outcome where
  status : Nat
  stdout : Text.Bytes
  stderr : String
  written : List (String × Text.Bytes)
  deriving Repr, Inhabited

/-- The extension of a path: from its last point after its last slash, without the point. -/
def extensionOf (path : String) : String :=
  let name := (path.splitOn "/").getLast?.getD path
  match name.splitOn "." with
  | [_] | [] => ""
  | ps => ps.getLast?.getD ""

/-- The configuration file to read: the one named, or the first with a known extension in
the home directory.
`initConfig`, `src/cmd/root.go:63–79`, and the file search of `viper.ReadInConfig`. -/
def configPath (v : Volume) (env : List (String × String)) (named : String) : Option String :=
  if !named.isEmpty then some named
  else
    match env.lookup "HOME" with
    | none | some "" => none
    | some home =>
      let dir := v.absolute home
      (configExtensions.map fun ext => join dir (configName ++ "." ++ ext)).find? fun p =>
        match v.lookup p with
        | .ok .dir => false
        | .ok _ => true
        | .error _ => false

/-- The table of the configuration file, announcing the file when it could be read.
`src/cmd/root.go:80–85`. -/
def loadConfig (env : List (String × String)) (named : String) :
    Run (List (String × Setting)) := do
  let v ← volume
  match configPath v env named with
  | none => pure []
  | some path =>
    match ConfigFormat.ofExtension? (extensionOf path) with
    | none => pure []
    | some format =>
      match Ruleset.readFile v path with
      | .error _ => pure []
      | .ok text =>
        match format.read env text with
        | .error _ => pure []
        | .ok table =>
          complain ("Using config file: " ++ path ++ "\n")
          pure table

/-- The text value of a flag read from a command line, or its default. -/
def flagText (r : FlagReading) (name : String) : String :=
  match r.get? name with
  | some (.text s) => s
  | _ => ""

/-- Whether a truth flag was set on a command line. -/
def flagSet (r : FlagReading) (name : String) : Bool :=
  r.get? name == some (.boolean true)

/-- The sources of settings for a run: the flags given, the environment, the configuration
file and the flags' defaults. -/
def sourcesOf (r : FlagReading) (env : List (String × String)) (config : List (String × Setting)) :
    Sources :=
  let known := tool.commands.flatMap fun c => c.flags ++ c.shared
  { given := bindings.filterMap fun (key, name) => (r.get? name).map (key, ·),
    env, config,
    defaults := bindings.filterMap fun (key, name) => (findFlag known name).map fun f => (key, f.default) }

/-- Shows help for the command the arguments of `help` address, or the program's usage when
they address none. -/
def helpTopic (args : List String) : Run Unit := do
  let (c, _, fault) := tool.find args
  match fault with
  | some _ =>
    complain ("Unknown help topic [" ++ " ".intercalate (args.map Text.quoteRaw) ++ "]\n")
    complain (tool.usage tool.top false)
  | none => say (tool.help c)

/-- Runs the command a command line addresses.
`Command.ExecuteC` of the cobra package, with `initConfig` and `initLogging` of
`src/cmd/root.go:63–99` run before the command. -/
def execute (env : List (String × String)) (args : List String) : Run Unit := do
  let (c, rest, fault) := tool.find args
  if let some msg := fault then
    complain ("Error: " ++ msg ++ "\n")
    complain ("Run '" ++ tool.commandPath c ++ " --help' for usage.\n")
    say (msg ++ "\n")
    throw ()
  match readFlags (tool.flagsOf c true) rest with
  | .error e =>
    complain ("Error: " ++ e.message ++ "\n")
    complain (tool.usage c true ++ "\n")
    say (e.message ++ "\n")
    throw ()
  | .ok r =>
    if flagSet r "help" || !c.runnable then
      say (tool.help c)
      return
    let config ← loadConfig env (flagText r "config")
    let threshold := if flagSet r "quiet" then Level.error else if flagSet r "debug" then .trace else .info
    modify fun st => { st with threshold }
    let src := sourcesOf r env config
    match c.path with
    | ["convert"] => convert src r.args
    | ["parse"] => report src
    | ["help"] => helpTopic r.args
    | _ => pure ()

/-- Runs the program.
`Execute`, `src/cmd/root.go:33–38`. -/
def Invocation.run (inv : Invocation) : Outcome :=
  let (result, st) := (execute inv.env inv.args).run { volume := inv.volume } |>.run
  { status := if result.isOk then 0 else 1, stdout := st.out, stderr := st.err,
    written := Volume.changes inv.volume st.volume }

end SigmaQuery.Cli
