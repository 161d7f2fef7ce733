import SigmaQuery.Cli.Command
/-!
# The converter's commands

The command line of the converter: `convert` turns rules into queries or rule documents,
`parse` reports how well a rule set is supported, `help` shows help, and `completion` holds
the commands that write shell completion scripts. Flags of the program itself choose the
configuration file, how much is logged, and where rules are found; `convert` adds flags for
its output and its work. Most flags are bound to a setting key, so a setting can also come
from the environment or the configuration file.

Source: the commands and flags of `src/cmd/root.go:20–60`, `src/cmd/convert.go:34–45`,
`src/cmd/convert.go:167–196` and `src/cmd/parse.go:42–49`, with the help and completion
commands the cobra package adds.
-/

namespace SigmaQuery.Cli

/-- The program's name, which messages and help texts use.
`rootCmd.Use`, `src/cmd/root.go:22`. -/
def toolName : String := "sigma-datadog"

/-- A flag that holds a truth value, off by default. -/
def switchFlag (name : String) (shorthand : Option Char) (usage : String) : Flag :=
  { name, shorthand, usage, default := .boolean false }

/-- The flags of the program that every command shares.
`src/cmd/root.go:44–59`. -/
def topFlags : List Flag := [
  { name := "config", usage := "config file (default is $HOME/.go-sigma-datadog.yaml)",
    default := .text "" },
  switchFlag "quiet" (some 'q')
    "Quiet output. Suppress warnings and other stuff. Cannot be used together with --debug and --quiet will take precedence.",
  switchFlag "debug" (some 'd') "Debug mode. Enable trace logging. Cannot be used together with --quiet.",
  { name := "rules-dir", usage := "Directories that contains sigma rules.", default := .texts [] },
  { name := "rules-include",
    usage := "Glob patterns for rule paths. All yml and yaml files are loaded if empty.",
    default := .texts [] },
  { name := "sigma-placeholders", usage := "Yaml file with values for the expand modifier.",
    default := .text "" }]

/-- The flags of the `convert` command.
`src/cmd/convert.go:170–195`. -/
def convertFlags : List Flag := [
  { name := "output-mode",
    usage := "Output format. Supported values are:\n\t\tquery - one Datadog log search query per line\n\t\tsiem_rule - one security monitoring rule JSON document per line",
    default := .text "query" },
  { name := "output-file", usage := "Output file. Stdout is used if empty.", default := .text "" },
  switchFlag "validate" none "Validate rule documents against the import schema.",
  { name := "workers", usage := "Number of workers for rule conversion.", default := .integer 4 },
  switchFlag "fail" none "Exit on first rule that cannot be parsed or converted."]

/-- How to set up the completion script for a shell. -/
def completionGuide : String → String
  | "bash" =>
    "Generate the autocompletion script for the bash shell.\n\n" ++
    "This script depends on the 'bash-completion' package.\n" ++
    "If it is not installed already, you can install it via your OS's package manager.\n\n" ++
    "To load completions in your current shell session:\n\n" ++
    "\tsource <(" ++ toolName ++ " completion bash)\n\n" ++
    "To load completions for every new session, execute once:\n\n" ++
    "#### Linux:\n\n" ++
    "\t" ++ toolName ++ " completion bash > /etc/bash_completion.d/" ++ toolName ++ "\n\n" ++
    "#### macOS:\n\n" ++
    "\t" ++ toolName ++ " completion bash > $(brew --prefix)/etc/bash_completion.d/" ++ toolName ++
    "\n\n" ++
    "You will need to start a new shell for this setup to take effect.\n"
  | "zsh" =>
    "Generate the autocompletion script for the zsh shell.\n\n" ++
    "If shell completion is not already enabled in your environment you will need\n" ++
    "to enable it.  You can execute the following once:\n\n" ++
    "\techo \"autoload -U compinit; compinit\" >> ~/.zshrc\n\n" ++
    "To load completions in your current shell session:\n\n" ++
    "\tsource <(" ++ toolName ++ " completion zsh)\n\n" ++
    "To load completions for every new session, execute once:\n\n" ++
    "#### Linux:\n\n" ++
    "\t" ++ toolName ++ " completion zsh > \"$\x7bfpath[1]\x7d/_" ++ toolName ++ "\"\n\n" ++
    "#### macOS:\n\n" ++
    "\t" ++ toolName ++ " completion zsh > $(brew --prefix)/share/zsh/site-functions/_" ++ toolName ++
    "\n\n" ++
    "You will need to start a new shell for this setup to take effect.\n"
  | "fish" =>
    "Generate the autocompletion script for the fish shell.\n\n" ++
    "To load completions in your current shell session:\n\n" ++
    "\t" ++ toolName ++ " completion fish | source\n\n" ++
    "To load completions for every new session, execute once:\n\n" ++
    "\t" ++ toolName ++ " completion fish > ~/.config/fish/completions/" ++ toolName ++ ".fish\n\n" ++
    "You will need to start a new shell for this setup to take effect.\n"
  | "powershell" =>
    "Generate the autocompletion script for powershell.\n\n" ++
    "To load completions in your current shell session:\n\n" ++
    "\t" ++ toolName ++ " completion powershell | Out-String | Invoke-Expression\n\n" ++
    "To load completions for every new session, add the output of the above command\n" ++
    "to your powershell profile.\n"
  | _ => ""

/-- A command that writes a completion script for a shell. -/
def completionFor (shell : String) : Command :=
  { path := ["completion", shell], use := shell,
    short := "Generate the autocompletion script for " ++ shell,
    long := completionGuide shell, flagsInUseLine := false,
    flags := [switchFlag "no-descriptions" none "disable completion descriptions"] }

/-- The converter's commands, in the order they are added. -/
def tool : Program where
  name := toolName
  commands := [
    { path := [], use := toolName, runnable := false, shared := topFlags,
      short := "Convert sigma rules into Datadog queries and security monitoring rules",
      long := "Converts sigma detection rules into Datadog log search queries or\nsecurity monitoring rule documents. For example:\n\nsigma-datadog convert --rules-dir ./rules/cloud/aws --output-mode siem_rule > rules.ndjson\nsigma-datadog parse --rules-dir ./rules" },
    { path := ["convert"], use := "convert [rule files...]", shared := convertFlags,
      short := "Convert sigma rules into Datadog queries or rule documents",
      long := "Convert reads sigma rules from files given as arguments, or recursively from --rules-dir,\nand writes one query per line, or one JSON rule document per line when output mode is siem_rule.\n\tFor example:\n\n\tsigma-datadog convert --rules-dir ./rules/cloud/aws --output-mode siem_rule --validate\n\t" },
    { path := ["parse"], use := "parse",
      short := "Parse a ruleset for testing",
      long := "Recursively parses a sigma ruleset from filesystem and provides detailed feedback to the user about rule support.\nEvery parsed rule is also compiled into a query, so unsupported modifiers are reported as well." },
    { path := ["help"], use := "help [command]", isHelp := true,
      short := "Help about any command",
      long := "Help provides help for any command in the application.\nSimply type " ++ toolName ++
        " help [path to command] for full details." },
    { path := ["completion"], use := "completion", runnable := false,
      short := "Generate the autocompletion script for the specified shell",
      long := "Generate the autocompletion script for " ++ toolName ++
        " for the specified shell.\nSee each sub-command's help for details on how to use the generated script.\n" },
    completionFor "bash", completionFor "zsh", completionFor "fish", completionFor "powershell"]

/-- The setting keys that flags are bound to, with the flags' names.
The `viper.BindPFlag` calls of `src/cmd/root.go:49–59` and `src/cmd/convert.go:170–195`. -/
def bindings : List (String × String) := [
  ("rules.dir", "rules-dir"), ("rules.include", "rules-include"),
  ("sigma.placeholders", "sigma-placeholders"), ("output.mode", "output-mode"),
  ("output.file", "output-file"), ("output.validate", "validate"),
  ("convert.workers", "workers"), ("convert.fail", "fail")]

/-- The name of the configuration file looked for in the home directory, without extension.
`src/cmd/root.go:77`. -/
def configName : String := ".go-sigma-datadog"

/-- The extensions of configuration files, in the order they are looked for. -/
def configExtensions : List String :=
  ["json", "toml", "yaml", "yml", "properties", "props", "prop", "hcl", "tfvars", "dotenv", "env", "ini"]

/-- The setting keys the program reads. -/
def settingKeys : List String := bindings.map (·.1) ++ ["datadog.fieldmap"]

/-- The environment variables the program may read: the home directory, and every setting key
and first part of one, in upper case. -/
def environmentNames : List String :=
  "HOME" :: (settingKeys.flatMap fun k => [k.toUpper, ((k.splitOn ".").headD k).toUpper]).eraseDups

end SigmaQuery.Cli
