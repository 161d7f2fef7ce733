import SigmaQuery.Cli.Flag
import SigmaQuery.Text.Blank
import SigmaQuery.Text.Case
import SigmaQuery.Text.EditDistance
/-!
# Commands

A program is a tree of commands: the program itself at the top, and below it commands named
by the words that lead to them. Each command has a usage line, a short and a long
description, its own flags and flags it shares with every command below it. The help command
is special only in that help lists it and never suggests it.

Finding the command a command line addresses walks down the tree along its words that are
not flags: a word that names a command below the current one moves there and is taken out
of the arguments. Finding treats every flag it does not know as one that takes a value, so
the word after it is skipped; at this stage no command knows its help flag yet. A word that
names nothing at the top of the tree is refused as an unknown command, with suggestions:
the commands whose names are within two edits of the word, or start with it, ignoring case.

Help for a command is its long description (or the short one) and its usage: how it is
called, the commands below it, its flags and the flags it inherits, each list in a table.

Source: `Command.Find`, the help and usage templates and the suggestions of the cobra
package, over the commands of `src/cmd/root.go:20–29`, `src/cmd/convert.go:34–45` and
`src/cmd/parse.go:42–49`.
-/

namespace SigmaQuery.Cli

open Text

/-- A command of a program. -/
structure Command where
  /-- The words that lead from the program to the command; none for the program itself. -/
  path : List String
  /-- How the command is called: its name, then what may follow it. -/
  use : String
  short : String := ""
  long : String := ""
  /-- Whether the command does something of its own, rather than only hold other commands. -/
  runnable : Bool := true
  /-- Flags of the command alone. -/
  flags : List Flag := []
  /-- Flags the command shares with every command below it. -/
  shared : List Flag := []
  /-- Whether this is the help command. -/
  isHelp : Bool := false
  /-- Whether the usage line ends with a mark for flags. -/
  flagsInUseLine : Bool := true
  deriving Repr, Inhabited

namespace Command

/-- The name of a command: the first word of its usage. -/
def name (c : Command) : String := String.ofList (c.use.toList.takeWhile (· != ' '))

/-- The flag that asks for a command's help. -/
def helpFlag (c : Command) : Flag :=
  { name := "help", shorthand := some 'h', usage := "help for " ++ c.name, default := .boolean false }

end Command

/-- A program: its commands in the order they were added, the program itself first. -/
structure Program where
  name : String
  commands : List Command
  deriving Repr, Inhabited

namespace Program

/-- The program's own command. -/
def top (p : Program) : Command :=
  (p.commands.find? (·.path.isEmpty)).getD { path := [], use := p.name, runnable := false }

/-- The commands right below a command, in the order they were added. -/
def below (p : Program) (c : Command) : List Command :=
  p.commands.filter fun d => d.path.length == c.path.length + 1 && c.path.isPrefixOf d.path

/-- The commands above a command, the program's own first. -/
def above (p : Program) (c : Command) : List Command :=
  p.commands.filter fun d => d.path.length < c.path.length && d.path.isPrefixOf c.path

/-- The words that name a command on a command line, the program's name first. -/
def commandPath (p : Program) (c : Command) : String := " ".intercalate (p.name :: c.path)

/-- The flags a command inherits from the commands above it. -/
def inherited (p : Program) (c : Command) : List Flag :=
  let own := c.flags ++ c.shared
  ((p.above c).flatMap (·.shared)).filter fun f => !own.any (·.name == f.name)

/-- The flags a command knows: its own, the ones it inherits and, once it is set up to run or
show help, its help flag. -/
def flagsOf (p : Program) (c : Command) (withHelp : Bool) : List Flag :=
  c.flags ++ c.shared ++ p.inherited c ++ (if withHelp then [c.helpFlag] else [])

/-- Whether help lists a command and commands suggest it: every command but the help
command, that does something or holds such commands. -/
def available (p : Program) (c : Command) : Bool :=
  !c.isHelp && (c.runnable || (p.below c).any fun d => !d.isHelp && d.runnable)

end Program

/-- Whether an argument is a long flag that takes its value from the next argument, or a lone
shorthand flag that does; flags not in `flags` count as taking a value. -/
def takesNext (flags : List Flag) (s : String) : Bool :=
  match s.toList with
  | '-' :: '-' :: name =>
    !name.contains '=' && !((findFlag flags (String.ofList name)).map (·.isSwitch)).getD false
  | ['-', c] =>
    c != '=' && c.toNat < 128 && !((findShorthand flags c).map (·.isSwitch)).getD false
  | _ => false

/-- The words of a command line that are not flags or their values, up to `--`. A flag that
takes the next argument as its value ends the words when at most one argument follows it. -/
def commandWords (flags : List Flag) : List String → List String
  | [] => []
  | s :: rest =>
    if s == "--" then []
    else if takesNext flags s then
      match rest with
      | _ :: next :: more => commandWords flags (next :: more)
      | _ => []
    else if s != "" && !s.startsWith "-" then s :: commandWords flags rest
    else commandWords flags rest
termination_by args => args.length

/-- A command line without the first word `x` that is not a flag or a flag's value. -/
def withoutWord (flags : List Flag) (x : String) : List String → List String
  | [] => []
  | s :: rest =>
    if s == "--" then s :: rest
    else if takesNext flags s then
      match rest with
      | v :: more => s :: v :: withoutWord flags x more
      | [] => [s]
    else if !s.startsWith "-" && s == x then rest
    else s :: withoutWord flags x rest
termination_by args => args.length

namespace Program

/-- The commands whose names are close to a word: within two edits, or starting with it,
ignoring case. -/
def suggestions (p : Program) (c : Command) (word : String) : List String :=
  let typed := lower word
  ((p.below c).filter (p.available ·)).filterMap fun d =>
    let n := lower d.name
    if editDistance typed.toUTF8.toList n.toUTF8.toList ≤ 2 || n.startsWith typed then some d.name
    else none

/-- Why a command line addresses no command. -/
def unknownCommand (p : Program) (c : Command) (word : String) : String :=
  let hints := p.suggestions c word
  "unknown command " ++ quote word ++ " for " ++ quote (p.commandPath c) ++
    (if hints.isEmpty then ""
     else "\n\nDid you mean this?\n" ++ String.join (hints.map fun h => "\t" ++ h ++ "\n"))

/-- Walks down from a command along the words of a command line; each step uses one unit of
fuel. -/
def descend (p : Program) : Nat → Command → List String → Command × List String
  | 0, c, args => (c, args)
  | fuel + 1, c, args =>
    match commandWords (p.flagsOf c false) args with
    | [] => (c, args)
    | w :: _ =>
      match (p.below c).find? (·.name == w) with
      | some d => descend p fuel d (withoutWord (p.flagsOf c false) w args)
      | none => (c, args)

/-- The command a command line addresses and the arguments left for it, or why there is
none: a word at the top of the tree that names no command. -/
def find (p : Program) (args : List String) : Command × List String × Option String :=
  let (c, rest) := p.descend (args.length + 1) p.top args
  match commandWords (p.flagsOf c false) rest with
  | w :: _ =>
    if c.path.isEmpty && !(p.below c).isEmpty then (c, rest, some (p.unknownCommand c w))
    else (c, rest, none)
  | [] => (c, rest, none)

/-- The text without blanks at its end. -/
def trimEnd (s : String) : String :=
  String.ofList (s.toList.reverse.dropWhile isBlank).reverse

/-- The width names take in a list of commands: the longest name, but at least eleven. -/
def nameWidth (cs : List Command) : Nat := (cs.map (·.name.length)).foldl max 11

/-- How a command is called, with the program's words before it and `[flags]` after it. -/
def useLine (p : Program) (c : Command) : String :=
  let line := if c.path.isEmpty then c.use
    else " ".intercalate (p.name :: c.path.dropLast) ++ " " ++ c.use
  if !c.flagsInUseLine || (c.use.splitOn "[flags]").length > 1 then line else line ++ " [flags]"

/-- The usage of a command; `withHelp` when its help flag is set up. -/
def usage (p : Program) (c : Command) (withHelp : Bool) : String :=
  let subs := p.below c
  let listed := (subs.filter fun d => p.available d || d.isHelp).mergeSort
    fun a b => decide (a.name ≤ b.name)
  let width := nameWidth subs
  let hasSubs := subs.any (p.available ·)
  let own := c.flags ++ c.shared ++ (if withHelp then [c.helpFlag] else [])
  let inherited := p.inherited c
  "Usage:" ++
    (if c.runnable then "\n  " ++ p.useLine c else "") ++
    (if hasSubs then "\n  " ++ p.commandPath c ++ " [command]" else "") ++
    (if hasSubs then
      "\n\nAvailable Commands:" ++ String.join (listed.map fun d =>
        "\n  " ++ d.name ++ String.ofList (List.replicate (width - d.name.length) ' ') ++ " " ++ d.short)
     else "") ++
    (if own.isEmpty then "" else "\n\nFlags:\n" ++ trimEnd (usageTable own)) ++
    (if inherited.isEmpty then "" else "\n\nGlobal Flags:\n" ++ trimEnd (usageTable inherited)) ++
    (if hasSubs then
      "\n\nUse \"" ++ p.commandPath c ++ " [command] --help\" for more information about a command."
     else "") ++ "\n"

/-- The help of a command: its description, then its usage. -/
def help (p : Program) (c : Command) : String :=
  let text := if c.long.isEmpty then c.short else c.long
  (if text.isEmpty then "" else trimEnd text ++ "\n\n") ++
    (if c.runnable || !(p.below c).isEmpty then p.usage c true else "")

end Program

end SigmaQuery.Cli
