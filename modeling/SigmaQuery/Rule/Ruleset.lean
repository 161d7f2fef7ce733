import SigmaQuery.Files.Volume
import SigmaQuery.Rule.Parse
import SigmaQuery.Rule.PlaceholderFile

/-!
# Rule sets

A rule set is every rule found below some directories. Rule files are the files whose names
end in `.yml` or `.yaml`, found by walking each directory in turn, names in byte order, and
kept when they match one of the include patterns (or when there are none). An include pattern
is matched against the whole path, `*` standing for any run of characters.

Loading checks that every directory exists, reads the placeholder file if one is named, lists
the rule files, reads each one and builds its rule. A file that is not YAML for a rule, or a
rule that cannot be built, is counted as failed (or as unsupported, for an unsupported
feature or token) unless the configuration asks to stop at the first such file. YAML faults
are all found before any rule is built.

Source: `src/ruleset.go:10–106`, and `NewRuleList`, `NewRuleFileList`, `isYamlFile` and
`included` of `src/rule.go:182–276`.
-/

namespace SigmaQuery

open Files

namespace Files

/-- Whether a path names a YAML file.
`isYamlFile`, `src/rule.go:262–264`. -/
def isYamlFile (path : String) : Bool := path.endsWith ".yml" || path.endsWith ".yaml"

/-- The position of the first occurrence of a text in another, if any. -/
def indexOf (needle : List Char) : List Char → Option Nat
  | [] => if needle.isEmpty then some 0 else none
  | c :: rest =>
    if needle.isPrefixOf (c :: rest) then some 0 else (indexOf needle rest).map (· + 1)

/-- Matches the fixed parts of a star pattern left to right, each at its first occurrence in
what the parts before it left; the first part must start the text unless the pattern starts
with a star. Gives what is left after the last of these parts. -/
def matchParts (leading : Bool) : Bool → List (List Char) → List Char → Option (List Char)
  | _, [], subj => some subj
  | first, p :: ps, subj =>
    match indexOf p subj with
    | none => none
    | some i =>
      if first && !leading && i != 0 then none
      else matchParts leading false ps (subj.drop (i + p.length))

/-- Whether a whole path matches a star pattern, where `*` stands for any run of characters.
`Glob` of the ryanuber/go-glob package, which `included` calls. -/
def starMatch (pattern subject : String) : Bool :=
  if pattern == "" then subject == ""
  else if pattern == "*" then true
  else
    let ps := (splitOn '*' pattern.toList)
    match ps.getLast? with
    | none => subject == pattern
    | some last =>
      if ps.length == 1 then subject == pattern
      else
        match matchParts (pattern.startsWith "*") true ps.dropLast subject.toList with
        | none => false
        | some rest => pattern.endsWith "*" || last.isSuffixOf rest
where
  splitOn (sep : Char) : List Char → List (List Char)
    | [] => [[]]
    | c :: rest =>
      if c == sep then [] :: splitOn sep rest
      else match splitOn sep rest with
        | l :: ls => (c :: l) :: ls
        | [] => [[c]]

/-- Whether a path is included by a list of patterns; no patterns include every path.
`included`, `src/rule.go:266–276`. -/
def included (path : String) (patterns : List String) : Bool :=
  patterns.isEmpty || patterns.any (starMatch · path)

/-- The rule files at or below a path, in walking order.
The `filepath.Walk` of `NewRuleFileList`, `src/rule.go:243–257`. -/
def walk (v : Volume) (patterns : List String) : Nat → String → List String
  | 0, _ => []
  | fuel + 1, path =>
    match v.lookup path with
    | .ok .dir => (v.children path).flatMap fun name => walk v patterns fuel (join path name)
    | .ok _ => if isYamlFile path && included path patterns then [path] else []
    | .error _ => []

/-- The rule files below each directory in turn; a directory that cannot be looked up stops
the listing with the files found so far.
`NewRuleFileList`, `src/rule.go:240–260`. -/
def ruleFiles (v : Volume) (dirs patterns : List String) : List String × Option String :=
  go dirs []
where
  go : List String → List String → List String × Option String
    | [], acc => (acc, none)
    | d :: rest, acc =>
      match v.lookup d with
      | .error e => (acc, some ("lstat " ++ d ++ ": " ++ e))
      | .ok _ => go rest (acc ++ walk v patterns v.depthBound d)

end Files

/-- How a rule set is loaded.
`Config`, `src/ruleset.go:10–22`. -/
structure RulesetConfig where
  /-- The directories searched for rules. -/
  directories : List String := []
  /-- Patterns a rule file's path must match; none admits every file. -/
  patterns : List String := []
  /-- The placeholder file, empty for none. -/
  placeholders : String := ""
  /-- Whether a rule that cannot be built stops loading. -/
  failOnRuleParse : Bool := false
  /-- Whether a file that is not YAML for a rule stops loading. -/
  failOnYamlParse : Bool := false
  deriving Repr, Inhabited

/-- The rules of a rule set, in the order of their files, with counts of the files.
`Ruleset`, `src/ruleset.go:45–50`. -/
structure Ruleset where
  rules : List Rule := []
  total : Nat := 0
  ok : Nat := 0
  failed : Nat := 0
  unsupported : Nat := 0
  deriving Repr, Inhabited

namespace Ruleset

/-- Checks that each directory exists and is a directory.
The loop of `Config.validate`, `src/ruleset.go:28–39`. -/
def checkDirectories (v : Volume) : List String → Except RuleError Unit
  | [] => .ok ()
  | d :: rest =>
    match v.lookup d with
    | .error "no such file or directory" => .error (.plain (d ++ " does not exist"))
    | .error e => .error (.plain ("stat " ++ d ++ ": " ++ e))
    | .ok .dir => checkDirectories v rest
    | .ok _ => .error (.plain (d ++ " is not a directory"))

/-- Reads the placeholder file at a path.
`NewPlaceholders`, `src/placeholders.go:22–31`. -/
def readPlaceholders (v : Volume) (path : String) : Except RuleError Placeholders :=
  let fault := fun (msg : String) => RuleError.plain ("placeholders " ++ path ++ ": " ++ msg)
  match v.lookup path with
  | .error e => .error (fault ("open " ++ path ++ ": " ++ e))
  | .ok .dir => .error (fault ("yaml: input error: read " ++ path ++ ": is a directory"))
  | .ok e =>
    let content := match e with
      | .file c => Text.lossy c
      | _ => ""
    match Placeholders.read content with
    | .ok p => .ok p
    | .error msg => .error (fault msg)

/-- A rule file read as YAML: its path, fields and whether it holds several documents.
`RuleHandle`, `src/rule.go:17–22`. -/
structure Handle where
  path : String
  raw : RawRule
  multipart : Bool

/-- Reads the rule files as YAML, in order. Files that are not YAML for a rule are counted,
or stop reading when `strict`.
The read loop of `NewRuleList`, `src/rule.go:188–208`, as `NewRuleset` calls it. -/
def readHandles (v : Volume) (strict : Bool) :
    List (String × Nat) → Except RuleError (List Handle × Nat)
  | [] => .ok ([], 0)
  | (path, _) :: rest =>
    let content := match v.lookup path with
      | .ok (.file c) => Text.lossy c
      | _ => ""
    match RawRule.decode content with
    | .error msg =>
      if strict then .error (.yamlFile path 0 msg)
      else (readHandles v strict rest).map fun (hs, n) => (hs, n + 1)
    | .ok raw =>
      (readHandles v strict rest).map fun (hs, n) =>
        ({ path, raw, multipart := RawRule.isMultipart content } :: hs, n)

/-- The content of a file as text, or why it cannot be read; a device reads as empty. -/
def readFile (v : Volume) (path : String) : Except String String :=
  match v.lookup path with
  | .error e => .error ("open " ++ path ++ ": " ++ e)
  | .ok .dir => .error ("read " ++ path ++ ": is a directory")
  | .ok (.file c) => .ok (Text.lossy c)
  | .ok (.device _) => .ok ""

/-- Reads rule files in order, from position `index` of the listing on. A file that cannot be
read stops reading. A file that is not YAML for a rule stops reading as well, unless `skip`:
then it is noted with its path, position and fault, and reading goes on. -/
def readRuleFilesFrom (v : Volume) (skip : Bool) (index : Nat) :
    List String → Except RuleError (List Handle × List (String × Nat × String))
  | [] => .ok ([], [])
  | path :: rest =>
    match readFile v path with
    | .error e => .error (.plain e)
    | .ok content =>
      match RawRule.decode content with
      | .error msg =>
        if skip then
          (readRuleFilesFrom v skip (index + 1) rest).map fun (hs, bad) => (hs, (path, index, msg) :: bad)
        else .error (.yamlFile path 0 msg)
      | .ok raw =>
        (readRuleFilesFrom v skip (index + 1) rest).map fun (hs, bad) =>
          ({ path, raw, multipart := RawRule.isMultipart content } :: hs, bad)

/-- Reads rule files in order: the handles of those that are YAML for a rule, and the files
that are not, when `skip` lets reading go on past them. An empty listing is refused.
`NewRuleList`, `src/rule.go:182–215`. -/
def readRuleFiles (v : Volume) (files : List String) (skip : Bool) :
    Except RuleError (List Handle × List (String × Nat × String)) :=
  if files.isEmpty then .error (.plain "missing rule file list")
  else readRuleFilesFrom v skip 0 files

/-- Builds the rules of the handles, counting those that fail.
The loop of `NewRuleset`, `src/ruleset.go:81–97`. -/
def buildRules (ph : Option Placeholders) (strict : Bool) :
    List Handle → Except RuleError (List Rule × Nat × Nat)
  | [] => .ok ([], 0, 0)
  | h :: rest =>
    match Rule.ofRaw h.raw h.multipart h.path ph with
    | .ok r => (buildRules ph strict rest).map fun (rs, f, u) => (r :: rs, f, u)
    | .error e =>
      if strict then .error (.context h.path e)
      else
        (buildRules ph strict rest).map fun (rs, f, u) =>
          if e.isUnsupported then (rs, f, u + 1) else (rs, f + 1, u)

/-- Loads a rule set from a volume.
`NewRuleset`, `src/ruleset.go:53–106`. -/
def load (v : Volume) (c : RulesetConfig) : Except RuleError Ruleset := do
  if c.directories.isEmpty then throw (.plain "missing root directory for sigma rules")
  checkDirectories v c.directories
  let ph ← if c.placeholders == "" then pure none
    else some <$> readPlaceholders v c.placeholders
  let (files, fault) := ruleFiles v c.directories c.patterns
  if let some e := fault then throw (.plain e)
  if files.isEmpty then return {}
  let (handles, yamlFailed) ← readHandles v c.failOnYamlParse files.zipIdx
  let (rules, failed, unsupported) ← buildRules ph c.failOnRuleParse handles
  pure { rules, total := files.length, ok := rules.length, failed := yamlFailed + failed,
         unsupported }

end Ruleset

end SigmaQuery
