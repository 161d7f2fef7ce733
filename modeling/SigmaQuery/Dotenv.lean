import SigmaQuery.Text.Blank
/-!
# Environment files

An environment file, as `viper.ReadInConfig` in `initConfig` of `src/cmd/root.go:83` reads a
`.env` configuration: one assignment a line, `NAME=value` or `NAME: value`, optionally after
`export`; blank lines and `#` comments are skipped. A value in single quotes is taken as
written; one in double quotes knows `\n`, `\r` and backslash escapes and may go on over the
following lines. Outside single quotes `$NAME` and `$\{NAME}` are replaced from the
environment, else from an earlier assignment, else by nothing. A line that is no assignment
refuses the file, except `export NAME` for a name assigned before.
-/

namespace SigmaQuery.Dotenv

open Text

/-- The blanks of a line pattern: tab, line feed, form feed, carriage return and space. -/
def isPatternSpace (c : Char) : Bool :=
  c == '\t' || c == '\n' || c == '\x0c' || c == '\r' || c == ' '

/-- Whether a character may stand in a name. -/
def isNameChar (c : Char) : Bool :=
  ('a' ≤ c && c ≤ 'z') || ('A' ≤ c && c ≤ 'Z') || c.isDigit || c == '_' || c == '.'

/-- Whether a text may end an assignment: blanks, then an optional comment on one line. -/
def isTail (cs : List Char) : Bool :=
  match cs.dropWhile isPatternSpace with
  | [] => true
  | '#' :: rest => !rest.contains '\n'
  | _ => false

/-- The longest quoted value at the start of a text that the tail of an assignment follows:
from the opening quote to the last closing quote that leaves a tail. -/
def quotedValue (q : Char) (cs : List Char) : Option (List Char) :=
  match cs with
  | c :: rest =>
    if c != q then none
    else
      let ends := (List.range rest.length).reverse.filter fun j =>
        rest[j]? == some q && isTail (rest.drop (j + 1))
      ends.head?.map fun j => c :: rest.take (j + 1)
  | [] => none

/-- The value of an assignment at the start of a text: a single-quoted, double-quoted or
unquoted value that the tail follows, or nothing when the tail follows at once. `none` when
no reading fits. -/
def valueText (cs : List Char) : Option (List Char) :=
  match quotedValue '\'' cs with
  | some v => some v
  | none =>
    match quotedValue '"' cs with
    | some v => some v
    | none =>
      let run := cs.takeWhile fun c => c != '#' && c != '\n'
      if !run.isEmpty && isTail (cs.drop run.length) then some run
      else if isTail cs then some []
      else none

/-- The name and raw value of an assignment line, or `none` when the line is no assignment. -/
def assignment (cs : List Char) : Option (String × List Char) :=
  let cs := cs.dropWhile isPatternSpace
  let afterExport : Option (List Char) := match cs with
    | 'e' :: 'x' :: 'p' :: 'o' :: 'r' :: 't' :: rest =>
      if rest.head?.any isPatternSpace then some (rest.dropWhile isPatternSpace) else none
    | _ => none
  let attempt (cs : List Char) : Option (String × List Char) :=
    let name := cs.takeWhile isNameChar
    if name.isEmpty then none
    else
      let rest := cs.drop name.length
      let value := match rest.dropWhile isPatternSpace with
        | '=' :: more => valueText (more.dropWhile isPatternSpace)
        | _ => match rest with
          | ':' :: c :: more => if isPatternSpace c then valueText (more.dropWhile isPatternSpace) else none
          | _ => none
      value.map fun v => (String.ofList name, trimBlankList v)
  match afterExport.bind attempt with
  | some r => some r
  | none => attempt cs

/-- A text with the escapes `\n` and `\r` read as line breaks. -/
def breakEscapes : List Char → List Char
  | '\\' :: 'n' :: rest => '\n' :: breakEscapes rest
  | '\\' :: 'r' :: rest => '\r' :: breakEscapes rest
  | c :: rest => c :: breakEscapes rest
  | [] => []

/-- A text with a backslash before any character but `$` read as that character. -/
def unescape : List Char → List Char
  | '\\' :: '$' :: rest => '\\' :: '$' :: unescape rest
  | '\\' :: c :: rest => c :: unescape rest
  | c :: rest => c :: unescape rest
  | [] => []

/-- Whether a character may stand in the name of a variable that a value refers to. -/
def isVariableChar (c : Char) : Bool := ('A' ≤ c && c ≤ 'Z') || c.isDigit || c == '_'

/-- The value of a variable: from the environment, else from an earlier assignment, else
empty. -/
def lookupVariable (env assigned : List (String × String)) (name : String) : String :=
  match env.lookup name with
  | some v => v
  | none => (assigned.lookup name).getD ""

/-- A value with its references to variables replaced; `\$` stands for a plain `$`. -/
def expand (env assigned : List (String × String)) : Nat → List Char → List Char
  | 0, cs => cs
  | fuel + 1, cs =>
    match cs with
    | [] => []
    | '\\' :: '$' :: rest => '$' :: expand env assigned fuel rest
    | '$' :: rest =>
      let (brace, rest) := match rest with
        | '{' :: more => (true, more)
        | _ => (false, rest)
      let name := rest.takeWhile isVariableChar
      let rest := rest.drop name.length
      let (close, rest) := match rest with
        | '}' :: more => (true, more)
        | _ => (false, rest)
      if name.isEmpty then
        '$' :: ((if brace then ['{'] else []) ++ (if close then ['}'] else []) ++
          expand env assigned fuel rest)
      else (lookupVariable env assigned (String.ofList name)).toList ++ expand env assigned fuel rest
    | c :: rest => c :: expand env assigned fuel rest

/-- The text an assignment's raw value stands for. -/
def valueOf (env assigned : List (String × String)) (raw : List Char) : String :=
  let (single, double, inner) := match raw with
    | q :: rest@(_ :: _) =>
      if (q == '\'' || q == '"') && rest.getLast? == some q then (q == '\'', q == '"', rest.dropLast)
      else (false, false, raw)
    | _ => (false, false, raw)
  let inner := if double then unescape (breakEscapes inner) else inner
  String.ofList (if single then inner else expand env assigned (inner.length + 1) inner)

/-- Cuts a text into lines at line feeds, carriage returns, or both together. -/
def lines (cs : List Char) : List (List Char) :=
  go cs [] []
where
  go : List Char → List Char → List (List Char) → List (List Char)
    | [], cur, acc => (if cur.isEmpty then acc else cur.reverse :: acc).reverse
    | '\r' :: '\n' :: rest, cur, acc => go rest [] (cur.reverse :: acc)
    | '\n' :: rest, cur, acc => go rest [] (cur.reverse :: acc)
    | '\r' :: rest, cur, acc => go rest [] (cur.reverse :: acc)
    | c :: rest, cur, acc => go rest (c :: cur) acc

/-- The quote of a line whose quoted value does not close on it, if any. -/
def openQuote (line : List Char) : Option Char :=
  let sep := match line.findIdx? (· == '=') with
    | some i => some i
    | none => line.findIdx? (· == ':')
  match sep with
  | some i =>
    if i > 0 && i + 1 < line.length then
      let val := trimBlankList (line.drop (i + 1))
      match val with
      | q :: rest =>
        if q == '"' || q == '\'' then
          let inner := trimBlankList rest
          match (List.range inner.length).reverse.find? (fun j => inner[j]? == some q) with
          | some j => if val[j]? == some '\\' then some q else none
          | none => some q
        else none
      | [] => none
    else none
  | none => none

/-- Whether a following line closes an open quote. -/
def closesQuote (q : Char) (l : List Char) : Option Bool :=
  match (List.range l.length).reverse.find? (fun j => l[j]? == some q) with
  | some j => if j > 0 && l[j - 1]? == some '\\' then some false else some true
  | none => none

/-- Joins the lines that continue an open quote onto the line that opens it; gives the
joined line and the lines after it, or `none` when the quote never closes. -/
def joinQuoted (q : Char) : List Char → List (List Char) → Option (List Char × List (List Char))
  | acc, [] => if acc.isEmpty then none else none
  | acc, l :: rest =>
    let acc := acc ++ '\n' :: l
    match closesQuote q l with
    | some true => some (acc, rest)
    | _ => joinQuoted q acc rest

/-- Reads assignments from the remaining lines; `acc` holds those made, in order. -/
def readLines (env : List (String × String)) : Nat → List (String × String) →
    List (List Char) → Except String (List (String × String))
  | 0, acc, _ => .ok acc
  | _ + 1, acc, [] => .ok acc
  | fuel + 1, acc, l :: rest =>
    let line := trimBlankList l
    if line.isEmpty || line.head? == some '#' then readLines env fuel acc rest
    else
      let joined := match openQuote line with
        | some q => joinQuoted q line rest
        | none => some (line, rest)
      match joined with
      | none => .error "missing quotes"
      | some (line, rest) =>
        match assignment line with
        | some (name, raw) =>
          let v := valueOf env acc raw
          let acc := if acc.any (·.1 == name) then acc.map fun (k, x) => if k == name then (k, v) else (k, x)
            else acc ++ [(name, v)]
          readLines env fuel acc rest
        | none =>
          let text := String.ofList line
          match line with
          | 'e' :: 'x' :: 'p' :: 'o' :: 'r' :: 't' :: _ =>
            match text.splitOn " " with
            | _ :: name :: more =>
              if acc.any (·.1 == " ".intercalate (name :: more)) then readLines env fuel acc rest
              else .error ("line \x60" ++ text ++ "\x60 has an unset variable")
            | _ => .error ("line \x60" ++ text ++ "\x60 doesn't match format")
          | _ => .error ("line \x60" ++ text ++ "\x60 doesn't match format")

/-- The assignments of an environment file, in the order first made, each name once with its
last value; `env` is the environment that references to variables read. -/
def parse (env : List (String × String)) (text : String) : Except String (List (String × String)) :=
  let cs := match text.toList with
    | '﻿' :: rest => rest
    | cs => cs
  let ls := lines cs
  readLines env (ls.length + 1) [] ls

example : (parse [] "# settings\nOUTPUT.MODE=siem_rule\nexport A = 'x y' # c\nB=\"$A\\n\"\n").toOption =
    some [("OUTPUT.MODE", "siem_rule"), ("A", "x y"), ("B", "x y\n")] := by decide +kernel
example : (parse [] "just words\n").toOption.isSome = false := by decide +kernel

end SigmaQuery.Dotenv
