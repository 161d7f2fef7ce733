import SigmaQuery.Toml.Value
import SigmaQuery.Text.Binary64
import SigmaQuery.Text.Timestamp
/-!
# Reading TOML text

A TOML configuration file, as `viper.ReadInConfig` in `initConfig` of `src/cmd/root.go:83`
reads it, line by line into statements that `build` assembles into a table. A line holds a pair
`key = value`, a header `[key]` or `[[key]]`, a comment, or nothing. A key is bare, quoted or
dotted; a value is a string of one of the four kinds, an integer of 64 signed bits, a float, a
boolean, a date or time kept as written, an array, or an inline table. A text that breaks the
grammar anywhere is refused as a whole.
-/

namespace SigmaQuery.Toml

open Text

/-- Whether a character is a space or a tab. -/
def isSpaceOrTab (c : Char) : Bool := c == ' ' || c == '\t'

/-- A text without its leading spaces and tabs. -/
def skipBlanks (cs : List Char) : List Char := cs.dropWhile isSpaceOrTab

/-- Whether a character may stand in a comment or a one-line string: a tab, or any character
that is not a control character. -/
def isTextChar (c : Char) : Bool := c == '\t' || !(c.toNat < 0x20 || c.toNat == 0x7F)

/-- Whether a character may stand in a bare key. -/
def isBareChar (c : Char) : Bool :=
  ('a' ≤ c && c ≤ 'z') || ('A' ≤ c && c ≤ 'Z') || c.isDigit || c == '_' || c == '-'

/-- The rest of a comment after its `#`: the text from the line break on. -/
def commentRest : List Char → Option (List Char)
  | [] => some []
  | '\n' :: rest => some ('\n' :: rest)
  | '\r' :: '\n' :: rest => some ('\r' :: '\n' :: rest)
  | c :: rest => if isTextChar c then commentRest rest else none

/-- The text after the end of a line: blanks, an optional comment and the line break, or the
end of the text. -/
def lineEnd (cs : List Char) : Option (List Char) :=
  let cs := skipBlanks cs
  let cs := match cs with
    | '#' :: rest => commentRest rest
    | _ => some cs
  match cs with
  | some [] => some []
  | some ('\n' :: rest) => some rest
  | some ('\r' :: '\n' :: rest) => some rest
  | _ => none

/-- The value of a hexadecimal digit. -/
def hexDigit? (c : Char) : Option Nat :=
  if c.isDigit then some (c.toNat - '0'.toNat)
  else if 'a' ≤ c && c ≤ 'f' then some (c.toNat - 'a'.toNat + 10)
  else if 'A' ≤ c && c ≤ 'F' then some (c.toNat - 'A'.toNat + 10)
  else none

/-- Reads exactly `n` hexadecimal digits. -/
def hexRun : Nat → Nat → List Char → Option (Nat × List Char)
  | 0, acc, cs => some (acc, cs)
  | n + 1, acc, c :: rest => (hexDigit? c).bind fun d => hexRun n (acc * 16 + d) rest
  | _ + 1, _, [] => none

/-- The character of a Unicode escape, if its value is a Unicode scalar value. -/
def scalarOf (n : Nat) : Option Char :=
  if n < 0xD800 || (0xE000 ≤ n && n ≤ 0x10FFFF) then some (Char.ofNat n) else none

/-- Reads an escape after its backslash. -/
def escapeChar : List Char → Option (Char × List Char)
  | 'b' :: r => some ('\x08', r)
  | 't' :: r => some ('\t', r)
  | 'n' :: r => some ('\n', r)
  | 'f' :: r => some ('\x0c', r)
  | 'r' :: r => some ('\r', r)
  | '"' :: r => some ('"', r)
  | '\\' :: r => some ('\\', r)
  | 'u' :: r => (hexRun 4 0 r).bind fun (n, r) => (scalarOf n).map (·, r)
  | 'U' :: r => (hexRun 8 0 r).bind fun (n, r) => (scalarOf n).map (·, r)
  | _ => none

/-- Reads a one-line basic string after its opening quote; `acc` holds the characters read,
last first. -/
def basicBody : Nat → List Char → List Char → Option (String × List Char)
  | 0, _, _ => none
  | fuel + 1, acc, cs =>
    match cs with
    | '"' :: rest => some (String.ofList acc.reverse, rest)
    | '\\' :: rest => (escapeChar rest).bind fun (c, r) => basicBody fuel (c :: acc) r
    | c :: rest => if isTextChar c then basicBody fuel (c :: acc) rest else none
    | [] => none

/-- Reads a one-line literal string after its opening quote. -/
def literalBody (cs : List Char) : Option (String × List Char) :=
  let body := cs.takeWhile (· != '\'')
  match cs.dropWhile (· != '\'') with
  | '\'' :: rest => if body.all isTextChar then some (String.ofList body, rest) else none
  | _ => none

/-- Drops a line break right after the opening quotes of a multi-line string. -/
def dropFirstBreak : List Char → List Char
  | '\n' :: rest => rest
  | '\r' :: '\n' :: rest => rest
  | cs => cs

/-- Whether a text starts with a line break. -/
def startsWithBreak : List Char → Bool
  | '\n' :: _ => true
  | '\r' :: '\n' :: _ => true
  | _ => false

/-- The end of a multi-line string at its closing quotes `q q q`: up to two more quotes
just before them belong to the string. Gives the quotes that belong to the string and the
text after the closing quotes. -/
def closingQuotes (q : Char) (rest : List Char) : Option (List Char × List Char) :=
  let extra := (rest.takeWhile (· == q)).length
  if extra > 2 then none else some (List.replicate extra q, rest.drop extra)

/-- Reads a multi-line basic string after its opening quotes; `acc` holds the characters
read, last first. -/
def multiBasicBody : Nat → List Char → List Char → Option (String × List Char)
  | 0, _, _ => none
  | fuel + 1, acc, cs =>
    match cs with
    | '"' :: '"' :: '"' :: rest =>
      (closingQuotes '"' rest).map fun (more, after) => (String.ofList (acc.reverse ++ more), after)
    | '\\' :: rest =>
      let afterBlanks := skipBlanks rest
      if startsWithBreak afterBlanks then
        multiBasicBody fuel acc (afterBlanks.dropWhile fun c => c == ' ' || c == '\t' || c == '\n' || c == '\r')
      else (escapeChar rest).bind fun (c, r) => multiBasicBody fuel (c :: acc) r
    | '\r' :: '\n' :: rest => multiBasicBody fuel ('\n' :: '\r' :: acc) rest
    | '\n' :: rest => multiBasicBody fuel ('\n' :: acc) rest
    | c :: rest => if isTextChar c then multiBasicBody fuel (c :: acc) rest else none
    | [] => none

/-- Reads a multi-line literal string after its opening quotes; `acc` holds the characters
read, last first. -/
def multiLiteralBody : List Char → List Char → Option (String × List Char)
  | acc, '\'' :: '\'' :: '\'' :: rest =>
    (closingQuotes '\'' rest).map fun (more, after) => (String.ofList (acc.reverse ++ more), after)
  | acc, '\r' :: '\n' :: rest => multiLiteralBody ('\n' :: '\r' :: acc) rest
  | acc, '\n' :: rest => multiLiteralBody ('\n' :: acc) rest
  | acc, c :: rest => if isTextChar c then multiLiteralBody (c :: acc) rest else none
  | _, [] => none

/-- Reads one part of a key: a bare run, or a one-line string. -/
def simpleKey (cs : List Char) : Option (String × List Char) :=
  match cs with
  | '"' :: rest => basicBody (rest.length + 1) [] rest
  | '\'' :: rest => literalBody rest
  | _ =>
    let k := cs.takeWhile isBareChar
    if k.isEmpty then none else some (String.ofList k, cs.dropWhile isBareChar)

/-- Reads a key of parts joined by dots; `acc` holds the parts read, last first. -/
def dottedKey : Nat → List String → List Char → Option (List String × List Char)
  | 0, _, _ => none
  | fuel + 1, acc, cs =>
    (simpleKey cs).bind fun (k, rest) =>
      match skipBlanks rest with
      | '.' :: more => dottedKey fuel (k :: acc) (skipBlanks more)
      | _ => some ((k :: acc).reverse, rest)

/-- Reads a key. -/
def readKey (cs : List Char) : Option (List String × List Char) := dottedKey (cs.length + 1) [] cs

/-- Whether a text is a run of digits with single underscores between them. -/
def separatedDigits (isDigit : Char → Bool) : List Char → Bool
  | [] => false
  | c :: rest => isDigit c && go rest
where
  go : List Char → Bool
    | [] => true
    | '_' :: c :: rest => isDigit c && go rest
    | '_' :: [] => false
    | c :: rest => isDigit c && go rest

/-- Whether a text is the whole part of a decimal number: `0`, or digits without a leading
zero. -/
def wholePart (cs : List Char) : Bool :=
  match cs with
  | ['0'] => true
  | '0' :: _ => false
  | _ => separatedDigits Char.isDigit cs

/-- The value of digits in a base, underscores skipped. -/
def digitsValue (base : Nat) (cs : List Char) : Nat :=
  (cs.filter (· != '_')).foldl (fun acc c => acc * base + ((hexDigit? c).getD 0)) 0

/-- Reads an integer. -/
def readInteger (cs : List Char) : Option Int :=
  let limit : Nat := Nat.pow 2 63
  let inBase (base : Nat) (isDigit : Char → Bool) (body : List Char) : Option Int :=
    if separatedDigits isDigit body && digitsValue base body < limit then
      some (digitsValue base body : Int)
    else none
  match cs with
  | '0' :: 'x' :: body => inBase 16 (fun c => (hexDigit? c).isSome) body
  | '0' :: 'o' :: body => inBase 8 (fun c => '0' ≤ c && c ≤ '7') body
  | '0' :: 'b' :: body => inBase 2 (fun c => c == '0' || c == '1') body
  | _ =>
    let (neg, body) := match cs with
      | '+' :: rest => (false, rest)
      | '-' :: rest => (true, rest)
      | _ => (false, cs)
    if !wholePart body then none
    else
      let n := digitsValue 10 body
      if neg then (if n ≤ limit then some (-(n : Int)) else none)
      else if n < limit then some (n : Int) else none

/-- The least 64-bit number, which a float outside that range converts to. -/
def leastWord : Int := -((Nat.pow 2 63 : Nat) : Int)

/-- Reads a float. -/
def readFloat (cs : List Char) : Option Value :=
  match cs with
  | ['i', 'n', 'f'] | ['+', 'i', 'n', 'f'] => some (.float "+Inf" leastWord false)
  | ['-', 'i', 'n', 'f'] => some (.float "-Inf" leastWord false)
  | ['n', 'a', 'n'] | ['+', 'n', 'a', 'n'] | ['-', 'n', 'a', 'n'] => some (.float "NaN" leastWord false)
  | _ =>
    let body := match cs with
      | '+' :: rest => rest
      | '-' :: rest => rest
      | _ => cs
    let whole := body.takeWhile fun c => c != '.' && c != 'e' && c != 'E'
    let rest := body.dropWhile fun c => c != '.' && c != 'e' && c != 'E'
    let (frac, rest) := match rest with
      | '.' :: more => (some (more.takeWhile fun c => c != 'e' && c != 'E'),
          more.dropWhile fun c => c != 'e' && c != 'E')
      | _ => (none, rest)
    let expOk := match rest with
      | [] => true
      | e :: more =>
        (e == 'e' || e == 'E') &&
          (match more with
            | '+' :: ds | '-' :: ds => separatedDigits Char.isDigit ds
            | ds => separatedDigits Char.isDigit ds)
    let fracOk := match frac with
      | some ds => separatedDigits Char.isDigit ds
      | none => true
    if !wholePart whole || !fracOk || !expOk || (frac.isNone && rest.isEmpty) then none
    else
      match Decimal.read (String.ofList cs) with
      | some d => d.toBinary64?.map fun f => .float f.shown f.truncate f.isZero
      | none => none

/-- Reads two decimal digits. -/
def twoDigits : List Char → Option (Nat × List Char)
  | a :: b :: rest =>
    if a.isDigit && b.isDigit then some ((a.toNat - 48) * 10 + (b.toNat - 48), rest) else none
  | _ => none

/-- Reads a date `YYYY-MM-DD` onto a timestamp. -/
def readDate (cs : List Char) : Option (Timestamp × List Char) := do
  let (hi, cs) ← twoDigits cs
  let (lo, cs) ← twoDigits cs
  let cs ← match cs with
    | '-' :: rest => some rest
    | _ => none
  let (month, cs) ← twoDigits cs
  let cs ← match cs with
    | '-' :: rest => some rest
    | _ => none
  let (day, cs) ← twoDigits cs
  let year := hi * 100 + lo
  if 1 ≤ month && month ≤ 12 && 1 ≤ day && day ≤ Timestamp.daysIn year month then
    some ({ year, month, day }, cs)
  else none

/-- Reads a time `hh:mm:ss` with an optional fraction of a second onto a timestamp; gives the
number of places of the fraction read, at most nine. -/
def readTime (t : Timestamp) (cs : List Char) : Option (Timestamp × Nat × List Char) := do
  let (hour, cs) ← twoDigits cs
  let cs ← match cs with
    | ':' :: rest => some rest
    | _ => none
  let (minute, cs) ← twoDigits cs
  let cs ← match cs with
    | ':' :: rest => some rest
    | _ => none
  let (second, cs) ← twoDigits cs
  let t := { t with hour, minute, second }
  if hour > 23 || minute > 59 || second > 60 then none
  else
    match cs with
    | '.' :: rest =>
      let ds := rest.takeWhile Char.isDigit
      if ds.isEmpty then none
      else some ({ t with nanos := Timestamp.nanosOf ds }, min ds.length 9, rest.dropWhile Char.isDigit)
    | _ => some (t, 0, cs)

/-- Reads the offset of a time from UTC, in seconds: `Z` or a signed `hh:mm`. -/
def readOffset : List Char → Option (Int × List Char)
  | 'Z' :: rest | 'z' :: rest => some (0, rest)
  | s :: rest =>
    if s == '+' || s == '-' then do
      let (hour, cs) ← twoDigits rest
      let cs ← match cs with
        | ':' :: more => some more
        | _ => none
      let (minute, cs) ← twoDigits cs
      let seconds : Int := ((hour * 60 + minute) * 60 : Nat)
      if hour > 23 || minute > 59 then none else some (if s == '-' then -seconds else seconds, cs)
    else none
  | [] => none

/-- The text of a date, a time, or a date and a time with an optional offset: a point in time
when it has an offset, a local date, time or date and time otherwise. -/
def datetimeText? (cs : List Char) : Option String :=
  match readDate cs with
  | some (t, []) => some t.dateText
  | some (t, sep :: rest) =>
    if sep == 'T' || sep == 't' || sep == ' ' then
      match readTime t rest with
      | some (t, places, []) => some (t.dateText ++ "T" ++ t.localClock places)
      | some (t, _, r) =>
        match readOffset r with
        | some (offset, []) => some { t with offset }.carryLeapSecond.shown
        | _ => none
      | none => none
    else none
  | none =>
    match readTime { year := 0, month := 1, day := 1 } cs with
    | some (t, places, []) => some (t.localClock places)
    | _ => none

/-- Whether a character may stand in a number, a date or a time. -/
def isTokenChar (c : Char) : Bool :=
  isBareChar c || c == '+' || c == '.' || c == ':'

/-- Reads a value that is not a string, an array or an inline table. -/
def readScalar (cs : List Char) : Option (Value × List Char) :=
  let tok := cs.takeWhile isTokenChar
  let rest := cs.dropWhile isTokenChar
  let (tok, rest) :=
    match readDate tok, rest with
    | some (_, []), ' ' :: more =>
      let time := more.takeWhile isTokenChar
      if (readTime default time).isSome then (tok ++ ' ' :: time, more.dropWhile isTokenChar) else (tok, rest)
    | _, _ => (tok, rest)
  if tok == ['t', 'r', 'u', 'e'] then some (.bool true, rest)
  else if tok == ['f', 'a', 'l', 's', 'e'] then some (.bool false, rest)
  else if let some text := datetimeText? tok then some (.datetime text, rest)
  else
    match readInteger tok with
    | some n => some (.int n, rest)
    | none => (readFloat tok).map (·, rest)

/-- Skips what may stand between the items of an array: blanks, line breaks and comments. -/
def skipFill : Nat → List Char → Option (List Char)
  | 0, cs => some cs
  | fuel + 1, cs =>
    match skipBlanks cs with
    | '\n' :: rest => skipFill fuel rest
    | '\r' :: '\n' :: rest => skipFill fuel rest
    | '#' :: rest => (commentRest rest).bind (skipFill fuel)
    | cs => some cs

/-- Skips the filling between array items, bounded by the text's length. -/
def fill (cs : List Char) : Option (List Char) := skipFill (cs.length + 1) cs

mutual

/-- Reads a value. -/
def readValue : Nat → List Char → Option (Value × List Char)
  | 0, _ => none
  | fuel + 1, cs =>
    match cs with
    | '"' :: '"' :: '"' :: rest =>
      let rest := dropFirstBreak rest
      (multiBasicBody (rest.length + 1) [] rest).map fun (s, r) => (.str s, r)
    | '"' :: rest => (basicBody (rest.length + 1) [] rest).map fun (s, r) => (.str s, r)
    | '\'' :: '\'' :: '\'' :: rest =>
      (multiLiteralBody [] (dropFirstBreak rest)).map fun (s, r) => (.str s, r)
    | '\'' :: rest => (literalBody rest).map fun (s, r) => (.str s, r)
    | '[' :: rest => readArray fuel [] rest
    | '{' :: rest => readInline fuel [] rest
    | _ => readScalar cs

/-- Reads the items of an array after its opening bracket or a comma; `acc` holds the items
read, last first. -/
def readArray : Nat → List Value → List Char → Option (Value × List Char)
  | 0, _, _ => none
  | fuel + 1, acc, cs =>
    match fill cs with
    | some (']' :: rest) => some (.arr acc.reverse, rest)
    | some cs =>
      match readValue fuel cs with
      | none => none
      | some (v, rest) =>
        match fill rest with
        | some (',' :: more) => readArray fuel (v :: acc) more
        | some (']' :: more) => some (.arr (v :: acc).reverse, more)
        | _ => none
    | none => none

/-- Reads the pairs of an inline table after its opening brace or a comma; `acc` holds the
pairs read, last first. -/
def readInline : Nat → List Statement → List Char → Option (Value × List Char)
  | 0, _, _ => none
  | fuel + 1, acc, cs =>
    match skipBlanks cs, acc with
    | '}' :: rest, [] => some (.table [], rest)
    | cs, _ =>
      match readKey cs with
      | none => none
      | some (key, rest) =>
        match skipBlanks rest with
        | '=' :: more =>
          match readValue fuel (skipBlanks more) with
          | none => none
          | some (v, after) =>
            match skipBlanks after with
            | ',' :: more => readInline fuel (.pair key v :: acc) more
            | '}' :: more =>
              (build (.pair key v :: acc).reverse).toOption.map fun t => (.table t, more)
            | _ => none
        | _ => none

end

/-- Reads the statements of a text from its current line on; `acc` holds the statements
read, last first. -/
def statements : Nat → List Statement → List Char → Option (List Statement)
  | 0, _, _ => none
  | fuel + 1, acc, cs =>
    match skipBlanks cs with
    | [] => some acc.reverse
    | '\n' :: rest => statements fuel acc rest
    | '\r' :: '\n' :: rest => statements fuel acc rest
    | '#' :: rest => (commentRest rest).bind (statements fuel acc)
    | '[' :: '[' :: rest =>
      (readKey (skipBlanks rest)).bind fun (key, r) =>
        match skipBlanks r with
        | ']' :: ']' :: r => (lineEnd r).bind (statements fuel (.arrayHeader key :: acc))
        | _ => none
    | '[' :: rest =>
      (readKey (skipBlanks rest)).bind fun (key, r) =>
        match skipBlanks r with
        | ']' :: r => (lineEnd r).bind (statements fuel (.header key :: acc))
        | _ => none
    | cs =>
      (readKey cs).bind fun (key, r) =>
        match skipBlanks r with
        | '=' :: r =>
          let r := skipBlanks r
          (readValue (2 * r.length + 2) r).bind fun (v, r) =>
            (lineEnd r).bind (statements fuel (.pair key v :: acc))
        | _ => none

/-- The table of a TOML text, or why it cannot be read. -/
def parse (text : String) : Except String (List (String × Value)) :=
  let cs := text.toList
  match statements (cs.length + 2) [] cs with
  | none => .error "toml: invalid document"
  | some stmts => build stmts

example : (parse "[rules]\ndir = [\"rules\", 'x'] # where\n[output]\nmode = \"siem_rule\"\n").toOption.isSome = true := by
  decide +kernel
example : (parse "a = 1\na = 2\n").toOption.isSome = false := by decide +kernel
example : (parse "a = 01\n").toOption.isSome = false := by decide +kernel
example : (parse "t = 1979-05-27 07:32:00Z\nf = -1_000.5e-3\nx = 0xff\n").toOption.isSome = true := by
  decide +kernel

end SigmaQuery.Toml
