import SigmaQuery.Text.Utf8
/-!
# Comma-separated records

A flag that takes a list reads each of its values as one record of comma-separated fields.
A field is either bare, and then holds no quote, or quoted, and then a doubled quote inside
it stands for one quote and it may run over line ends. Lines end at a line feed; a carriage
return before a line feed, or at the very end, is dropped. Empty lines before the record are
skipped, and a text with nothing but empty lines holds no record at all.

Faults name the line and the byte column (both counted from one) where they were found.

Source: `csv.Reader`, as the pflag package reads the list flags `--rules-dir` and
`--rules-include` of `src/cmd/root.go:49–55`.
-/

namespace SigmaQuery.Text

/-- Why a text does not hold a record. -/
inductive CsvFault where
  /-- The text holds no record. -/
  | noRecord
  /-- A quote inside a bare field. -/
  | bareQuote (startLine line column : Nat)
  /-- A quote inside a quoted field that neither doubles nor closes it, or a quoted field
  left open. -/
  | strayQuote (startLine line column : Nat)
  deriving DecidableEq, Repr, Inhabited

namespace CsvFault

/-- Where a fault was found, as a message writes it. -/
def place (startLine line column : Nat) : String :=
  (if startLine != line then "record on line " ++ toString startLine ++ "; " else "") ++
    "parse error on line " ++ toString line ++ ", column " ++ toString column

/-- The message of a fault. -/
def message : CsvFault → String
  | .noRecord => "EOF"
  | .bareQuote s l c => place s l c ++ ": bare \" in non-quoted field"
  | .strayQuote s l c => place s l c ++ ": extraneous or missing \" in quoted-field"

end CsvFault

namespace Csv

/-- The pieces of a text between line feeds. -/
def segments : List Char → List (List Char)
  | [] => [[]]
  | c :: rest =>
    if c == '\n' then [] :: segments rest
    else match segments rest with
      | l :: ls => (c :: l) :: ls
      | [] => [[c]]

/-- A line without a carriage return at its end. -/
def dropReturn (l : List Char) : List Char :=
  if l.getLast? == some '\r' then l.dropLast else l

/-- The lines of a text, each with its line feed when it has one. A carriage return before a
line feed, or at the very end, is dropped. -/
def lines (cs : List Char) : List (List Char) :=
  let segs := segments cs
  segs.dropLast.map (fun l => dropReturn l ++ ['\n']) ++
    match segs.getLast? with
    | some l => if l.isEmpty then [] else [dropReturn l]
    | none => []

/-- Whether a line holds nothing but its end. -/
def isBlankLine (line : List Char) : Bool := line.isEmpty || line == ['\n']

/-- The number of bytes of characters. -/
def width (cs : List Char) : Nat := (cs.map byteWidth).foldl (· + ·) 0

/-- Reads the fields of a record from the line at `(lineNo, col)`; `start` is the line where
the record began. Each step uses one unit of fuel. -/
def fields (start : Nat) :
    Nat → List Char → List (List Char) → Nat → Nat → Except CsvFault (List String)
  | 0, _, _, _, _ => .ok []
  | fuel + 1, line, more, lineNo, col =>
    match line with
    | '"' :: body => quoted start fuel body more lineNo (col + 1) []
    | _ =>
      let field := line.takeWhile (· != ',')
      let after := line.dropWhile (· != ',')
      let field := if after.isEmpty && field.getLast? == some '\n' then field.dropLast else field
      match field.idxOf? '"' with
      | some j => .error (.bareQuote start lineNo (col + width (field.take j)))
      | none =>
        match after with
        | _ :: rest =>
          (fields start fuel rest more lineNo (col + width field + 1)).map (String.ofList field :: ·)
        | [] => .ok [String.ofList field]
where
  /-- Reads a quoted field whose text so far is `acc`. -/
  quoted (start : Nat) :
      Nat → List Char → List (List Char) → Nat → Nat → List Char → Except CsvFault (List String)
    | 0, _, _, _, _, acc => .ok [String.ofList acc]
    | fuel + 1, line, more, lineNo, col, acc =>
      match line.idxOf? '"' with
      | some i =>
        let seg := line.take i
        let acc := acc ++ seg
        let line := line.drop (i + 1)
        let col := col + width seg + 1
        match line with
        | '"' :: rest => quoted start fuel rest more lineNo (col + 1) (acc ++ ['"'])
        | ',' :: rest => (fields start fuel rest more lineNo (col + 1)).map (String.ofList acc :: ·)
        | [] | ['\n'] => .ok [String.ofList acc]
        | _ => .error (.strayQuote start lineNo col)
      | none =>
        if line.isEmpty then .error (.strayQuote start lineNo col)
        else
          match more with
          | next :: rest => quoted start fuel next rest (lineNo + 1) 1 (acc ++ line)
          | [] => quoted start fuel [] [] lineNo (col + width line) (acc ++ line)

end Csv

open Csv in
/-- The fields of the first record of a text. -/
def csvRecord (s : String) : Except CsvFault (List String) :=
  let ls := lines s.toList
  let skipped := ls.takeWhile isBlankLine
  match ls.drop skipped.length with
  | [] => .error .noRecord
  | line :: more =>
    let lineNo := skipped.length + 1
    Csv.fields lineNo (2 * s.length + 4) line more lineNo 1

example : csvRecord "a,b" = .ok ["a", "b"] := by rfl
example : csvRecord "\"a,b\",c" = .ok ["a,b", "c"] := by rfl
example : csvRecord "a,\"x\"\"y\"" = .ok ["a", "x\"y"] := by rfl
example : csvRecord "a\"b" = .error (.bareQuote 1 1 2) := by rfl
example : csvRecord "\"a\"b" = .error (.strayQuote 1 1 4) := by rfl
example : csvRecord "\"abc" = .error (.strayQuote 1 1 5) := by rfl
example : csvRecord "a," = .ok ["a", ""] := by rfl

end SigmaQuery.Text
