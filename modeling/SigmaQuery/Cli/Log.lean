import SigmaQuery.Text.Utf8
/-!
# Log lines

A log entry has a level, a message and named fields. It is written as one line of
`key=value` pairs: the level, the message (left out when empty), then the fields sorted by
name. A value is written as it is when it consists only of ASCII letters, digits and
`- . _ / @ ^ +`, and in double quotes with escapes otherwise; so an empty value is written as
nothing at all. Field values are bytes, which need not be UTF-8; a byte that begins no valid
encoding is written `\xNN` inside the quotes.

Levels are ordered from the most severe, `fatal`, to the most verbose, `trace`; a logger
set to a level writes the entries of that level and the more severe ones.

Source: `TextFormatter` of the logrus package, as `initLogging` of `src/cmd/root.go:88–99`
sets it up.
-/

namespace SigmaQuery.Cli

open Text

/-- How severe a log entry is. -/
inductive Level where
  | fatal
  | error
  | warning
  | info
  | debug
  | trace
  deriving DecidableEq, Repr, Inhabited

namespace Level

/-- The rank of a level, the most severe lowest. -/
def rank : Level → Nat
  | .fatal => 1
  | .error => 2
  | .warning => 3
  | .info => 4
  | .debug => 5
  | .trace => 6

/-- The name a log line gives a level. -/
def name : Level → String
  | .fatal => "fatal"
  | .error => "error"
  | .warning => "warning"
  | .info => "info"
  | .debug => "debug"
  | .trace => "trace"

/-- Whether a logger set to `threshold` writes entries of level `l`. -/
def admits (threshold l : Level) : Bool := l.rank ≤ threshold.rank

end Level

/-- A log entry. -/
structure LogEntry where
  level : Level
  message : String
  fields : List (String × Bytes) := []
  deriving Repr, Inhabited

namespace LogEntry

/-- Whether a character may stand in a value written without quotes. -/
def isBare (c : Char) : Bool :=
  ('a' ≤ c && c ≤ 'z') || ('A' ≤ c && c ≤ 'Z') || ('0' ≤ c && c ≤ '9') || ['-', '.', '_', '/', '@', '^', '+'].contains c

/-- A value as a log line writes it. -/
def value (b : Bytes) : String :=
  let s := lossy b
  if s.toList.all isBare then s else quoteBytes b

/-- Inserts a field into fields sorted by name, after those of the same name. -/
def insertField (f : String × Bytes) : List (String × Bytes) → List (String × Bytes)
  | [] => [f]
  | g :: rest => if f.1 < g.1 then f :: g :: rest else g :: insertField f rest

/-- The line of an entry, with its line feed. -/
def line (e : LogEntry) : String :=
  let sorted := e.fields.foldr insertField []
  let pairs := ("level", utf8 e.level.name) ::
    ((if e.message.isEmpty then [] else [("msg", utf8 e.message)]) ++ sorted)
  " ".intercalate (pairs.map fun (k, v) => k ++ "=" ++ value v) ++ "\n"

end LogEntry

example : (LogEntry.line { level := .info, message := "rules/a.yml: ok" }) =
    "level=info msg=\"rules/a.yml: ok\"\n" := by decide +kernel
example : (LogEntry.line { level := .warning, message := "x", fields := [("rule_id", utf8 "k")] }) =
    "level=warning msg=x rule_id=k\n" := by decide +kernel

end SigmaQuery.Cli
