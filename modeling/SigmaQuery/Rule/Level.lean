import SigmaQuery.Text.Blank
import SigmaQuery.Text.Case
import SigmaQuery.Text.Utf8
/-!
# Rule levels

A rule states how severe its matches are: informational, low, medium, high or critical. The
level is read without regard to case or surrounding blanks, and a rule without a level is
low.

Source: `Level` and `ParseLevel` of `src/rule.go:147–168`.
-/

namespace SigmaQuery

/-- How severe the matches of a rule are. -/
inductive Level where
  | informational
  | low
  | medium
  | high
  | critical
  deriving DecidableEq, Repr

namespace Level

/-- The name of a level. -/
def name : Level → String
  | .informational => "informational"
  | .low => "low"
  | .medium => "medium"
  | .high => "high"
  | .critical => "critical"

/-- The level with a given lower-case name. -/
def ofName? : String → Option Level
  | "informational" => some .informational
  | "low" => some .low
  | "medium" => some .medium
  | "high" => some .high
  | "critical" => some .critical
  | _ => none

/-- Reads a rule's level from the bytes written: blanks around it and case are ignored, and
the empty level is low. The error quotes the level as it was written, byte for byte.
`ParseLevel`, `src/rule.go:159–168`. -/
def parse (raw : List UInt8) : Except String Level :=
  let l := Text.lower (Text.trimBlank (Text.lossy raw))
  if l == "" then .ok .low
  else match ofName? l with
    | some v => .ok v
    | none => .error ("unknown level " ++ Text.quoteBytes raw)

example : (parse " HIGH ".toUTF8.toList).toOption = some .high := by decide +kernel
example : (parse []).toOption = some .low := by decide +kernel
example : (match parse [0x41, 0x80, 0x42] with
    | .error e => e
    | .ok _ => "") = "unknown level \"A\\x80B\"" := by decide +kernel

end Level

end SigmaQuery
