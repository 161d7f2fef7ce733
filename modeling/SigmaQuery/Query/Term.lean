import SigmaQuery.Net.Prefix
import SigmaQuery.Query.Escape
import SigmaQuery.Rule.Error
import SigmaQuery.Text.Blank
/-!
# Query terms

An escaped value becomes a term of the log search language by its modifier: equality keeps
it, `contains`, `startswith` and `endswith` put the wildcard `*` on both sides, after it or
before it. A network becomes the dotted octets its prefix fixes, followed by `.*` when the
prefix is shorter than 32 bits; only IPv4 prefixes of 8, 16, 24 or 32 bits can be written so.
Regular expressions and unknown modifiers have no term.

Source: `Expand` and `cidrTerm` of `src/pkg/datadog/modifier.go:11–68`.
-/

namespace SigmaQuery.Query

/-- The wildcard of the query language: any sequence of characters.
`Wildcard`, `src/pkg/datadog/modifier.go:12`. -/
def wildcard : String := "*"

/-- The term that matches the addresses of an IPv4 network: the octets its prefix fixes,
then `.*` unless all four are fixed.
`cidrTerm`, `src/pkg/datadog/modifier.go:37–68`. -/
def networkTerm (value : String) : Except RuleError String :=
  match Net.parsePrefix (Text.trimBlank value) with
  | .error e => .error (.unsupportedFeature "" "cidr" ("invalid network " ++ value ++ ": " ++ e))
  | .ok p =>
    match p.address with
    | .v6 .. => .error (.unsupportedFeature "" "cidr" ("network " ++ value ++ " is not ipv4"))
    | .v4 octets =>
      if p.bits == 0 || p.bits % 8 != 0 then
        .error (.unsupportedFeature "" "cidr"
          ("prefix length /" ++ toString p.bits ++ " of " ++ value ++ " is not octet aligned"))
      else
        let fixed := ".".intercalate ((octets.take (p.bits / 8)).map toString)
        .ok (if p.bits < 32 then fixed ++ "." ++ wildcard else fixed)

/-- The term for an escaped value under a modifier.
`Expand`, `src/pkg/datadog/modifier.go:15–33`. -/
def expand (m : Modifier) (escaped : String) : Except RuleError String :=
  match m with
  | .equals => .ok escaped
  | .contains => .ok (wildcard ++ escaped ++ wildcard)
  | .startsWith => .ok (escaped ++ wildcard)
  | .endsWith => .ok (wildcard ++ escaped)
  | .cidr => networkTerm escaped
  | _ => .error (.unsupportedFeature "" ("modifier " ++ m.name) ("value " ++ escaped))

/-- The term for a raw value: escaped, then expanded, `Expand(m, EscapeValue(m, value))` of
`src/pkg/datadog/compiler.go:101`. The value's bytes are escaped, and the escaped bytes are read
back as text. -/
def term (m : Modifier) (value : String) : Except RuleError String :=
  expand m (Text.lossy (escapeValue m (Text.utf8 value)))

end SigmaQuery.Query
