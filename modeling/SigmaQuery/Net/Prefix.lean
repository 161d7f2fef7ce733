import SigmaQuery.Net.Address
/-!
# Network prefixes

A network prefix is an address, a `/` and a decimal prefix length: at most 32 for IPv4 and
128 for IPv6, written without sign or leading zeros. The last `/` of the text separates the
two parts, and an IPv6 address of a prefix may not carry a zone.

Source: `netip.ParsePrefix`, as `cidrTerm` calls it in `src/pkg/datadog/modifier.go:38`.
-/

namespace SigmaQuery.Net

/-- A network: an address and the number of leading bits that identify it. -/
structure Prefix where
  /-- The address the prefix was written with. -/
  address : Address
  /-- The prefix length in bits. -/
  bits : Nat
  deriving DecidableEq, Repr

/-- The value of a text of decimal digits, or `none` if it holds anything else or is empty. -/
def decimalValue? (cs : List Char) : Option Nat :=
  if cs.isEmpty || !cs.all Char.isDigit then none
  else some (cs.foldl (fun acc c => acc * 10 + (c.toNat - '0'.toNat)) 0)

/-- Reads a prefix length: one digit, or several digits of which the first is not zero, whose
value fits a signed 64-bit word. -/
def readBits (cs : List Char) : Option Nat :=
  match cs with
  | c :: _ :: _ => if '1' ≤ c && c ≤ '9' then (decimalValue? cs).filter (· < Nat.pow 2 63) else none
  | _ => decimalValue? cs

/-- Reads a network prefix. -/
def parsePrefix (s : String) : Except String Prefix :=
  let fault (msg : String) : Except String Prefix :=
    .error ("netip.ParsePrefix(" ++ Text.quote s ++ "): " ++ msg)
  let cs := s.toList
  if !cs.contains '/' then fault "no '/'" else
  let addrText := (cs.reverse.dropWhile (· != '/')).drop 1 |>.reverse
  let bitsText := (cs.reverse.takeWhile (· != '/')).reverse
  match parseAddress (String.ofList addrText) with
  | .error e => fault e
  | .ok addr =>
    match addr with
    | .v6 _ zone =>
      if zone != "" then fault "IPv6 zones cannot be present in a prefix"
      else finish addr 128 bitsText fault
    | .v4 _ => finish addr 32 bitsText fault
where
  /-- Reads the prefix length of a prefix whose address has `maxBits` bits. -/
  finish (addr : Address) (maxBits : Nat) (bitsText : List Char)
      (fault : String → Except String Prefix) : Except String Prefix :=
    match readBits bitsText with
    | none => fault ("bad bits after slash: " ++ Text.quote (String.ofList bitsText))
    | some n => if n > maxBits then fault "prefix length out of range" else .ok ⟨addr, n⟩

end SigmaQuery.Net
