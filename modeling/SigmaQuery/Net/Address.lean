import SigmaQuery.Text.Quoted
/-!
# IP addresses

Reading an IPv4 address in dotted-decimal form (four decimal fields of at most 255, without
leading zeros) or an IPv6 address in colon-separated hexadecimal form (groups of at most four
digits, at most one `::`, an optional embedded IPv4 address in the last 32 bits and an
optional `%zone`).

A text that is not an address is refused with a message that quotes it and names the first
fault met from the left, and, where one exists, the rest of the text from that fault on.

Source: `netip.ParseAddr`, which `netip.ParsePrefix` calls for `cidrTerm` in
`src/pkg/datadog/modifier.go:38`.
-/

namespace SigmaQuery.Net

/-- An IP address: four octets, or sixteen octets and a zone that is empty when absent. -/
inductive Address where
  /-- An IPv4 address. -/
  | v4 (octets : List Nat)
  /-- An IPv6 address with its zone. -/
  | v6 (octets : List Nat) (zone : String)
  deriving DecidableEq, Repr

/-- The message for a text that is not an address: the fault, and the rest of the text from
the fault on when it is not empty. -/
def addressError (input fault rest : String) : String :=
  "ParseAddr(" ++ Text.quote input ++ "): " ++ fault ++
    (if rest == "" then "" else " (at " ++ Text.quote rest ++ ")")

/-- Reads four dotted decimal fields from `cs`; messages cite `input`, the whole text being
read. -/
def readDottedQuad (input : String) (cs : List Char) : Except String (List Nat) :=
  go cs true none 0 0 0 []
where
  /-- Reads the rest `cs`; `first` is set before the first character, `prev` is the last
  character read, `val` and `digits` describe the current field and `fields` the finished
  ones. -/
  go : List Char → Bool → Option Char → Nat → Nat → Nat → List Nat → Except String (List Nat)
    | [], _, _, val, _, pos, fields =>
      if pos < 3 then .error (addressError input "IPv4 address too short" "")
      else .ok (fields ++ [val])
    | c :: rest, first, prev, val, digits, pos, fields =>
      if c.isDigit then
        if digits == 1 && val == 0 then
          .error (addressError input "IPv4 field has octet with leading zero" "")
        else
          let v := val * 10 + (c.toNat - '0'.toNat)
          if v > 255 then .error (addressError input "IPv4 field has value >255" "")
          else go rest false (some c) v (digits + 1) pos fields
      else if c == '.' then
        if first || rest.isEmpty || prev == some '.' then
          .error (addressError input "IPv4 field must have at least one digit"
            (String.ofList (c :: rest)))
        else if pos == 3 then .error (addressError input "IPv4 address too long" "")
        else go rest false (some c) 0 0 (pos + 1) (fields ++ [val])
      else .error (addressError input "unexpected character" (String.ofList (c :: rest)))

/-- The value of a hexadecimal digit. -/
def hexValue? (c : Char) : Option Nat :=
  if c.isDigit then some (c.toNat - '0'.toNat)
  else if 'a' ≤ c && c ≤ 'f' then some (c.toNat - 'a'.toNat + 10)
  else if 'A' ≤ c && c ≤ 'F' then some (c.toNat - 'A'.toNat + 10)
  else none

/-- Reads the hexadecimal digits at the start of a group: how many, their value and what
follows. A fifth digit is a fault, cited from the start of the group `whole`. -/
def readGroup (input : String) (whole : List Char) : List Char → Nat → Nat →
    Except String (Nat × Nat × List Char)
  | [], count, acc => .ok (count, acc, [])
  | c :: rest, count, acc =>
    match hexValue? c with
    | none => .ok (count, acc, c :: rest)
    | some d =>
      if count ≥ 4 then
        .error (addressError input "each group must have 4 or less digits" (String.ofList whole))
      else readGroup input whole rest (count + 1) (acc * 16 + d)

/-- The state of reading IPv6 groups: the octets read, the rest of the text and the octet
position of a `::`, if one was read. -/
structure GroupState where
  /-- Octets read so far. -/
  octets : List Nat
  /-- Text not yet read. -/
  rest : List Char
  /-- Where a `::` stands, in octets. -/
  ellipsis : Option Nat

/-- Reads colon-separated groups until sixteen octets are read or the text ends. -/
def readGroups (input : String) (i : Nat) (st : GroupState) : Except String GroupState :=
  if _h : 16 ≤ i then .ok st else
  match readGroup input st.rest st.rest 0 0 with
  | .error e => .error e
  | .ok (count, acc, after) =>
    if count == 0 then
      .error (addressError input "each colon-separated field must have at least one digit"
        (String.ofList st.rest))
    else if after.head? == some '.' then
      if st.ellipsis.isNone && i != 12 then
        .error (addressError input
          "embedded IPv4 address must replace the final 2 fields of the address"
          (String.ofList st.rest))
      else if i + 4 > 16 then
        .error (addressError input
          "too many hex fields to fit an embedded IPv4 at the end of the address"
          (String.ofList st.rest))
      else match readDottedQuad input st.rest with
        | .error e => .error e
        | .ok fields => .ok { st with octets := st.octets ++ fields, rest := [] }
    else
      let octets := st.octets ++ [acc / 256, acc % 256]
      match after with
      | [] => .ok { st with octets := octets, rest := [] }
      | c :: more =>
        if c != ':' then
          .error (addressError input "unexpected character, want colon" (String.ofList after))
        else match more with
          | [] =>
            .error (addressError input "colon must be followed by more characters"
              (String.ofList after))
          | ':' :: more2 =>
            if st.ellipsis.isSome then
              .error (addressError input "multiple :: in address" (String.ofList more))
            else if more2.isEmpty then
              .ok { octets := octets, rest := [], ellipsis := some (i + 2) }
            else readGroups input (i + 2) { octets := octets, rest := more2, ellipsis := some (i + 2) }
          | _ => readGroups input (i + 2) { st with octets := octets, rest := more }
termination_by 16 - i

/-- Reads an IPv6 address with an optional zone. -/
def readV6 (input : String) : Except String Address :=
  let cs := input.toList
  let body := cs.takeWhile (· != '%')
  let zoneChars := (cs.dropWhile (· != '%')).drop 1
  let hasZone := cs.contains '%'
  if hasZone && zoneChars.isEmpty then
    .error (addressError input "zone must be a non-empty string" "")
  else
    let zone := String.ofList zoneChars
    let (ellipsis, rest) := match body with
      | ':' :: ':' :: more => (some 0, more)
      | _ => (none, body)
    if ellipsis.isSome && rest.isEmpty then .ok (.v6 (List.replicate 16 0) zone)
    else match readGroups input 0 { octets := [], rest := rest, ellipsis := ellipsis } with
      | .error e => .error e
      | .ok st =>
        if !st.rest.isEmpty then
          .error (addressError input "trailing garbage after address" (String.ofList st.rest))
        else if st.octets.length < 16 then
          match st.ellipsis with
          | none => .error (addressError input "address string too short" "")
          | some e =>
            .ok (.v6 (st.octets.take e ++ List.replicate (16 - st.octets.length) 0 ++
              st.octets.drop e) zone)
        else if st.ellipsis.isSome then
          .error (addressError input "the :: must expand to at least one field of zeros" "")
        else .ok (.v6 st.octets zone)

/-- Reads an IP address: IPv4 when a `.` comes before any `:`, IPv6 when a `:` does. -/
def parseAddress (s : String) : Except String Address :=
  match s.toList.find? (fun c => c == '.' || c == ':' || c == '%') with
  | some '.' => (readDottedQuad s s.toList).map .v4
  | some ':' => readV6 s
  | some _ => .error (addressError s "missing IPv6 address" "")
  | none => .error (addressError s "unable to parse IP" "")

end SigmaQuery.Net
