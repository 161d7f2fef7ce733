import SigmaQuery.Text.Utf8
/-!
# Writing JSON text

Values as compact JSON text, as the encoder of `writeResults` in `src/cmd/convert.go:70–89` and
`json.Marshal` in `src/pkg/datadog/backend.go:113–130` write them. A string goes between quotes:
a quote and a backslash behind a backslash, line feed, carriage return and tab by their short
escapes, the other control characters below U+0020 as `\u00NN`. The plain variant writes every
other byte as it is, valid UTF-8 or not. The web-safe variant reads the bytes as characters:
it also escapes `<`, `>`, `&`, U+2028 and U+2029, so that the text can sit in a page, and it
writes each byte that begins no valid encoding as `\ufffd`.

`JsonValue.render` writes a value with no blanks and the members of an object in order.
-/

namespace SigmaQuery.Text

/-- How one character appears inside a JSON string literal. -/
def jsonChar (webSafe : Bool) (c : Char) : List Char :=
  let n := c.toNat
  if c == '"' || c == '\\' then ['\\', c]
  else if c == '\n' then ['\\', 'n']
  else if c == '\r' then ['\\', 'r']
  else if c == '\t' then ['\\', 't']
  else if n < 0x20 then '\\' :: 'u' :: hexDigits 4 n
  else if webSafe && (c == '<' || c == '>' || c == '&' || n == 0x2028 || n == 0x2029) then
    '\\' :: 'u' :: hexDigits 4 n
  else [c]

/-- How one byte appears inside a plain JSON string literal: a byte below 0x80 as its
character does, any other byte as it is. -/
def jsonByte (x : UInt8) : Bytes :=
  if x.toNat < 0x80 then utf8 (String.ofList (jsonChar false (Char.ofNat x.toNat))) else [x]

/-- Bytes as a JSON string literal, quotes included. The plain variant goes byte by byte. The
web-safe variant goes character by character and writes each byte that begins no valid
encoding as `\ufffd`. -/
def jsonBytes (webSafe : Bool) (b : Bytes) : Bytes :=
  if webSafe then
    utf8 (String.ofList ('"' :: ((utf8Pieces b.length b).flatMap (fun
      | .inl c => jsonChar true c
      | .inr _ => "\\ufffd".toList) ++ ['"'])))
  else 0x22 :: (b.flatMap jsonByte ++ [0x22])

example : jsonBytes true (utf8 "a<b>&") = utf8 "\"a\\u003cb\\u003e\\u0026\"" := by decide +kernel
example : jsonBytes true [0x61, 0x80] = utf8 "\"a\\ufffd\"" := by decide +kernel
example : jsonBytes false [0x61, 0x0A, 0x80] = [0x22, 0x61, 0x5C, 0x6E, 0x80, 0x22] := by
  decide +kernel

/-- A JSON value; object members keep their order. Numbers are integers. -/
inductive JsonValue where
  | null
  | bool (b : Bool)
  | num (n : Int)
  | str (s : String)
  /-- A string given by its bytes. -/
  | bytes (b : Bytes)
  | arr (items : List JsonValue)
  | obj (members : List (String × JsonValue))
  deriving Repr, Inhabited

namespace JsonValue

/-- A list of texts as an array, or `null` when there is no list. -/
def strings : Option (List String) → JsonValue
  | none => .null
  | some xs => .arr (xs.map .str)

mutual

/-- The compact text of a value. -/
def render (webSafe : Bool) : JsonValue → Bytes
  | .null => utf8 "null"
  | .bool b => utf8 (if b then "true" else "false")
  | .num n => utf8 (toString n)
  | .str s => jsonBytes webSafe (utf8 s)
  | .bytes b => jsonBytes webSafe b
  | .arr items => utf8 "[" ++ (utf8 ",").intercalate (renderItems webSafe items) ++ utf8 "]"
  | .obj members =>
    utf8 "\x7b" ++ (utf8 ",").intercalate (renderMembers webSafe members) ++ utf8 "\x7d"

/-- The texts of the items of an array. -/
def renderItems (webSafe : Bool) : List JsonValue → List Bytes
  | [] => []
  | v :: rest => render webSafe v :: renderItems webSafe rest

/-- The texts of the members of an object. -/
def renderMembers (webSafe : Bool) : List (String × JsonValue) → List Bytes
  | [] => []
  | (k, v) :: rest =>
    (jsonBytes webSafe (utf8 k) ++ utf8 ":" ++ render webSafe v) :: renderMembers webSafe rest

end

example : (JsonValue.obj [("a", .arr [.num 1, .null]), ("b", .str "<")]).render true =
    utf8 "\x7b\"a\":[1,null],\"b\":\"\\u003c\"\x7d" := by decide +kernel

end JsonValue

end SigmaQuery.Text
