import SigmaQuery.Text.Utf8
/-!
# Detection values

A value of a rule's detection section as the rule text gives it: the text of a scalar,
nothing, a list, or a map whose entries keep the order and the repetitions of the rule text.
Scalars are kept as written, so `1.0` stays `1.0` and `yes` stays `yes`. Map keys are kept as
bytes, because a binary key need not be UTF-8 and a field name is written out as it is.

Messages show a value the way a debugging printer would: a list in brackets with its items
separated by blanks, a map as the list of its `{Key:k Value:v}` pairs, and nothing as
`<nil>`, together with the name of the value's shape.

Source: the shapes `yamlValue` of `src/value.go:9–40` decodes to, and how
`ErrInvalidSelectionConstruct.Error` of `src/errors.go:142–148` prints them.
-/

namespace SigmaQuery

/-- A value of a rule's detection section.
The shapes of `yamlValue`, `src/value.go:9–14`. -/
inductive Value where
  /-- An empty value. -/
  | null
  /-- A scalar, as written. -/
  | text (s : String)
  /-- A list of values. -/
  | list (items : List Value)
  /-- A map, with its entries in the order of the rule text. -/
  | map (entries : List (Text.Bytes × Value))
  deriving Repr, Inhabited

namespace Value

mutual
/-- How a message shows a value.
The `%+v` verb of `ErrInvalidSelectionConstruct.Error`, `src/errors.go:146`. -/
def display : Value → String
  | .null => "<nil>"
  | .text s => s
  | .list items => "[" ++ " ".intercalate (displayItems items) ++ "]"
  | .map entries => "[" ++ " ".intercalate (displayEntries entries) ++ "]"

/-- How a message shows the items of a list. -/
def displayItems : List Value → List String
  | [] => []
  | v :: rest => v.display :: displayItems rest

/-- How a message shows the entries of a map. -/
def displayEntries : List (Text.Bytes × Value) → List String
  | [] => []
  | (k, v) :: rest => ("\x7bKey:" ++ Text.lossy k ++ " Value:" ++ v.display ++ "\x7d") :: displayEntries rest
end

/-- The name of a value's shape, as messages print it.
The `reflect.TypeOf` name of `ErrInvalidSelectionConstruct.Error`, `src/errors.go:147`. -/
def shapeName : Value → String
  | .null => "<nil>"
  | .text _ => "string"
  | .list _ => "[]interface \x7b\x7d"
  | .map _ => "yaml.MapSlice"

/-- The value of the first entry of a map with a given key. -/
def lookup (entries : List (Text.Bytes × Value)) (key : Text.Bytes) : Option Value :=
  (entries.find? (·.1 == key)).map (·.2)

example : (Value.map [(Text.utf8 "c", .text "d"), (Text.utf8 "e", .list [.text "1", .text "2"])]).display =
    "[\x7bKey:c Value:d\x7d \x7bKey:e Value:[1 2]\x7d]" := by decide +kernel

end Value

end SigmaQuery
