import Mathlib
import SigmaQuery.Document.Message
import SigmaQuery.Proofs.Text.Decoding

/-!
# The list display of false positives

A signal message lists a rule's false positives as a Python interpreter prints a list of
strings. The items are bytes: each is read as text, a byte that begins no valid encoding as
U+FFFD, and written again, so the display is the encoding of `listText` of those texts. Against
Python's own rules, checked by a reader (`Python.readList`) and a writer (`Python.listRepr`),
the display reads back as the texts and is what `repr` writes for them
(`listDisplay_reads_back`); so the byte 0x80 comes back as U+FFFD (`listDisplay_stray_byte`).
-/

namespace SigmaQuery.Python

/-- The value of a hexadecimal digit of either case. -/
def hexDigitValue (c : Char) : Option Nat :=
  if '0' ≤ c ∧ c ≤ '9' then some (c.toNat - '0'.toNat)
  else if 'a' ≤ c ∧ c ≤ 'f' then some (c.toNat - 'a'.toNat + 10)
  else if 'A' ≤ c ∧ c ≤ 'F' then some (c.toNat - 'A'.toNat + 10)
  else none

/-- The last `width` hexadecimal digits of `n`, in lower case, as an escape writes them. -/
def hexField : Nat → Nat → List Char
  | 0, _ => []
  | width + 1, n => hexField width (n / 16) ++ [Nat.digitChar (n % 16)]

/-- The character that a backslash and one more character stand for, when they form a short
escape. -/
def shortEscape : Char → Option Char
  | '\\' => some '\\'
  | '\'' => some '\''
  | '"' => some '"'
  | 'n' => some '\n'
  | 'r' => some '\r'
  | 't' => some '\t'
  | _ => none

/-- How many hexadecimal digits follow a backslash and a letter that start a code point
escape. -/
def codeWidth : Char → Option Nat
  | 'x' => some 2
  | 'u' => some 4
  | 'U' => some 8
  | _ => none

/-- Where the reader of a literal's body stands: between characters, right after a backslash,
or inside the digits of a code point escape, with how many are still to come and the value read
so far. -/
inductive Pending where
  | char
  | escape
  | code (left value : Nat)

/-- Puts a character in front of the characters a reading gives. -/
def prepend (c : Char) : Option (List Char × List Char) → Option (List Char × List Char) :=
  Option.map fun (s, r) => (c :: s, r)

/-- Reads the body of a short string literal quoted by `q`, from where `p` says the reader
stands, up to the closing quote: the characters the body stands for and the text after the
quote. A line break that is not escaped, an unknown escape and a code point that is no
character leave no reading. -/
def readBody (q : Char) : Pending → List Char → Option (List Char × List Char)
  | _, [] => none
  | .char, c :: rest =>
    if c = q then some ([], rest)
    else if c = '\\' then readBody q .escape rest
    else if c = '\n' ∨ c = '\r' then none
    else prepend c (readBody q .char rest)
  | .escape, c :: rest =>
    match shortEscape c, codeWidth c with
    | some d, _ => prepend d (readBody q .char rest)
    | none, some w => readBody q (.code w 0) rest
    | none, none => none
  | .code left value, c :: rest =>
    match hexDigitValue c with
    | none => none
    | some d =>
      if left ≤ 1 then
        if (16 * value + d).isValidChar then
          prepend (Char.ofNat (16 * value + d)) (readBody q .char rest)
        else none
      else readBody q (.code (left - 1) (16 * value + d)) rest

/-- Reads a short string literal at the start of a text: the text it stands for and the text
after it. -/
def readLiteral : List Char → Option (String × List Char)
  | q :: rest =>
    if q = '\'' ∨ q = '"' then (readBody q .char rest).map fun (s, r) => (String.ofList s, r)
    else none
  | [] => none

/-- A reading of a literal's body ends inside the text it started on. -/
theorem readBody_rest_length {q : Char} :
    ∀ {p : Pending} {cs s r : List Char}, readBody q p cs = some (s, r) → r.length < cs.length
  | _, [], _, _, h => by simp [readBody] at h
  | .char, c :: rest, s, r, h => by
    simp only [readBody] at h
    split at h
    · cases h
      simp
    split at h
    · have := readBody_rest_length h
      simp
      omega
    split at h
    · cases h
    · obtain ⟨⟨s', r'⟩, h', hsr⟩ := Option.map_eq_some_iff.mp h
      cases hsr
      have := readBody_rest_length h'
      simp
      omega
  | .escape, c :: rest, s, r, h => by
    simp only [readBody] at h
    split at h
    · obtain ⟨⟨s', r'⟩, h', hsr⟩ := Option.map_eq_some_iff.mp h
      cases hsr
      have := readBody_rest_length h'
      simp
      omega
    · have := readBody_rest_length h
      simp
      omega
    · cases h
  | .code left value, c :: rest, s, r, h => by
    simp only [readBody] at h
    split at h
    · cases h
    split at h
    · split at h
      · obtain ⟨⟨s', r'⟩, h', hsr⟩ := Option.map_eq_some_iff.mp h
        cases hsr
        have := readBody_rest_length h'
        simp
        omega
      · cases h
    · have := readBody_rest_length h
      simp
      omega

/-- A literal read at the start of a text leaves less than the text. -/
theorem readLiteral_rest_length {cs r : List Char} {s : String} (h : readLiteral cs = some (s, r)) :
    r.length < cs.length := by
  match cs, h with
  | q :: rest, h =>
    simp only [readLiteral] at h
    split at h
    · obtain ⟨⟨s', r'⟩, h', hsr⟩ := Option.map_eq_some_iff.mp h
      cases hsr
      have := readBody_rest_length h'
      simp
      omega
    · cases h

/-- Reads what follows an item of a list display: `, ` and a further item, or the closing
bracket that ends the text. -/
def readMore (cs : List Char) : Option (List String) :=
  match cs with
  | [']'] => some []
  | ',' :: ' ' :: rest =>
    match _h : readLiteral rest with
    | some (s, r) => (readMore r).map (s :: ·)
    | none => none
  | _ => none
termination_by cs.length
decreasing_by
  have := readLiteral_rest_length _h
  simp
  omega

/-- Reads a list display of strings: `[]`, or items between brackets separated by `, `. -/
def readList : List Char → Option (List String)
  | '[' :: rest =>
    if rest = [']'] then some []
    else
      match readLiteral rest with
      | some (s, r) => (readMore r).map (s :: ·)
      | none => none
  | _ => none

/-- How `repr` writes one character of a string it quotes by `q`. A character beyond ASCII
stands for itself when `printable` says so, and is escaped by its size otherwise. -/
def reprChar (printable : Char → Bool) (q c : Char) : List Char :=
  let n := c.toNat
  if c = q ∨ c = '\\' then ['\\', c]
  else if c = '\t' then ['\\', 't']
  else if c = '\n' then ['\\', 'n']
  else if c = '\r' then ['\\', 'r']
  else if n < 0x20 ∨ n = 0x7F then '\\' :: 'x' :: hexField 2 n
  else if n < 0x7F then [c]
  else if !printable c then
    if n ≤ 0xFF then '\\' :: 'x' :: hexField 2 n
    else if n ≤ 0xFFFF then '\\' :: 'u' :: hexField 4 n
    else '\\' :: 'U' :: hexField 8 n
  else [c]

/-- The quote `repr` puts around a string: the double quote when the string holds a single quote
and no double quote, the single quote otherwise. -/
def reprQuote (s : String) : Char :=
  if '\'' ∈ s.toList then (if '"' ∈ s.toList then '\'' else '"') else '\''

/-- A string as `repr` writes it. -/
def repr (printable : Char → Bool) (s : String) : String :=
  let q := reprQuote s
  String.ofList (q :: (s.toList.flatMap (reprChar printable q) ++ [q]))

/-- A list of strings as `repr` writes it. -/
def listRepr (printable : Char → Bool) (items : List String) : String :=
  "[" ++ ", ".intercalate (items.map (repr printable)) ++ "]"

end SigmaQuery.Python

namespace SigmaQuery.Document

open Python

/-! ### Hexadecimal fields -/

/-- Widening a padded field by one digit puts the last digit of the number after the field of
the rest. -/
theorem hexDigits_succ {w : Nat} (hw : 0 < w) (n : Nat) :
    Text.hexDigits (w + 1) n = Text.hexDigits w (n / 16) ++ [Nat.digitChar (n % 16)] := by
  unfold Text.hexDigits
  by_cases hn : n < 16
  · have hzero : n / 16 = 0 := Nat.div_eq_of_lt hn
    rw [Nat.toDigits_of_lt_base hn, hzero, Nat.toDigits_zero, Nat.mod_eq_of_lt hn]
    obtain ⟨v, rfl⟩ := Nat.exists_eq_add_of_lt hw
    simp [List.replicate_succ']
  · rw [Nat.toDigits_of_base_le (by decide) (by omega)]
    simp only [List.length_append, List.length_singleton, List.append_assoc]
    congr 2
    omega

/-- A padded field wide enough for its number holds exactly the number's last digits. -/
theorem hexDigits_eq_hexField : ∀ {w n : Nat}, 0 < w → n < 16 ^ w →
    Text.hexDigits w n = hexField w n
  | 1, n, _, hn => by
    have hn : n < 16 := by simpa using hn
    simp [Text.hexDigits, hexField, Nat.toDigits_of_lt_base hn, Nat.mod_eq_of_lt hn]
  | w + 2, n, _, hn => by
    have hrest : n / 16 < 16 ^ (w + 1) := by
      rw [Nat.div_lt_iff_lt_mul (by decide), ← Nat.pow_succ]
      exact hn
    rw [hexDigits_succ (by omega), hexDigits_eq_hexField (by omega) hrest]
    rfl

theorem hexDigitValue_digitChar : ∀ d, d < 16 → hexDigitValue (Nat.digitChar d) = some d := by
  decide

/-! ### Reading escapes -/

/-- The digits of a field move a code point escape on by their number, adding their value. -/
theorem readBody_code_hexField {q : Char} :
    ∀ (w k value n : Nat) (rest : List Char),
      readBody q (.code (w + k + 1) value) (hexField w n ++ rest) =
        readBody q (.code (k + 1) (16 ^ w * value + n % 16 ^ w)) rest
  | 0, k, value, n, rest => by simp [hexField, Nat.mod_one]
  | w + 1, k, value, n, rest => by
    have hlast : n % 16 < 16 := Nat.mod_lt _ (by decide)
    rw [hexField, List.append_assoc, List.singleton_append,
      show w + 1 + k + 1 = w + (k + 1) + 1 by omega, readBody_code_hexField w (k + 1)]
    simp only [readBody, hexDigitValue_digitChar _ hlast]
    rw [if_neg (by omega)]
    congr 2
    rw [Nat.pow_succ, Nat.mul_comm (16 ^ w) 16, Nat.mod_mul, Nat.mul_add, Nat.mul_assoc]
    omega

/-- A code point escape of a field wide enough for a character reads as that character. -/
theorem readBody_code_char {q : Char} {w : Nat} (hw : 0 < w) (c : Char) (hc : c.toNat < 16 ^ w)
    (rest : List Char) :
    readBody q (.code w 0) (hexField w c.toNat ++ rest) = prepend c (readBody q .char rest) := by
  obtain ⟨v, rfl⟩ := Nat.exists_eq_add_of_lt hw
  have hlast : c.toNat % 16 < 16 := Nat.mod_lt _ (by decide)
  have hvalue : 16 * (16 ^ v * 0 + c.toNat / 16 % 16 ^ v) + c.toNat % 16 = c.toNat := by
    have := Nat.mod_mul (x := c.toNat) (a := 16) (b := 16 ^ v)
    rw [← Nat.pow_succ', Nat.mod_eq_of_lt (by simpa using hc)] at this
    omega
  rw [hexField, List.append_assoc, List.singleton_append, Nat.zero_add,
    show v + 1 = v + 0 + 1 by rfl, readBody_code_hexField v 0]
  simp only [readBody, hexDigitValue_digitChar _ hlast]
  rw [if_pos (by omega), hvalue, if_pos (show c.toNat.isValidChar from c.valid), Char.ofNat_toNat]

/-! ### Reading an item back -/

/-- Every character has a code below U+110000. -/
theorem toNat_lt_of_char (c : Char) : c.toNat < 0x110000 := by
  have := c.valid
  simp [UInt32.isValidChar, Nat.isValidChar] at this
  omega

theorem quote_ne_backslash {q : Char} (hq : q = '\'' ∨ q = '"') : q ≠ '\\' := by
  rcases hq with rfl | rfl <;> decide

theorem shortEscape_quote {q : Char} (hq : q = '\'' ∨ q = '"') : shortEscape q = some q := by
  rcases hq with rfl | rfl <;> rfl

/-- A character that is neither the quote, a backslash nor a line break stands for itself. -/
theorem readBody_plain {q c : Char} (hq : c ≠ q) (hb : c ≠ '\\') (hn : c ≠ '\n')
    (hr : c ≠ '\r') (rest : List Char) :
    readBody q .char (c :: rest) = prepend c (readBody q .char rest) := by
  simp [readBody, hq, hb, hn, hr]

/-- A short escape stands for its character. -/
theorem readBody_shortEscape {q e d : Char} (hq : q ≠ '\\') (he : shortEscape e = some d)
    (rest : List Char) :
    readBody q .char ('\\' :: e :: rest) = prepend d (readBody q .char rest) := by
  simp [readBody, Ne.symm hq, he]

/-- A code point escape whose field is wide enough for a character stands for it. -/
theorem readBody_codeEscape {q e : Char} {w : Nat} (hq : q ≠ '\\') (hs : shortEscape e = none)
    (he : codeWidth e = some w) (hw : 0 < w) (c : Char) (hc : c.toNat < 16 ^ w)
    (rest : List Char) :
    readBody q .char ('\\' :: e :: (hexField w c.toNat ++ rest)) =
      prepend c (readBody q .char rest) := by
  simp only [readBody, if_neg (Ne.symm hq), if_true, hs, he]
  exact readBody_code_char hw c hc rest

/-- The writing of a character reads back as that character, whichever quote the item took. -/
theorem readBody_itemChar {q : Char} (hq : q = '\'' ∨ q = '"') (c : Char) (rest : List Char) :
    readBody q .char (itemChar q c ++ rest) = prepend c (readBody q .char rest) := by
  have hqb := quote_ne_backslash hq
  have hmax := toNat_lt_of_char c
  unfold itemChar
  dsimp only
  -- one case per branch of the writer, each read back by the escape it writes
  split
  · next h =>
    have hself : shortEscape c = some c := by
      rcases (by simpa using h : c = q ∨ c = '\\') with rfl | rfl
      · exact shortEscape_quote hq
      · rfl
    exact readBody_shortEscape hqb hself rest
  split
  · next h =>
    obtain rfl : c = '\n' := by simpa using h
    exact readBody_shortEscape hqb rfl rest
  split
  · next h =>
    obtain rfl : c = '\r' := by simpa using h
    exact readBody_shortEscape hqb rfl rest
  split
  · next h =>
    obtain rfl : c = '\t' := by simpa using h
    exact readBody_shortEscape hqb rfl rest
  split
  · next h =>
    have hc : c.toNat < 16 ^ 2 := by simp at h; omega
    rw [hexDigits_eq_hexField (by decide) hc, List.cons_append, List.cons_append]
    exact readBody_codeEscape hqb rfl rfl (by decide) c hc rest
  split
  · split
    · next h =>
      have hc : c.toNat < 16 ^ 2 := by omega
      rw [hexDigits_eq_hexField (by decide) hc, List.cons_append, List.cons_append]
      exact readBody_codeEscape hqb rfl rfl (by decide) c hc rest
    split
    · next h =>
      have hc : c.toNat < 16 ^ 4 := by omega
      rw [hexDigits_eq_hexField (by decide) hc, List.cons_append, List.cons_append]
      exact readBody_codeEscape hqb rfl rfl (by decide) c hc rest
    · have hc : c.toNat < 16 ^ 8 := by omega
      rw [hexDigits_eq_hexField (by decide) hc, List.cons_append, List.cons_append]
      exact readBody_codeEscape hqb rfl rfl (by decide) c hc rest
  · next h1 h2 h3 h4 _ _ =>
    simp only [Bool.or_eq_true, beq_iff_eq, not_or] at h1 h2 h3 h4
    exact readBody_plain h1.1 h1.2 h2 h3 rest

/-- The writings of the characters of a text, closed by the quote, read back as the text. -/
theorem readBody_itemChars {q : Char} (hq : q = '\'' ∨ q = '"') :
    ∀ s rest : List Char, readBody q .char (s.flatMap (itemChar q) ++ q :: rest) = some (s, rest)
  | [], rest => by simp [readBody]
  | c :: s, rest => by
    rw [List.flatMap_cons, List.append_assoc, readBody_itemChar hq, readBody_itemChars hq s rest]
    rfl

/-! ### The display as text

The display is written as bytes, but every item is first read as text and written again, so
the display is the UTF-8 encoding of a text: `listText` of the texts the items read as. -/

/-- The text of an item of the display: its quote, its characters as `itemChar` writes them,
its quote. -/
def itemText (s : String) : String :=
  String.ofList (itemQuote s :: (s.toList.flatMap (itemChar (itemQuote s)) ++ [itemQuote s]))

/-- The text of the display of a list of texts. -/
def listText (items : List String) : String :=
  if items.isEmpty then "[]" else "[" ++ ", ".intercalate (items.map itemText) ++ "]"

theorem itemDisplay_eq (item : Text.Bytes) : itemDisplay item = Text.utf8 (itemText (Text.lossy item)) :=
  rfl

/-- The display of a list is the encoding of the display text of what its items read as. -/
theorem listDisplay_eq (items : List Text.Bytes) :
    listDisplay items = Text.utf8 (listText (items.map Text.lossy)) := by
  cases items with
  | nil => rfl
  | cons item rest =>
    rw [listDisplay, listText, if_neg (by simp), if_neg (by simp), Text.utf8_append,
      Text.utf8_append, Text.utf8_intercalate, List.map_map, List.map_map]
    have hitems : itemDisplay = (Text.utf8 ∘ itemText) ∘ Text.lossy := by
      funext x
      rw [Function.comp_apply, Function.comp_apply, itemDisplay_eq]
    rw [hitems]

theorem itemQuote_quote (s : String) : itemQuote s = '\'' ∨ itemQuote s = '"' := by
  unfold itemQuote
  split <;> simp

theorem toList_itemText (s : String) :
    (itemText s).toList = itemQuote s :: (s.toList.flatMap (itemChar (itemQuote s)) ++ [itemQuote s]) := by
  simp [itemText]

/-- An item of the display reads back as the text it shows. -/
theorem readLiteral_itemText (s : String) (rest : List Char) :
    readLiteral ((itemText s).toList ++ rest) = some (s, rest) := by
  have hq := itemQuote_quote s
  rw [toList_itemText, List.cons_append, List.append_assoc, List.singleton_append, readLiteral,
    if_pos hq, readBody_itemChars hq]
  simp

/-! ### Reading the list back -/

/-- Texts joined by a separator: the first, then the separator before each of the others. -/
theorem toList_intercalate_cons (sep x : String) :
    ∀ xs : List String, (sep.intercalate (x :: xs)).toList =
      x.toList ++ xs.flatMap fun y => sep.toList ++ y.toList
  | [] => by simp [String.intercalate_singleton]
  | y :: ys => by
    rw [String.intercalate_cons_cons, String.toList_append, String.toList_append,
      toList_intercalate_cons sep y ys]
    simp

/-- The items after the first, each after `, `, and the closing bracket read back as those
items. -/
theorem readMore_items : ∀ items : List String,
    readMore ((items.flatMap fun s => ',' :: ' ' :: (itemText s).toList) ++ [']']) = some items
  | [] => by rw [List.flatMap_nil, List.nil_append, readMore]
  | s :: items => by
    simp only [List.flatMap_cons, List.append_assoc, List.cons_append]
    rw [readMore]
    split
    · next hread =>
      rw [readLiteral_itemText] at hread
      obtain ⟨rfl, rfl⟩ := Prod.mk.inj (Option.some.inj hread)
      rw [readMore_items items]
      rfl
    · next hread =>
      rw [readLiteral_itemText] at hread
      cases hread

/-- The display text of a list reads back as the list. -/
theorem readList_listText (items : List String) :
    readList (listText items).toList = some items := by
  cases items with
  | nil => rfl
  | cons s items =>
    have hshape : (listText (s :: items)).toList =
        '[' :: ((itemText s).toList ++
          ((items.flatMap fun y => ',' :: ' ' :: (itemText y).toList) ++ [']'])) := by
      rw [listText, if_neg (by simp), String.toList_append, String.toList_append, List.map_cons,
        toList_intercalate_cons]
      simp [List.flatMap_map]
    have hopen : (itemText s).toList ++
        ((items.flatMap fun y => ',' :: ' ' :: (itemText y).toList) ++ [']']) ≠ [']'] := by
      simp [toList_itemText]
    rw [hshape, readList, if_neg hopen, readLiteral_itemText]
    dsimp only
    rw [readMore_items]
    rfl

/-! ### The display is what `repr` writes -/

/-- Printable ASCII is graphic. -/
theorem isGraphic_ascii : ∀ n, n < 0x7F → 0x20 ≤ n → Text.isGraphic (Char.ofNat n) = true := by
  decide +kernel

/-- A character is written as `repr` writes it when the two agree on whether it is printable. -/
theorem itemChar_eq_reprChar {printable : Char → Bool} {c : Char}
    (h : printable c = Text.isGraphic c) (q : Char) : itemChar q c = reprChar printable q c := by
  have hmax := toNat_lt_of_char c
  unfold itemChar reprChar
  dsimp only
  by_cases hq : c = q ∨ c = '\\'
  · simp [hq]
  by_cases hn : c = '\n'
  · subst hn
    simp at hq ⊢
  by_cases hr : c = '\r'
  · subst hr
    simp at hq ⊢
  by_cases ht : c = '\t'
  · subst ht
    simp at hq ⊢
  simp only [Bool.or_eq_true, beq_iff_eq, hq, hn, hr, ht, if_false, decide_eq_true_eq]
  by_cases hctl : c.toNat < 0x20 ∨ c.toNat = 0x7F
  · rw [if_pos hctl, if_pos hctl, hexDigits_eq_hexField (by decide) (by omega)]
  rw [if_neg hctl, if_neg hctl]
  by_cases hascii : c.toNat < 0x7F
  · -- printable ASCII stands for itself on both sides
    have hgraphic : Text.isGraphic c = true := by
      simpa using isGraphic_ascii c.toNat hascii (by omega)
    simp [hascii, hgraphic]
  · -- beyond ASCII both escape exactly the characters that are not printable
    have hspace : (c != ' ') = true := by
      simp only [bne_iff_ne, ne_eq]
      intro hc
      subst hc
      exact hascii (by decide)
    rw [if_neg hascii, h, hspace, Bool.and_true]
    by_cases hp : (!Text.isGraphic c) = true
    · rw [if_pos hp, if_pos hp]
      by_cases h1 : c.toNat ≤ 0xFF
      · rw [if_pos h1, if_pos h1, hexDigits_eq_hexField (by decide) (by omega)]
      by_cases h2 : c.toNat ≤ 0xFFFF
      · rw [if_neg h1, if_neg h1, if_pos h2, if_pos h2,
          hexDigits_eq_hexField (by decide) (by omega)]
      · rw [if_neg h1, if_neg h1, if_neg h2, if_neg h2,
          hexDigits_eq_hexField (by decide) (by omega)]
    · rw [if_neg hp, if_neg hp]

/-- An item takes the quote `repr` takes. -/
theorem itemQuote_eq_reprQuote (s : String) : itemQuote s = reprQuote s := by
  unfold itemQuote reprQuote
  by_cases hsingle : '\'' ∈ s.toList <;> by_cases hdouble : '"' ∈ s.toList <;>
    simp [hsingle, hdouble]

/-- An item opens with a double quote exactly when it holds a single quote and no double
quote. -/
theorem head_itemText (s : String) :
    (itemText s).toList.head? = some '"' ↔ '\'' ∈ s.toList ∧ '"' ∉ s.toList := by
  rw [toList_itemText, List.head?_cons, Option.some.injEq, itemQuote_eq_reprQuote, reprQuote]
  by_cases hsingle : '\'' ∈ s.toList <;> by_cases hdouble : '"' ∈ s.toList <;>
    simp [hsingle, hdouble]

/-- An item is written as `repr` writes it when the two agree on which of its characters are
printable. -/
theorem itemText_eq_repr {printable : Char → Bool} {s : String}
    (h : ∀ c ∈ s.toList, printable c = Text.isGraphic c) : itemText s = repr printable s := by
  have hchars : s.toList.flatMap (itemChar (reprQuote s)) =
      s.toList.flatMap (reprChar printable (reprQuote s)) := by
    simp only [List.flatMap_def]
    rw [List.map_congr_left fun c hc => itemChar_eq_reprChar (h c hc) (reprQuote s)]
  unfold itemText Python.repr
  dsimp only
  rw [itemQuote_eq_reprQuote, hchars]

/-- The display text of a list is what `repr` writes for it when the two agree on which of its
characters are printable. -/
theorem listText_eq_listRepr {printable : Char → Bool} {items : List String}
    (h : ∀ s ∈ items, ∀ c ∈ s.toList, printable c = Text.isGraphic c) :
    listText items = listRepr printable items := by
  cases items with
  | nil => rfl
  | cons s rest =>
    rw [listText, if_neg (by simp), listRepr,
      List.map_congr_left fun x hx => itemText_eq_repr (h x hx)]

/-! ### False positives given by bytes -/

/-- The false positives of a message are written as a Python list display of the texts they
read as, each byte that begins no valid encoding read as U+FFFD. The display is UTF-8; read
under Python's rules it gives those texts back, so it gives the items themselves back when they
are UTF-8. An item is quoted by double quotes exactly when its text holds a single quote and no
double quote, and the display is what Python's `repr` writes for the texts whenever Python's
table of printable characters agrees with `Text.isGraphic` on their characters. -/
theorem listDisplay_reads_back (items : List Text.Bytes) :
    Text.IsUtf8 (listDisplay items) ∧
      readList (Text.lossy (listDisplay items)).toList = some (items.map Text.lossy) ∧
      ((∀ s ∈ items, Text.IsUtf8 s) → (items.map Text.lossy).map Text.utf8 = items) ∧
      (∀ s ∈ items, (Text.lossy (itemDisplay s)).toList.head? = some '"' ↔
        '\'' ∈ (Text.lossy s).toList ∧ '"' ∉ (Text.lossy s).toList) ∧
      ∀ printable : Char → Bool,
        (∀ s ∈ items, ∀ c ∈ (Text.lossy s).toList, printable c = Text.isGraphic c) →
          Text.lossy (listDisplay items) = listRepr printable (items.map Text.lossy) := by
  refine ⟨⟨_, listDisplay_eq items⟩, ?_, fun hutf8 => ?_, fun s _ => ?_, fun printable h => ?_⟩
  · rw [listDisplay_eq, Text.lossy_utf8, readList_listText]
  · rw [List.map_map]
    exact (List.map_congr_left fun s hs => Text.utf8_lossy (hutf8 s hs)).trans (List.map_id _)
  · rw [itemDisplay_eq, Text.lossy_utf8, head_itemText]
  · rw [listDisplay_eq, Text.lossy_utf8]
    exact listText_eq_listRepr (List.forall_mem_map.mpr h)

/-- A list with both quotes, a tab and a next-line control reads back, and is written as `repr`
writes it under Python's verdict that control characters are not printable. -/
theorem listDisplay_reads_back_controls :
    let items := [Text.utf8 "it's", Text.utf8 "say \"hi\"\t", Text.utf8 "\u0085"]
    readList (Text.lossy (listDisplay items)).toList = some ["it's", "say \"hi\"\t", "\u0085"] ∧
      (∀ s ∈ items, Text.IsUtf8 s) ∧
      Text.lossy (listDisplay items) = "[\"it's\", 'say \"hi\"\\t', '\\x85']" ∧
      Text.lossy (listDisplay items) =
        listRepr (fun c => !(c.toNat < 0x20 || (0x7F ≤ c.toNat && c.toNat < 0xA0)))
          ["it's", "say \"hi\"\t", "\u0085"] :=
  have h := listDisplay_reads_back [Text.utf8 "it's", Text.utf8 "say \"hi\"\t", Text.utf8 "\u0085"]
  have htexts : [Text.utf8 "it's", Text.utf8 "say \"hi\"\t", Text.utf8 "\u0085"].map Text.lossy =
      ["it's", "say \"hi\"\t", "\u0085"] := by
    simp only [List.map_cons, List.map_nil, Text.lossy_utf8]
  -- the two verdicts agree on every character; checked by a run over the characters, since
  -- the bounded quantifiers do not reduce well in the kernel
  have hagree : (["it's", "say \"hi\"\t", "\u0085"].all fun s => s.toList.all fun c =>
      !(c.toNat < 0x20 || (0x7F ≤ c.toNat && c.toNat < 0xA0)) == Text.isGraphic c) = true := by
    decide +kernel
  ⟨htexts ▸ h.2.1, by simp [Text.IsUtf8], by decide +kernel,
    htexts ▸ h.2.2.2.2 _ (by simpa [Text.lossy_utf8] using hagree)⟩

/-- The byte 0x80, which begins no UTF-8 encoding, is displayed as U+FFFD is: the one-byte item
and the item U+FFFD have one display, so no reading of it gives both back. -/
theorem listDisplay_stray_byte :
    listDisplay [[0x80]] = listDisplay [Text.utf8 "\uFFFD"] ∧
      ([[0x80]] : List Text.Bytes) ≠ [Text.utf8 "\uFFFD"] :=
  ⟨by decide +kernel, by decide +kernel⟩

end SigmaQuery.Document
