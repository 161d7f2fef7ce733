import SigmaQuery.Text.JsonSyntax
import SigmaQuery.Text.Json
import SigmaQuery.Proofs.Document.ListDisplay
import SigmaQuery.Proofs.Text.Decoding

/-!
# Reading written JSON back

The compact text `JsonValue.render` writes is read by `JsonTree.parse?` as the value it was
written from (`JsonValue.parse?_render`), up to what a reader keeps of it (`JsonValue.tree`): a
number as its decimal text, a text as its UTF-8 bytes, and bytes as the variant keeps them
(`readBack`): the plain variant every byte, the web-safe one the encoding of their text.

The proof follows the writer. `ReadsAs w r` says that the string reader takes the written
bytes `w` as `r`, whatever follows; it holds of each escape and plain byte and composes along
the written pieces (`ReadsAs.flatMap`). Arrays and objects are read within the fuel
`readFuel` counts, which the length of the written text covers (`readFuel_le_length`).

A written value holds no byte below 0x20 (`controlFree_render`), so no line feed.
-/

namespace SigmaQuery.Text

/-- The bytes a written string of `b` reads back as: all of them from the plain variant, and
from the web-safe one the encoding of the text they decode to. -/
def readBack (webSafe : Bool) (b : Bytes) : Bytes := if webSafe then utf8 (lossy b) else b

@[simp] theorem readBack_false (b : Bytes) : readBack false b = b := rfl

/-- The bytes of a text come back whole from either variant. -/
@[simp] theorem readBack_utf8 (ws : Bool) (s : String) : readBack ws (utf8 s) = utf8 s := by
  cases ws
  · rfl
  · rw [readBack, if_pos rfl, lossy_utf8]

namespace JsonTree

/-! ### Strings -/

/-- The byte of a hexadecimal digit character. -/
theorem utf8EncodeChar_digitChar : ∀ d, d < 16 →
    String.utf8EncodeChar (Nat.digitChar d) = [UInt8.ofNat (Nat.digitChar d).toNat] := by
  decide

/-- A hexadecimal digit, as a byte, reads as its value. -/
theorem hexDigit?_digitChar : ∀ d, d < 16 →
    hexDigit? (UInt8.ofNat (Nat.digitChar d).toNat) = some d := by
  decide

/-- Four hexadecimal digits read as the number they are the last digits of. -/
theorem hexWord_hexField (n : Nat) (rest : Bytes) :
    hexWord ((Python.hexField 4 n).flatMap String.utf8EncodeChar ++ rest) =
      some (n % 65536, rest) := by
  have hfield : Python.hexField 4 n = [Nat.digitChar (n / 16 / 16 / 16 % 16),
      Nat.digitChar (n / 16 / 16 % 16), Nat.digitChar (n / 16 % 16), Nat.digitChar (n % 16)] :=
    rfl
  have hd : ∀ k, k % 16 < 16 := fun k => Nat.mod_lt _ (by decide)
  rw [hfield]
  simp only [List.flatMap_cons, List.flatMap_nil, utf8EncodeChar_digitChar _ (hd _),
    List.append_nil, List.cons_append, List.nil_append, hexWord, hexDigit?_digitChar _ (hd _),
    Option.bind_eq_bind, Option.bind_some, Option.pure_def, Option.some.injEq, Prod.mk.injEq,
    and_true]
  omega

/-- A `\u` escape of a code outside the surrogates reads as the character with that code. -/
theorem unicodeEscape_of_not_surrogate {u : Nat} (h : u < 0xD800 ∨ 0xE000 ≤ u)
    (rest : Bytes) : unicodeEscape u rest = (Char.ofNat u, rest) := by
  unfold unicodeEscape
  rw [if_neg (by simp; omega), if_neg (by simp; omega)]

/-- Written bytes `w` that the string reader takes as the bytes `r`, whatever follows them, in
at most one step for each byte written. -/
def ReadsAs (w r : Bytes) : Prop :=
  ∃ n ≤ w.length, ∀ fuel acc more,
    stringBody (fuel + n) acc (w ++ more) = stringBody fuel (r.reverse ++ acc) more

theorem ReadsAs.nil : ReadsAs [] [] := ⟨0, le_refl _, fun _ _ _ => rfl⟩

theorem ReadsAs.append {w₁ r₁ w₂ r₂ : Bytes} (h₁ : ReadsAs w₁ r₁) (h₂ : ReadsAs w₂ r₂) :
    ReadsAs (w₁ ++ w₂) (r₁ ++ r₂) := by
  obtain ⟨n₁, hn₁, h₁⟩ := h₁
  obtain ⟨n₂, hn₂, h₂⟩ := h₂
  refine ⟨n₁ + n₂, by rw [List.length_append]; omega, fun fuel acc more => ?_⟩
  rw [show fuel + (n₁ + n₂) = fuel + n₂ + n₁ by omega, List.append_assoc, h₁, h₂,
    List.reverse_append, List.append_assoc]

/-- Pieces written one after another read as what each reads as, one after another. -/
theorem ReadsAs.flatMap {α : Type} {w r : α → Bytes} :
    ∀ {xs : List α}, (∀ x ∈ xs, ReadsAs (w x) (r x)) → ReadsAs (xs.flatMap w) (xs.flatMap r)
  | [], _ => ReadsAs.nil
  | x :: xs, h => by
    rw [List.forall_mem_cons] at h
    rw [List.flatMap_cons, List.flatMap_cons]
    exact h.1.append (ReadsAs.flatMap h.2)

/-- Written bytes closed by a quote read as a whole string. -/
theorem readString_of_readsAs {w r : Bytes} (h : ReadsAs w r) (rest : Bytes) :
    readString (w ++ 0x22 :: rest) = some (r, rest) := by
  obtain ⟨n, hn, hread⟩ := h
  have hfuel : (w ++ 0x22 :: rest).length + 1 = (w ++ 0x22 :: rest).length - n + 1 + n := by
    simp only [List.length_append, List.length_cons]
    omega
  rw [readString, hfuel, hread, stringBody]
  simp

/-- A byte that stands for itself inside a string: no control byte, quote or backslash. -/
def IsPlain (x : UInt8) : Prop := 0x20 ≤ x.toNat ∧ x ≠ 0x22 ∧ x ≠ 0x5C

theorem stringBody_plain {x : UInt8} (hx : IsPlain x) (fuel : Nat) (acc more : Bytes) :
    stringBody (fuel + 1) acc (x :: more) = stringBody fuel (x :: acc) more := by
  obtain ⟨hlo, hq, hb⟩ := hx
  rw [stringBody]
  split
  · omega
  · rfl
  · exact hq
  · exact fun _ h _ => hb h
  · exact fun _ _ h _ => hb h

/-- Plain bytes read as themselves. -/
theorem readsAs_plain : ∀ {ys : Bytes}, (∀ y ∈ ys, IsPlain y) → ReadsAs ys ys
  | [], _ => ReadsAs.nil
  | y :: ys, h => by
    rw [List.forall_mem_cons] at h
    have hy : ReadsAs [y] [y] :=
      ⟨1, le_refl _, fun fuel acc more => stringBody_plain h.1 fuel acc more⟩
    exact hy.append (readsAs_plain h.2)

/-- A backslash and a letter of a short escape read as the byte the escape stands for. -/
theorem readsAs_escape {e x : UInt8} (hu : e ≠ 0x75) (he : simpleEscape? e = some x) :
    ReadsAs [0x5C, e] [x] := by
  refine ⟨1, by simp, fun fuel acc more => ?_⟩
  rw [List.cons_append, List.cons_append, List.nil_append, stringBody]
  split
  · next _ y hy =>
    rw [he, Option.some.injEq] at hy
    rw [hy]
    rfl
  · next _ hy =>
    rw [he] at hy
    cases hy
  · exact hu

/-- A `\u` escape of a character below the surrogates reads as the character's encoding. -/
theorem readsAs_code {c : Char} (hc : c.toNat < 0xD800) :
    ReadsAs (('\\' :: 'u' :: hexDigits 4 c.toNat).flatMap String.utf8EncodeChar)
      (String.utf8EncodeChar c) := by
  have hbytes : ('\\' :: 'u' :: hexDigits 4 c.toNat).flatMap String.utf8EncodeChar =
      0x5C :: 0x75 :: (Python.hexField 4 c.toNat).flatMap String.utf8EncodeChar := by
    rw [Document.hexDigits_eq_hexField (by decide) (by omega), List.flatMap_cons,
      List.flatMap_cons]
    rfl
  rw [hbytes]
  refine ⟨1, by simp, fun fuel acc more => ?_⟩
  rw [List.cons_append, List.cons_append, stringBody]
  simp only [hexWord_hexField, Nat.mod_eq_of_lt (show c.toNat < 65536 by omega),
    unicodeEscape_of_not_surrogate (.inl hc), Char.ofNat_toNat]

/-- The bytes of a character at or above U+0020 other than a quote or a backslash are plain:
the character's own code below 0x80, and bytes at or above 0x80 past it. -/
theorem isPlain_of_mem_utf8EncodeChar {c : Char} (hc : 0x20 ≤ c.toNat) (hq : c ≠ '"')
    (hb : c ≠ '\\') : ∀ x ∈ String.utf8EncodeChar c, IsPlain x := by
  intro x hx
  rcases mem_utf8EncodeChar hx with ⟨hxc, -⟩ | hhigh
  · refine ⟨by omega, ?_, ?_⟩ <;> rintro rfl
    · exact hq (Char.toNat_inj.mp (by rw [← hxc]; rfl))
    · exact hb (Char.toNat_inj.mp (by rw [← hxc]; rfl))
  · refine ⟨by omega, ?_, ?_⟩ <;> rintro rfl <;> exact absurd hhigh (by decide)

/-- The writing of a character inside a string reads back as the character's encoding. -/
theorem readsAs_jsonChar (ws : Bool) (c : Char) :
    ReadsAs ((jsonChar ws c).flatMap String.utf8EncodeChar) (String.utf8EncodeChar c) := by
  unfold jsonChar
  dsimp only
  -- one case per branch of the writer, each read back by the escape it writes
  split
  · next h =>
    rcases (by simpa using h : c = '"' ∨ c = '\\') with rfl | rfl
    · exact readsAs_escape (e := 0x22) (by decide) rfl
    · exact readsAs_escape (e := 0x5C) (by decide) rfl
  split
  · next h =>
    obtain rfl : c = '\n' := by simpa using h
    exact readsAs_escape (e := 0x6E) (by decide) rfl
  split
  · next h =>
    obtain rfl : c = '\r' := by simpa using h
    exact readsAs_escape (e := 0x72) (by decide) rfl
  split
  · next h =>
    obtain rfl : c = '\t' := by simpa using h
    exact readsAs_escape (e := 0x74) (by decide) rfl
  split
  · next h => exact readsAs_code (by omega)
  split
  · next h =>
    -- the escapes of the web-safe variant are all below the surrogates
    have hc : c.toNat < 0xD800 := by
      simp only [Bool.and_eq_true, Bool.or_eq_true, beq_iff_eq] at h
      rcases h.2 with (((rfl | rfl) | rfl) | h) | h
      · decide
      · decide
      · decide
      · omega
      · omega
    exact readsAs_code hc
  · next h1 _ _ _ h5 _ =>
    simp only [Bool.or_eq_true, beq_iff_eq, not_or] at h1
    rw [List.flatMap_cons, List.flatMap_nil, List.append_nil]
    exact readsAs_plain (isPlain_of_mem_utf8EncodeChar (by omega) h1.1 h1.2)

/-- The `�` written for a byte that begins no valid encoding reads as the encoding of
U+FFFD. -/
theorem readsAs_replacement :
    ReadsAs ("\\ufffd".toList.flatMap String.utf8EncodeChar) (String.utf8EncodeChar '�') := by
  have hw : "\\ufffd".toList.flatMap String.utf8EncodeChar =
      [0x5C, 0x75, 0x66, 0x66, 0x66, 0x64] := by
    decide
  have hr : String.utf8EncodeChar '�' = [0xEF, 0xBF, 0xBD] := by decide
  rw [hw, hr]
  exact ⟨1, by decide, fun fuel acc more => rfl⟩

/-- The plain variant writes every byte so that it reads back as itself. -/
theorem readsAs_jsonByte (x : UInt8) : ReadsAs (jsonByte x) [x] := by
  unfold jsonByte
  split
  · next h =>
    have hcode : (Char.ofNat x.toNat).toNat = x.toNat := toNat_charOfNat (by omega)
    have hx : String.utf8EncodeChar (Char.ofNat x.toNat) = [x] := by
      rw [utf8EncodeChar_of_lt (by omega), hcode, UInt8.ofNat_toNat]
    rw [utf8_ofList, ← hx]
    exact readsAs_jsonChar false _
  · next h =>
    refine readsAs_plain (List.forall_mem_singleton.mpr ⟨by omega, ?_, ?_⟩) <;> rintro rfl <;>
      exact h (by decide)

/-- The text bytes decode to: each piece as its character, and U+FFFD for a stray byte. -/
theorem lossy_eq_elim (b : Bytes) :
    lossy b = String.ofList ((utf8Pieces b.length b).map (Sum.elim id fun _ => '�')) := by
  rw [lossy]
  congr 2
  funext p
  cases p <;> rfl

/-- Written bytes are a quote, bytes that read as those the variant keeps, and a quote. -/
theorem jsonBytes_readsAs (ws : Bool) (b : Bytes) :
    ∃ w, jsonBytes ws b = 0x22 :: (w ++ [0x22]) ∧ ReadsAs w (readBack ws b) := by
  cases ws with
  | false =>
    refine ⟨b.flatMap jsonByte, rfl, ?_⟩
    have h : ReadsAs (b.flatMap jsonByte) (b.flatMap fun x => [x]) :=
      ReadsAs.flatMap fun x _ => readsAs_jsonByte x
    rwa [List.flatMap_singleton'] at h
  | true =>
    refine ⟨?w, ?written, ?reads⟩
    case written =>
      rw [jsonBytes, if_pos rfl, utf8_ofList, List.flatMap_cons, List.flatMap_append,
        List.flatMap_assoc]
      rfl
    case reads =>
      -- each piece reads as its character, a stray byte as U+FFFD
      rw [readBack, if_pos rfl, lossy_eq_elim, utf8_ofList, List.flatMap_map]
      refine ReadsAs.flatMap fun p _ => ?_
      rcases p with c | _
      · exact readsAs_jsonChar true c
      · exact readsAs_replacement

/-- A written string is a quote and bytes that the string reader reads back, before any
rest. -/
theorem jsonBytes_append (ws : Bool) (b rest : Bytes) :
    ∃ t, jsonBytes ws b ++ rest = 0x22 :: t ∧ readString t = some (readBack ws b, rest) := by
  obtain ⟨w, hw, hread⟩ := jsonBytes_readsAs ws b
  refine ⟨w ++ 0x22 :: rest, ?_, readString_of_readsAs hread rest⟩
  rw [hw, List.cons_append, List.append_assoc, List.singleton_append]

/-! ### Numbers -/

/-- What may follow a value in a written text: its end, or the comma or bracket after it. -/
def Delimited (rest : Bytes) : Prop := ∀ x ∈ rest.head?, x = 0x2C ∨ x = 0x5D ∨ x = 0x7D

theorem delimited_nil : Delimited [] := nofun

theorem delimited_comma (rest : Bytes) : Delimited (0x2C :: rest) := fun _ h =>
  .inl (Option.some.inj h).symm

theorem delimited_bracket (rest : Bytes) : Delimited (0x5D :: rest) := fun _ h =>
  .inr (.inl (Option.some.inj h).symm)

theorem delimited_brace (rest : Bytes) : Delimited (0x7D :: rest) := fun _ h =>
  .inr (.inr (Option.some.inj h).symm)

/-- What may follow a value is nothing, or a comma, `]` or `}` and more. -/
theorem Delimited.eq_or {rest : Bytes} (h : Delimited rest) :
    rest = [] ∨ ∃ r, rest = 0x2C :: r ∨ rest = 0x5D :: r ∨ rest = 0x7D :: r := by
  rcases rest with _ | ⟨x, r⟩
  · exact .inl rfl
  · rcases h x rfl with rfl | rfl | rfl
    · exact .inr ⟨r, .inl rfl⟩
    · exact .inr ⟨r, .inr (.inl rfl)⟩
    · exact .inr ⟨r, .inr (.inr rfl)⟩

/-- The decimal digits of a number start with `0` only for zero. -/
theorem toDigits_eq_cons (m : Nat) :
    ∃ d ds, Nat.toDigits 10 m = d :: ds ∧ (d = '0' → m = 0) := by
  induction m using Nat.strong_induction_on with
  | _ m ih =>
    by_cases hm : m < 10
    · have hzero : ∀ k < 10, Nat.digitChar k = '0' → k = 0 := by decide
      exact ⟨_, [], Nat.toDigits_of_lt_base hm, hzero m hm⟩
    · -- the leading digit is that of the number without its last digit, which is not zero
      obtain ⟨d, ds, hds, hzero⟩ := ih (m / 10) (by omega)
      refine ⟨d, ds ++ [Nat.digitChar (m % 10)], ?_, fun h => absurd (hzero h) (by omega)⟩
      rw [Nat.toDigits_of_base_le (by decide) (by omega), hds, List.cons_append]

/-- The digits of a number in a base are the digit characters of values below the base. -/
theorem mem_toDigits {b n : Nat} {c : Char} (hb : 1 < b) (h : c ∈ Nat.toDigits b n) :
    ∃ d < b, c = Nat.digitChar d := by
  induction n using Nat.strong_induction_on with
  | _ n ih =>
    by_cases hn : n < b
    · rw [Nat.toDigits_of_lt_base hn, List.mem_singleton] at h
      exact ⟨n, hn, h⟩
    · rw [Nat.toDigits_of_base_le hb (by omega), List.mem_append, List.mem_singleton] at h
      rcases h with h | h
      · exact ih (n / b) (Nat.div_lt_self (by omega) hb) h
      · exact ⟨n % b, Nat.mod_lt _ (by omega), h⟩

/-- A decimal digit is one byte, a digit byte, and `0` only for zero. -/
theorem utf8EncodeChar_decimal : ∀ d, d < 10 →
    String.utf8EncodeChar (Nat.digitChar d) = [UInt8.ofNat (0x30 + d)] ∧
      isDigitByte (UInt8.ofNat (0x30 + d)) = true ∧
      (UInt8.ofNat (0x30 + d) = 0x30 → Nat.digitChar d = '0') := by
  decide

/-- The bytes of a natural number's decimal text are digits, and start with `0` only for
zero. -/
theorem utf8_toString_nat (m : Nat) :
    ∃ d ds, utf8 (toString m) = d :: ds ∧ (∀ x ∈ d :: ds, isDigitByte x = true) ∧
      (d = 0x30 → m = 0) := by
  have hdigit : ∀ c ∈ Nat.toDigits 10 m, ∃ x, String.utf8EncodeChar c = [x] ∧
      isDigitByte x = true ∧ (x = 0x30 → c = '0') := by
    intro c hc
    obtain ⟨k, hk, rfl⟩ := mem_toDigits (by decide) hc
    exact ⟨_, utf8EncodeChar_decimal k hk⟩
  obtain ⟨c, cs, hcs, hzero⟩ := toDigits_eq_cons m
  obtain ⟨x, hx, hxd, hx0⟩ := hdigit c (hcs ▸ List.mem_cons_self)
  rw [utf8_eq_flatMap, Nat.toString_eq_repr, Nat.toList_repr, hcs, List.flatMap_cons, hx]
  refine ⟨x, cs.flatMap String.utf8EncodeChar, rfl, ?_, fun h => hzero (hx0 h)⟩
  -- every other byte is a digit as well
  intro y hy
  rcases List.mem_cons.1 hy with rfl | hy
  · exact hxd
  · obtain ⟨c', hc', hy'⟩ := List.mem_flatMap.1 hy
    obtain ⟨x', hx', hxd', -⟩ := hdigit c' (hcs ▸ List.mem_cons_of_mem c hc')
    rw [hx', List.mem_singleton] at hy'
    exact hy' ▸ hxd'

theorem utf8_minus : utf8 "-" = [0x2D] := by decide +kernel

/-- A run of digits before what may follow a value is split off whole. -/
theorem digitsPrefix_append {ds rest : Bytes} (hne : ds ≠ [])
    (hds : ∀ x ∈ ds, isDigitByte x = true) (hrest : Delimited rest) :
    digitsPrefix (ds ++ rest) = some (ds, rest) := by
  have hstop : rest.takeWhile isDigitByte = [] ∧ rest.dropWhile isDigitByte = rest := by
    rcases hrest.eq_or with rfl | ⟨r, rfl | rfl | rfl⟩
    · simp
    all_goals exact ⟨List.takeWhile_cons_of_neg (by decide), List.dropWhile_cons_of_neg (by decide)⟩
  unfold digitsPrefix
  rw [List.takeWhile_append_of_pos hds, List.dropWhile_append_of_pos hds, hstop.1, hstop.2,
    List.append_nil]
  simp [hne]

theorem numberPrefix_zero {rest : Bytes} (hrest : Delimited rest) :
    numberPrefix (0x30 :: rest) = some ([0x30], rest) := by
  rcases hrest.eq_or with rfl | ⟨r, rfl | rfl | rfl⟩ <;> rfl

theorem numberPrefix_digits {d : UInt8} {ds rest : Bytes} (hd : d ≠ 0x30)
    (hdigits : ∀ x ∈ d :: ds, isDigitByte x = true) (hrest : Delimited rest) :
    numberPrefix (d :: ds ++ rest) = some (d :: ds, rest) := by
  have hminus : d ≠ 0x2D := by
    rintro rfl
    exact absurd (hdigits 0x2D List.mem_cons_self) (by decide)
  have hdp := digitsPrefix_append (List.cons_ne_nil d ds) hdigits hrest
  rw [List.cons_append] at hdp ⊢
  simp only [numberPrefix, List.cons.injEq, hminus, false_and, imp_self, implies_true, hd, hdp,
    Bool.or_eq_true, beq_iff_eq, List.cons_append, List.nil_append, List.append_assoc,
    Option.pure_def, Option.bind_eq_bind, Option.bind_some, List.append_nil]
  rcases hrest.eq_or with rfl | ⟨r, rfl | rfl | rfl⟩ <;> rfl

theorem numberPrefix_neg_digits {d : UInt8} {ds rest : Bytes} (hd : d ≠ 0x30)
    (hdigits : ∀ x ∈ d :: ds, isDigitByte x = true) (hrest : Delimited rest) :
    numberPrefix (0x2D :: d :: ds ++ rest) = some (0x2D :: d :: ds, rest) := by
  have hdp := digitsPrefix_append (List.cons_ne_nil d ds) hdigits hrest
  rw [List.cons_append] at hdp
  rw [List.cons_append, List.cons_append]
  simp only [numberPrefix, List.cons.injEq, hd, false_and, imp_self, implies_true, hdp,
    Bool.or_eq_true, beq_iff_eq, List.cons_append, List.nil_append, List.append_assoc,
    Option.pure_def, Option.bind_eq_bind, Option.bind_some, List.append_nil]
  rcases hrest.eq_or with rfl | ⟨r, rfl | rfl | rfl⟩ <;> rfl

/-- The decimal text of an integer, before what may follow a value, is split off whole. -/
theorem numberPrefix_toString (n : Int) {rest : Bytes} (hrest : Delimited rest) :
    numberPrefix (utf8 (toString n) ++ rest) = some (utf8 (toString n), rest) := by
  cases n with
  | ofNat m =>
    show numberPrefix (utf8 (toString m) ++ rest) = some (utf8 (toString m), rest)
    obtain ⟨d, ds, hds, hdigits, hzero⟩ := utf8_toString_nat m
    by_cases hd : d = 0x30
    · obtain rfl := hzero hd
      rw [show utf8 (toString 0) = [0x30] by decide +kernel]
      exact numberPrefix_zero hrest
    · rw [hds]
      exact numberPrefix_digits hd hdigits hrest
  | negSucc m =>
    show numberPrefix (utf8 ("-" ++ toString (m + 1)) ++ rest) =
      some (utf8 ("-" ++ toString (m + 1)), rest)
    obtain ⟨d, ds, hds, hdigits, hzero⟩ := utf8_toString_nat (m + 1)
    have hd : d ≠ 0x30 := fun h => absurd (hzero h) (by omega)
    rw [utf8_append, utf8_minus, hds]
    exact numberPrefix_neg_digits hd hdigits hrest

/-- The decimal text of an integer starts with a minus sign or a digit. -/
theorem utf8_toString_eq_cons (n : Int) :
    ∃ d ds, utf8 (toString n) = d :: ds ∧ (d = 0x2D ∨ isDigitByte d = true) := by
  cases n with
  | ofNat m =>
    obtain ⟨d, ds, hds, hdigits, -⟩ := utf8_toString_nat m
    exact ⟨d, ds, hds, .inr (hdigits d List.mem_cons_self)⟩
  | negSucc m =>
    refine ⟨0x2D, utf8 (toString (m + 1)), ?_, .inl rfl⟩
    show utf8 ("-" ++ toString (m + 1)) = _
    rw [utf8_append, utf8_minus, List.singleton_append]

/-! ### Values -/

theorem skipSpace_cons {x : UInt8} (hx : isJsonSpace x = false) (bs : Bytes) :
    skipSpace (x :: bs) = x :: bs := by
  simp [skipSpace, List.dropWhile, hx]

/-- A byte a number starts with is no blank and starts no other value. -/
theorem numberStart_ne {d : UInt8} (hd : d = 0x2D ∨ isDigitByte d = true) :
    isJsonSpace d = false ∧ d ≠ 0x6E ∧ d ≠ 0x74 ∧ d ≠ 0x66 ∧ d ≠ 0x22 ∧ d ≠ 0x5B ∧
      d ≠ 0x7B := by
  rcases hd with rfl | hd
  · decide
  · simp only [isDigitByte, Bool.and_eq_true, decide_eq_true_eq] at hd
    have hne : ∀ e : UInt8, e.toNat < 0x30 ∨ 0x39 < e.toNat → d ≠ e := fun e he h => by
      subst h
      omega
    refine ⟨?_, hne 0x6E (by decide), hne 0x74 (by decide), hne 0x66 (by decide),
      hne 0x22 (by decide), hne 0x5B (by decide), hne 0x7B (by decide)⟩
    simp only [isJsonSpace, Bool.or_eq_false_iff, beq_eq_false_iff_ne]
    exact ⟨⟨⟨hne 0x20 (by decide), hne 0x09 (by decide)⟩, hne 0x0A (by decide)⟩,
      hne 0x0D (by decide)⟩

/-- A text that starts as a number is read as one. -/
theorem readValue_numberStart {d : UInt8} {bs : Bytes} (hd : d = 0x2D ∨ isDigitByte d = true)
    (fuel : Nat) :
    readValue (fuel + 1) (d :: bs) =
      (numberPrefix (d :: bs)).map fun (t, rest) => (.number (lossy t), rest) := by
  obtain ⟨hsp, hn, ht, hf, hq, ha, ho⟩ := numberStart_ne hd
  simp only [readValue, skipSpace_cons hsp, List.cons.injEq, hn, false_and, imp_self,
    implies_true, ht, hf, hq, ha, ho]

/-- The decimal text of an integer reads as a number with that text. -/
theorem readValue_toString (n : Int) (fuel : Nat) {rest : Bytes} (hrest : Delimited rest) :
    readValue (fuel + 1) (utf8 (toString n) ++ rest) = some (.number (toString n), rest) := by
  obtain ⟨d, ds, hds, hd⟩ := utf8_toString_eq_cons n
  have hnum := numberPrefix_toString n hrest
  rw [hds, List.cons_append] at hnum ⊢
  rw [readValue_numberStart hd, hnum, Option.map_some, ← hds]
  dsimp only
  rw [lossy_utf8]

/-- Written bytes read as a string holding what the variant keeps of them. -/
theorem readValue_jsonBytes (ws : Bool) (b : Bytes) (fuel : Nat) (rest : Bytes) :
    readValue (fuel + 1) (jsonBytes ws b ++ rest) = some (.str (readBack ws b), rest) := by
  obtain ⟨t, ht, hread⟩ := jsonBytes_append ws b rest
  rw [ht]
  simp only [readValue, skipSpace_cons (show isJsonSpace 0x22 = false from rfl), hread,
    Option.map_some]

/-- After `[`, a text that starts with neither a blank nor `]` is read as the items of an
array. -/
theorem readValue_open_bracket {x : UInt8} {t : Bytes} (hsp : isJsonSpace x = false)
    (hx : x ≠ 0x5D) (fuel : Nat) :
    readValue (fuel + 1) (0x5B :: x :: t) =
      (readItems fuel [] (x :: t)).map fun (xs, rest) => (.arr xs, rest) := by
  simp only [readValue, skipSpace_cons (show isJsonSpace 0x5B = false from rfl),
    skipSpace_cons hsp, List.cons.injEq, hx, false_and, imp_self, implies_true]

/-- After `{`, a text that starts with neither a blank nor `}` is read as the members of an
object. -/
theorem readValue_open_brace {x : UInt8} {t : Bytes} (hsp : isJsonSpace x = false)
    (hx : x ≠ 0x7D) (fuel : Nat) :
    readValue (fuel + 1) (0x7B :: x :: t) =
      (readMembers fuel [] (x :: t)).map fun (ms, rest) => (.obj ms, rest) := by
  simp only [readValue, skipSpace_cons (show isJsonSpace 0x7B = false from rfl),
    skipSpace_cons hsp, List.cons.injEq, hx, false_and, imp_self, implies_true]

end JsonTree

/-! ### Written text holds no control byte

The writer escapes every character below U+0020, and every other character is written with
bytes at or above 0x20, so a written value holds no line feed: it fits on one line. -/

/-- Bytes none of which is below 0x20. -/
def ControlFree (bs : Bytes) : Prop := ∀ x ∈ bs, 0x20 ≤ x.toNat

instance (bs : Bytes) : Decidable (ControlFree bs) :=
  inferInstanceAs (Decidable (∀ x ∈ bs, 0x20 ≤ x.toNat))

@[simp] theorem controlFree_nil : ControlFree [] := nofun

@[simp] theorem controlFree_cons {x : UInt8} {bs : Bytes} :
    ControlFree (x :: bs) ↔ 0x20 ≤ x.toNat ∧ ControlFree bs :=
  List.forall_mem_cons

@[simp] theorem controlFree_append {bs cs : Bytes} :
    ControlFree (bs ++ cs) ↔ ControlFree bs ∧ ControlFree cs :=
  List.forall_mem_append

theorem controlFree_flatMap {α : Type} {w : α → Bytes} {xs : List α}
    (hw : ∀ x ∈ xs, ControlFree (w x)) : ControlFree (xs.flatMap w) :=
  List.forall_mem_flatMap.mpr hw

theorem newline_not_mem_of_controlFree {bs : Bytes} (h : ControlFree bs) : 0x0A ∉ bs :=
  fun hn => absurd (h _ hn) (by decide)

/-- Pieces without control bytes joined by a separator without them have none. -/
theorem controlFree_intercalate {sep : Bytes} (hsep : ControlFree sep) :
    ∀ {ls : List Bytes}, (∀ l ∈ ls, ControlFree l) → ControlFree (sep.intercalate ls)
  | [], _ => controlFree_nil
  | [l], h => by
    rw [List.intercalate_singleton]
    exact h l List.mem_cons_self
  | l :: l' :: ls, h => by
    rw [List.forall_mem_cons] at h
    rw [List.intercalate_cons_cons, controlFree_append, controlFree_append]
    exact ⟨⟨h.1, hsep⟩, controlFree_intercalate hsep h.2⟩

/-- A character at or above U+0020 is written with bytes at or above 0x20. -/
theorem controlFree_utf8EncodeChar {c : Char} (hc : 0x20 ≤ c.toNat) :
    ControlFree (String.utf8EncodeChar c) := fun x hx => by
  rcases mem_utf8EncodeChar hx with ⟨hxc, -⟩ | hhigh <;> omega

theorem le_toNat_digitChar : ∀ d, d < 16 → 0x20 ≤ (Nat.digitChar d).toNat := by
  decide

theorem le_toNat_of_mem_hexDigits {w n : Nat} {c : Char} (hc : c ∈ hexDigits w n) :
    0x20 ≤ c.toNat := by
  rw [hexDigits, List.mem_append] at hc
  rcases hc with hc | hc
  · rw [List.eq_of_mem_replicate hc]
    decide
  · obtain ⟨d, hd, rfl⟩ := JsonTree.mem_toDigits (by decide) hc
    exact le_toNat_digitChar d hd

/-- A `\u` escape is written without control characters. -/
theorem le_toNat_of_mem_codeEscape {n : Nat} {d : Char}
    (hd : d ∈ '\\' :: 'u' :: hexDigits 4 n) : 0x20 ≤ d.toNat := by
  rcases List.mem_cons.1 hd with rfl | hd
  · decide
  rcases List.mem_cons.1 hd with rfl | hd
  · decide
  exact le_toNat_of_mem_hexDigits hd

/-- A character is written without control characters: those are escaped. -/
theorem le_toNat_of_mem_jsonChar {ws : Bool} {c d : Char} (hd : d ∈ jsonChar ws c) :
    0x20 ≤ d.toNat := by
  unfold jsonChar at hd
  dsimp only at hd
  split_ifs at hd with hquote _ _ _ hctl
  · simp only [Bool.or_eq_true, beq_iff_eq] at hquote
    rcases hquote with rfl | rfl <;> simp at hd <;> rcases hd with rfl | rfl <;> decide
  -- the short escapes of a line feed, a carriage return and a tab
  iterate 3
    · simp only [List.mem_cons, List.not_mem_nil, or_false] at hd
      rcases hd with rfl | rfl <;> decide
  · exact le_toNat_of_mem_codeEscape hd
  · exact le_toNat_of_mem_codeEscape hd
  · rw [List.mem_singleton.1 hd]
    omega

theorem controlFree_jsonChar (ws : Bool) (c : Char) :
    ControlFree ((jsonChar ws c).flatMap String.utf8EncodeChar) :=
  controlFree_flatMap fun _ hd => controlFree_utf8EncodeChar (le_toNat_of_mem_jsonChar hd)

theorem controlFree_jsonByte (x : UInt8) : ControlFree (jsonByte x) := by
  unfold jsonByte
  split
  · rw [utf8_ofList]
    exact controlFree_jsonChar false _
  · next h => simpa using Nat.le_of_not_lt h |>.trans' (by decide)

theorem controlFree_jsonBytes (ws : Bool) (b : Bytes) : ControlFree (jsonBytes ws b) := by
  cases ws with
  | false =>
    rw [jsonBytes, if_neg Bool.false_ne_true, controlFree_cons, controlFree_append]
    exact ⟨by decide, controlFree_flatMap fun x _ => controlFree_jsonByte x, by simp⟩
  | true =>
    rw [jsonBytes, if_pos rfl, utf8_ofList]
    refine controlFree_flatMap fun d hd => controlFree_utf8EncodeChar ?_
    -- the quotes, the characters as written, and the escape of a stray byte
    simp only [List.mem_cons, List.mem_append, List.mem_flatMap, List.not_mem_nil,
      or_false] at hd
    rcases hd with rfl | ⟨p, -, hp⟩ | rfl
    · decide
    · rcases p with c | _
      · exact le_toNat_of_mem_jsonChar hp
      · have hescape : "\\ufffd".toList = ['\\', 'u', 'f', 'f', 'f', 'd'] := by decide
        dsimp only at hp
        rw [hescape] at hp
        simp only [List.mem_cons, List.not_mem_nil, or_false] at hp
        rcases hp with rfl | rfl | rfl | rfl | rfl | rfl <;> decide
    · decide

/-- The decimal text of an integer is a minus sign and digits. -/
theorem controlFree_toString (n : Int) : ControlFree (utf8 (toString n)) := by
  have hdigits : ∀ m : Nat, ControlFree (utf8 (toString m)) := fun m x hx => by
    obtain ⟨d, ds, hds, hdig, -⟩ := JsonTree.utf8_toString_nat m
    have := hdig x (hds ▸ hx)
    simp only [JsonTree.isDigitByte, Bool.and_eq_true, decide_eq_true_eq] at this
    omega
  cases n with
  | ofNat m => exact hdigits m
  | negSucc m =>
    show ControlFree (utf8 ("-" ++ toString (m + 1)))
    rw [utf8_append, JsonTree.utf8_minus, controlFree_append]
    exact ⟨by simp, hdigits (m + 1)⟩

namespace JsonValue

mutual

/-- What a reader reads a written value as: a number as its decimal text, a text as its bytes,
and bytes as the variant keeps them. -/
def tree (webSafe : Bool) : JsonValue → JsonTree
  | .null => .null
  | .bool b => .bool b
  | .num n => .number (toString n)
  | .str s => .str (utf8 s)
  | .bytes b => .str (readBack webSafe b)
  | .arr items => .arr (treeItems webSafe items)
  | .obj members => .obj (treeMembers webSafe members)

/-- What a reader reads the items of an array as. -/
def treeItems (webSafe : Bool) : List JsonValue → List JsonTree
  | [] => []
  | v :: rest => tree webSafe v :: treeItems webSafe rest

/-- What a reader reads the members of an object as. -/
def treeMembers (webSafe : Bool) : List (String × JsonValue) → List (Bytes × JsonTree)
  | [] => []
  | (k, v) :: rest => (utf8 k, tree webSafe v) :: treeMembers webSafe rest

end

mutual

/-- The fuel the reader spends on a written value: one for the value, and for an array or
object one more for each item or member besides what that spends. -/
def readFuel : JsonValue → Nat
  | .null | .bool _ | .num _ | .str _ | .bytes _ => 1
  | .arr items => 1 + itemsFuel items
  | .obj members => 1 + membersFuel members

/-- The fuel the reader spends on the items of an array. -/
def itemsFuel : List JsonValue → Nat
  | [] => 0
  | v :: rest => 1 + readFuel v + itemsFuel rest

/-- The fuel the reader spends on the members of an object. -/
def membersFuel : List (String × JsonValue) → Nat
  | [] => 0
  | (_, v) :: rest => 1 + readFuel v + membersFuel rest

end

section Trees

variable (ws : Bool)

theorem treeItems_eq_map (items : List JsonValue) :
    treeItems ws items = items.map (tree ws) := by
  induction items with
  | nil => rfl
  | cons v rest ih => rw [treeItems, ih, List.map_cons]

theorem treeMembers_eq_map (ms : List (String × JsonValue)) :
    treeMembers ws ms = ms.map fun m => (utf8 m.1, m.2.tree ws) := by
  induction ms with
  | nil => rfl
  | cons m rest ih =>
    obtain ⟨k, v⟩ := m
    rw [treeMembers, ih, List.map_cons]

@[simp] theorem tree_null : (null : JsonValue).tree ws = .null := by rw [tree]

@[simp] theorem tree_bool (b : Bool) : (bool b).tree ws = .bool b := by rw [tree]

@[simp] theorem tree_num (n : Int) : (num n).tree ws = .number (toString n) := by rw [tree]

@[simp] theorem tree_str (s : String) : (str s).tree ws = .str (utf8 s) := by rw [tree]

@[simp] theorem tree_bytes (b : Bytes) : (bytes b).tree ws = .str (readBack ws b) := by
  rw [tree]

@[simp] theorem tree_arr (items : List JsonValue) :
    (arr items).tree ws = .arr (items.map (tree ws)) := by
  rw [tree, treeItems_eq_map]

@[simp] theorem tree_obj (ms : List (String × JsonValue)) :
    (obj ms).tree ws = .obj (ms.map fun m => (utf8 m.1, m.2.tree ws)) := by
  rw [tree, treeMembers_eq_map]

end Trees

/-- Distinct integers have distinct decimal texts: a natural number's holds no minus sign, and
a negative number's is a minus sign before a natural number's. -/
theorem toString_int_injective : Function.Injective (toString : Int → String) := by
  have hnat : ∀ m : Nat, '-' ∉ (toString (Int.ofNat m)).toList := fun m h => by
    change '-' ∈ (toString m).toList at h
    rw [Nat.toString_eq_repr, Nat.toList_repr] at h
    obtain ⟨d, hd, hminus⟩ := JsonTree.mem_toDigits (by decide) h
    have hdigits : ∀ d, d < 10 → Nat.digitChar d ≠ '-' := by decide
    exact hdigits d hd hminus.symm
  have hneg : ∀ m : Nat, toString (Int.negSucc m) = "-" ++ toString (m + 1) := fun _ => rfl
  have hminus : ∀ m : Nat, '-' ∈ (toString (Int.negSucc m)).toList := fun m => by
    rw [hneg, String.toList_append]
    exact List.mem_append_left _ List.mem_cons_self
  intro a b h
  cases a with
  | ofNat m =>
    cases b with
    | ofNat m' =>
      change toString m = toString m' at h
      rw [Nat.toString_eq_repr, Nat.toString_eq_repr, Nat.repr_inj] at h
      rw [h]
    | negSucc m' => exact absurd (h ▸ hminus m') (hnat m)
  | negSucc m =>
    cases b with
    | ofNat m' => exact absurd (h ▸ hminus m) (hnat m')
    | negSucc m' =>
      rw [hneg, hneg, String.append_right_inj, Nat.toString_eq_repr, Nat.toString_eq_repr,
        Nat.repr_inj] at h
      rw [Nat.succ_inj.mp h]

theorem renderItems_eq_map (ws : Bool) (items : List JsonValue) :
    renderItems ws items = items.map (render ws) := by
  induction items with
  | nil => rfl
  | cons v rest ih => rw [renderItems, ih, List.map_cons]

theorem renderMembers_eq_map (ws : Bool) (ms : List (String × JsonValue)) :
    renderMembers ws ms = ms.map fun m => jsonBytes ws (utf8 m.1) ++ utf8 ":" ++ render ws m.2 := by
  induction ms with
  | nil => rfl
  | cons m rest ih =>
    obtain ⟨k, v⟩ := m
    rw [renderMembers, ih, List.map_cons]

/-- The text of an array: the texts of its items between brackets, separated by commas. -/
theorem render_arr (ws : Bool) (items : List JsonValue) :
    render ws (.arr items) = 0x5B :: ([0x2C].intercalate (items.map (render ws)) ++ [0x5D]) := by
  have hopen : utf8 "[" = [0x5B] := by decide +kernel
  have hcomma : utf8 "," = [0x2C] := by decide +kernel
  have hclose : utf8 "]" = [0x5D] := by decide +kernel
  rw [render, renderItems_eq_map, hopen, hcomma, hclose, List.append_assoc,
    List.singleton_append]

/-- The text of an object: its members, each a name, a colon and a value, between braces and
separated by commas. -/
theorem render_obj (ws : Bool) (ms : List (String × JsonValue)) :
    render ws (.obj ms) =
      0x7B :: ([0x2C].intercalate
        (ms.map fun m => jsonBytes ws (utf8 m.1) ++ 0x3A :: render ws m.2) ++ [0x7D]) := by
  have hopen : utf8 "\x7b" = [0x7B] := by decide +kernel
  have hcomma : utf8 "," = [0x2C] := by decide +kernel
  have hcolon : utf8 ":" = [0x3A] := by decide +kernel
  have hclose : utf8 "\x7d" = [0x7D] := by decide +kernel
  rw [render, renderMembers_eq_map, hopen, hcomma, hclose, List.append_assoc,
    List.singleton_append]
  simp only [hcolon, List.append_assoc, List.singleton_append]

theorem readFuel_pos (v : JsonValue) : 0 < v.readFuel := by
  cases v <;> rw [readFuel] <;> omega

/-- A written string starts with a quote. -/
theorem jsonBytes_eq_cons (ws : Bool) (b : Bytes) : ∃ t, jsonBytes ws b = 0x22 :: t := by
  obtain ⟨w, hw, -⟩ := JsonTree.jsonBytes_readsAs ws b
  exact ⟨_, hw⟩

/-- A written value starts with a byte that is no blank and closes nothing. -/
theorem render_head (ws : Bool) (v : JsonValue) :
    ∃ x t, render ws v = x :: t ∧ JsonTree.isJsonSpace x = false ∧ x ≠ 0x5D ∧ x ≠ 0x7D := by
  cases v with
  | null =>
    exact ⟨0x6E, [0x75, 0x6C, 0x6C], by rw [render]; decide +kernel, rfl, by decide, by decide⟩
  | bool b =>
    cases b
    · exact ⟨0x66, [0x61, 0x6C, 0x73, 0x65], by rw [render]; decide +kernel, rfl, by decide,
        by decide⟩
    · exact ⟨0x74, [0x72, 0x75, 0x65], by rw [render]; decide +kernel, rfl, by decide, by decide⟩
  | num n =>
    obtain ⟨d, ds, hds, hd⟩ := JsonTree.utf8_toString_eq_cons n
    obtain ⟨hsp, -⟩ := JsonTree.numberStart_ne hd
    refine ⟨d, ds, by rw [render, hds], hsp, ?_, ?_⟩ <;> rintro rfl <;>
      rcases hd with hd | hd <;> revert hd <;> decide
  | str s =>
    obtain ⟨t, ht⟩ := jsonBytes_eq_cons ws (utf8 s)
    exact ⟨0x22, t, by rw [render, ht], rfl, by decide, by decide⟩
  | bytes b =>
    obtain ⟨t, ht⟩ := jsonBytes_eq_cons ws b
    exact ⟨0x22, t, by rw [render, ht], rfl, by decide, by decide⟩
  | arr items => exact ⟨0x5B, _, render_arr ws items, rfl, by decide, by decide⟩
  | obj ms => exact ⟨0x7B, _, render_obj ws ms, rfl, by decide, by decide⟩

/-- The items of an array, written with commas between them, start with the first item. -/
theorem intercalate_items_eq (ws : Bool) (v : JsonValue) (vs : List JsonValue) :
    ∃ more, [0x2C].intercalate ((v :: vs).map (render ws)) = render ws v ++ more := by
  cases vs with
  | nil => exact ⟨[], by simp⟩
  | cons w vs => exact ⟨_, by rw [List.map_cons, List.map_cons, List.intercalate_cons_cons,
      List.append_assoc]⟩

theorem intercalate_members_eq (ws : Bool) (m : String × JsonValue)
    (ms : List (String × JsonValue)) :
    ∃ more, [0x2C].intercalate ((m :: ms).map fun m =>
        jsonBytes ws (utf8 m.1) ++ 0x3A :: render ws m.2) = 0x22 :: more := by
  obtain ⟨t, ht⟩ := jsonBytes_eq_cons ws (utf8 m.1)
  cases ms with
  | nil => exact ⟨_, by rw [List.map_singleton, List.intercalate_singleton, ht,
      List.cons_append]⟩
  | cons m' ms => exact ⟨_, by rw [List.map_cons, List.map_cons, List.intercalate_cons_cons, ht,
      List.cons_append, List.cons_append, List.cons_append]⟩

section RoundTrip

open JsonTree

mutual

/-- Reading the text of a value, before what may follow a value, gives the value's tree, given
the fuel the value takes. -/
theorem readValue_render (ws : Bool) : ∀ (v : JsonValue) (fuel : Nat) (rest : Bytes),
    v.readFuel ≤ fuel → Delimited rest →
      readValue fuel (render ws v ++ rest) = some (v.tree ws, rest)
  | v, 0, _, hfuel, _ => absurd hfuel (by have := readFuel_pos v; omega)
  | .null, fuel + 1, rest, _, _ => by
    rw [render, tree, show utf8 "null" = [0x6E, 0x75, 0x6C, 0x6C] by decide +kernel]
    simp only [List.cons_append, List.nil_append, readValue,
      skipSpace_cons (show isJsonSpace 0x6E = false from rfl)]
  | .bool true, fuel + 1, rest, _, _ => by
    rw [render, tree, if_pos rfl, show utf8 "true" = [0x74, 0x72, 0x75, 0x65] by decide +kernel]
    simp only [List.cons_append, List.nil_append, readValue,
      skipSpace_cons (show isJsonSpace 0x74 = false from rfl)]
  | .bool false, fuel + 1, rest, _, _ => by
    rw [render, tree, if_neg Bool.false_ne_true,
      show utf8 "false" = [0x66, 0x61, 0x6C, 0x73, 0x65] by decide +kernel]
    simp only [List.cons_append, List.nil_append, readValue,
      skipSpace_cons (show isJsonSpace 0x66 = false from rfl)]
  | .num n, fuel + 1, rest, _, hrest => by
    rw [render, tree]
    exact readValue_toString n fuel hrest
  | .str s, fuel + 1, rest, _, _ => by
    rw [render, tree, readValue_jsonBytes, readBack_utf8]
  | .bytes b, fuel + 1, rest, _, _ => by
    rw [render, tree]
    exact readValue_jsonBytes ws b fuel rest
  | .arr [], fuel + 1, rest, _, _ => by
    rw [render_arr, tree, treeItems]
    simp only [List.map_nil, List.intercalate_nil, List.nil_append, List.cons_append,
      readValue, skipSpace_cons (show isJsonSpace 0x5B = false from rfl),
      skipSpace_cons (show isJsonSpace 0x5D = false from rfl)]
  | .arr (v :: vs), fuel + 1, rest, hfuel, _ => by
    rw [readFuel] at hfuel
    obtain ⟨x, t, hxt, hsp, hx, -⟩ := render_head ws v
    obtain ⟨more, hmore⟩ := intercalate_items_eq ws v vs
    have hitems := readItems_render ws (v :: vs) fuel [] rest (List.cons_ne_nil v vs)
      (by omega)
    rw [hmore, hxt] at hitems
    simp only [List.cons_append, List.append_assoc] at hitems
    rw [render_arr, hmore, hxt, tree]
    simp only [List.cons_append, List.append_assoc, List.nil_append]
    rw [readValue_open_bracket hsp hx, hitems]
    rfl
  | .obj [], fuel + 1, rest, _, _ => by
    rw [render_obj, tree, treeMembers]
    simp only [List.map_nil, List.intercalate_nil, List.nil_append, List.cons_append,
      readValue, skipSpace_cons (show isJsonSpace 0x7B = false from rfl),
      skipSpace_cons (show isJsonSpace 0x7D = false from rfl)]
  | .obj (m :: ms), fuel + 1, rest, hfuel, _ => by
    rw [readFuel] at hfuel
    obtain ⟨more, hmore⟩ := intercalate_members_eq ws m ms
    have hmembers := readMembers_render ws (m :: ms) fuel [] rest (List.cons_ne_nil m ms)
      (by omega)
    rw [hmore] at hmembers
    simp only [List.cons_append] at hmembers
    rw [render_obj, hmore, tree]
    simp only [List.cons_append, List.append_assoc, List.nil_append]
    rw [readValue_open_brace rfl (by decide), hmembers]
    rfl

/-- Reading the written items of an array, closed by `]`, gives their trees after the ones
read before, given the fuel the items take. -/
theorem readItems_render (ws : Bool) : ∀ (items : List JsonValue) (fuel : Nat)
    (acc : List JsonTree) (rest : Bytes), items ≠ [] → itemsFuel items ≤ fuel →
      readItems fuel acc ([0x2C].intercalate (items.map (render ws)) ++ 0x5D :: rest) =
        some (acc.reverse ++ treeItems ws items, rest)
  | [], _, _, _, hne, _ => absurd rfl hne
  | _ :: _, 0, _, _, _, hfuel => by rw [itemsFuel] at hfuel; omega
  | [v], fuel + 1, acc, rest, _, hfuel => by
    rw [itemsFuel, itemsFuel] at hfuel
    rw [List.map_singleton, List.intercalate_singleton, readItems,
      readValue_render ws v fuel (0x5D :: rest) (by omega) (delimited_bracket rest)]
    simp only [skipSpace_cons (show isJsonSpace 0x5D = false from rfl), treeItems,
      List.reverse_cons]
  | v :: w :: vs, fuel + 1, acc, rest, _, hfuel => by
    rw [itemsFuel] at hfuel
    have hnext := readItems_render ws (w :: vs) fuel (v.tree ws :: acc) rest
      (List.cons_ne_nil w vs) (by omega)
    rw [List.map_cons] at hnext
    rw [List.map_cons, List.map_cons, List.intercalate_cons_cons,
      List.append_assoc, List.append_assoc, List.singleton_append, readItems,
      readValue_render ws v fuel _ (by omega) (delimited_comma _)]
    simp only [skipSpace_cons (show isJsonSpace 0x2C = false from rfl), hnext, treeItems,
      List.reverse_cons, List.append_assoc, List.singleton_append]

/-- Reading the written members of an object, closed by `}`, gives their names and trees after
the ones read before, given the fuel the members take. -/
theorem readMembers_render (ws : Bool) : ∀ (ms : List (String × JsonValue)) (fuel : Nat)
    (acc : List (Bytes × JsonTree)) (rest : Bytes), ms ≠ [] → membersFuel ms ≤ fuel →
      readMembers fuel acc
          ([0x2C].intercalate (ms.map fun m =>
            jsonBytes ws (utf8 m.1) ++ 0x3A :: render ws m.2) ++ 0x7D :: rest) =
        some (acc.reverse ++ treeMembers ws ms, rest)
  | [], _, _, _, hne, _ => absurd rfl hne
  | _ :: _, 0, _, _, _, hfuel => by rw [membersFuel] at hfuel; omega
  | [(k, v)], fuel + 1, acc, rest, _, hfuel => by
    rw [membersFuel, membersFuel] at hfuel
    obtain ⟨t, ht, hname⟩ :=
      jsonBytes_append ws (utf8 k) (0x3A :: (render ws v ++ 0x7D :: rest))
    rw [List.map_singleton, List.intercalate_singleton]
    simp only [List.append_assoc, List.cons_append]
    rw [ht, readMembers]
    simp only [skipSpace_cons (show isJsonSpace 0x22 = false from rfl), hname, readBack_utf8,
      skipSpace_cons (show isJsonSpace 0x3A = false from rfl),
      readValue_render ws v fuel (0x7D :: rest) (by omega) (delimited_brace rest),
      skipSpace_cons (show isJsonSpace 0x7D = false from rfl), treeMembers, List.reverse_cons]
  | (k, v) :: m :: ms, fuel + 1, acc, rest, _, hfuel => by
    rw [membersFuel] at hfuel
    have hnext := readMembers_render ws (m :: ms) fuel ((utf8 k, v.tree ws) :: acc) rest
      (List.cons_ne_nil m ms) (by omega)
    rw [List.map_cons] at hnext
    obtain ⟨t, ht, hname⟩ := jsonBytes_append ws (utf8 k) (0x3A :: (render ws v ++ 0x2C ::
      ([0x2C].intercalate ((m :: ms).map fun m =>
        jsonBytes ws (utf8 m.1) ++ 0x3A :: render ws m.2) ++ 0x7D :: rest)))
    rw [List.map_cons, List.map_cons, List.intercalate_cons_cons]
    simp only [List.append_assoc, List.cons_append, List.nil_append]
    rw [List.map_cons] at ht hname
    rw [ht, readMembers]
    simp only [skipSpace_cons (show isJsonSpace 0x22 = false from rfl), hname, readBack_utf8,
      skipSpace_cons (show isJsonSpace 0x3A = false from rfl),
      readValue_render ws v fuel _ (by omega) (delimited_comma _),
      skipSpace_cons (show isJsonSpace 0x2C = false from rfl), hnext, treeMembers,
      List.reverse_cons, List.append_assoc, List.singleton_append]

end

theorem length_render_pos (ws : Bool) (v : JsonValue) : 0 < (render ws v).length := by
  obtain ⟨x, t, hxt, -⟩ := render_head ws v
  rw [hxt, List.length_cons]
  omega

mutual

/-- A written value is at least as long as the fuel reading it takes. -/
theorem readFuel_le_length (ws : Bool) : ∀ v : JsonValue, v.readFuel ≤ (render ws v).length
  | .null | .bool _ | .num _ | .str _ | .bytes _ => by
    rw [readFuel]
    exact length_render_pos ws _
  | .arr items => by
    have := itemsFuel_le_length ws items
    rw [readFuel, render_arr, List.length_cons, List.length_append, List.length_singleton]
    omega
  | .obj ms => by
    have := membersFuel_le_length ws ms
    rw [readFuel, render_obj, List.length_cons, List.length_append, List.length_singleton]
    omega

theorem itemsFuel_le_length (ws : Bool) : ∀ items : List JsonValue,
    itemsFuel items ≤ ([0x2C].intercalate (items.map (render ws))).length + 1
  | [] => by
    rw [itemsFuel]
    omega
  | [v] => by
    have := readFuel_le_length ws v
    rw [itemsFuel, itemsFuel, List.map_singleton, List.intercalate_singleton]
    omega
  | v :: w :: rest => by
    have hv := readFuel_le_length ws v
    have hrest := itemsFuel_le_length ws (w :: rest)
    rw [List.map_cons] at hrest
    rw [itemsFuel, List.map_cons, List.map_cons, List.intercalate_cons_cons, List.length_append,
      List.length_append, List.length_singleton]
    omega

theorem membersFuel_le_length (ws : Bool) : ∀ ms : List (String × JsonValue),
    membersFuel ms ≤ ([0x2C].intercalate (ms.map fun m =>
      jsonBytes ws (utf8 m.1) ++ 0x3A :: render ws m.2)).length + 1
  | [] => by
    rw [membersFuel]
    omega
  | [(k, v)] => by
    have := readFuel_le_length ws v
    rw [membersFuel, membersFuel, List.map_singleton, List.intercalate_singleton,
      List.length_append, List.length_cons]
    dsimp only
    omega
  | (k, v) :: m :: rest => by
    have hv := readFuel_le_length ws v
    have hrest := membersFuel_le_length ws (m :: rest)
    rw [List.map_cons] at hrest
    rw [membersFuel, List.map_cons, List.map_cons, List.intercalate_cons_cons, List.length_append,
      List.length_append, List.length_append, List.length_cons, List.length_singleton]
    dsimp only
    omega

end

/-- The written text of a value reads back as the value's tree. -/
theorem parse?_render (ws : Bool) (v : JsonValue) : parse? (render ws v) = some (v.tree ws) := by
  have hread := readValue_render ws v (2 * (render ws v).length + 2) []
    (by have := readFuel_le_length ws v; omega) delimited_nil
  rw [List.append_nil] at hread
  unfold parse?
  rw [hread]
  rfl

end RoundTrip

mutual

/-- A written value holds no control byte, so no line feed. -/
theorem controlFree_render (ws : Bool) : ∀ v : JsonValue, ControlFree (render ws v)
  | .null => by
    rw [render]
    decide +kernel
  | .bool b => by
    cases b <;> rw [render] <;> decide +kernel
  | .num n => by
    rw [render]
    exact controlFree_toString n
  | .str s => by
    rw [render]
    exact controlFree_jsonBytes ws _
  | .bytes b => by
    rw [render]
    exact controlFree_jsonBytes ws b
  | .arr items => by
    rw [render_arr, controlFree_cons, controlFree_append]
    exact ⟨by decide, controlFree_intercalate (by simp)
      (List.forall_mem_map.mpr (controlFree_items ws items)), by simp⟩
  | .obj ms => by
    rw [render_obj, controlFree_cons, controlFree_append]
    refine ⟨by decide, controlFree_intercalate (by simp) (List.forall_mem_map.mpr ?_), by simp⟩
    intro m hm
    rw [controlFree_append, controlFree_cons]
    exact ⟨controlFree_jsonBytes ws _, by decide, controlFree_members ws ms m hm⟩

theorem controlFree_items (ws : Bool) :
    ∀ items : List JsonValue, ∀ v ∈ items, ControlFree (render ws v)
  | [] => nofun
  | v :: rest => List.forall_mem_cons.mpr ⟨controlFree_render ws v, controlFree_items ws rest⟩

theorem controlFree_members (ws : Bool) :
    ∀ ms : List (String × JsonValue), ∀ m ∈ ms, ControlFree (render ws m.2)
  | [] => nofun
  | (_, v) :: rest =>
    List.forall_mem_cons.mpr ⟨controlFree_render ws v, controlFree_members ws rest⟩

end

end JsonValue

end SigmaQuery.Text
