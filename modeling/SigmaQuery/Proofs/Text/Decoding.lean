import SigmaQuery.Text.Utf8
import Mathlib.Data.List.Basic

/-!
# Reading encoded text back

The UTF-8 bytes of a text are its characters' encodings one after another
(`utf8_eq_flatMap`). Each encoding is the shortest one of a scalar value, so the reader takes
it back as that character and moves past exactly its bytes (`decodeFirst?_utf8EncodeChar`), and
it takes no other bytes for a character (`take_of_decodeFirst?`).
Reading the bytes of a text therefore gives the text back (`lossy_utf8`), and two texts whose
bytes read alike are the same bytes (`eq_of_lossy_eq`).
-/

namespace SigmaQuery.Text

/-- Bytes that are the UTF-8 encoding of a text. -/
def IsUtf8 (b : Bytes) : Prop := ∃ s, b = utf8 s

theorem toList_loop (bs : ByteArray) (i : Nat) (r : List UInt8) :
    ByteArray.toList.loop bs i r = r.reverse ++ bs.data.toList.drop i := by
  fun_induction ByteArray.toList.loop bs i r with
  | case1 i r hlt ih =>
    have hlen : i < bs.data.toList.length := by simpa using hlt
    have hget : bs.get! i = bs.data[i]! := by cases bs; rfl
    rw [ih, List.drop_eq_getElem_cons hlen, hget, getElem!_pos bs.data i hlt]
    simp
  | case2 i r hlt =>
    rw [List.drop_eq_nil_of_le (by simpa using Nat.le_of_not_lt hlt)]
    simp

/-- The UTF-8 bytes of a text are the encodings of its characters, in order. -/
theorem utf8_eq_flatMap (s : String) : utf8 s = s.toList.flatMap String.utf8EncodeChar := by
  rw [utf8, String.toUTF8_eq_toByteArray, ← String.utf8Encode_toList, ByteArray.toList,
    toList_loop, List.utf8Encode, List.toList_data_toByteArray]
  simp

theorem toNat_ofNat_byte (x : Nat) : (UInt8.ofNat x).toNat = x % 256 := by
  simp

/-- The encoding of a character reads back as that character, taking exactly its bytes. -/
theorem decodeFirst?_utf8EncodeChar (c : Char) (rest : List UInt8) :
    decodeFirst? (String.utf8EncodeChar c ++ rest) =
      some (c, (String.utf8EncodeChar c).length) := by
  have hv : c.val.toNat = c.toNat := rfl
  have hvalid := c.valid
  simp only [UInt32.isValidChar, Nat.isValidChar, hv] at hvalid
  unfold String.utf8EncodeChar
  simp only [hv]
  -- one case per width; the guards of the reader hold by the range of the code point
  split
  · simp only [List.singleton_append, decodeFirst?, toNat_ofNat_byte]
    rw [if_pos (by omega), Nat.mod_eq_of_lt (by omega), Char.ofNat_toNat]
    rfl
  split
  · simp only [List.cons_append, decodeFirst?, toNat_ofNat_byte, isContinuation, payload]
    rw [if_neg (by omega), if_neg (by omega), if_pos (by omega), if_pos (by simp; omega)]
    have hcode : (c.toNat / 64 % 32 + 192) % 256 % 32 * 64 + (c.toNat % 64 + 128) % 256 % 64 =
        c.toNat := by omega
    rw [hcode, Char.ofNat_toNat]
    rfl
  split
  · simp only [List.cons_append, decodeFirst?, toNat_ofNat_byte, isContinuation, payload]
    rw [if_neg (by omega), if_neg (by omega), if_neg (by omega), if_pos (by omega),
      if_pos (by simp only [Bool.and_eq_true, decide_eq_true_eq, beq_iff_eq]; split_ifs <;> omega)]
    have hcode : (c.toNat / 4096 % 16 + 224) % 256 % 16 * 4096 +
        (c.toNat / 64 % 64 + 128) % 256 % 64 * 64 + (c.toNat % 64 + 128) % 256 % 64 =
        c.toNat := by omega
    rw [hcode, Char.ofNat_toNat]
    rfl
  · simp only [List.cons_append, decodeFirst?, toNat_ofNat_byte, isContinuation, payload]
    rw [if_neg (by omega), if_neg (by omega), if_neg (by omega), if_neg (by omega),
      if_pos (by omega),
      if_pos (by simp only [Bool.and_eq_true, decide_eq_true_eq, beq_iff_eq]; split_ifs <;> omega)]
    have hcode : (c.toNat / 262144 % 8 + 240) % 256 % 8 * 262144 +
        (c.toNat / 4096 % 64 + 128) % 256 % 64 * 4096 +
        (c.toNat / 64 % 64 + 128) % 256 % 64 * 64 + (c.toNat % 64 + 128) % 256 % 64 =
        c.toNat := by omega
    rw [hcode, Char.ofNat_toNat]
    rfl

/-- A code point that is a scalar value is the code of the character it gives. -/
theorem toNat_charOfNat {n : Nat} (h : n < 0xD800 ∨ 0xDFFF < n ∧ n < 0x110000) :
    (Char.ofNat n).toNat = n := by
  have hvalid : n.isValidChar := by simp only [Nat.isValidChar]; omega
  rw [Char.ofNat, dif_pos hvalid]
  rfl

/-- The encoding of the character of a scalar value, in terms of the value. -/
theorem utf8EncodeChar_ofNat {n : Nat} (h : n < 0xD800 ∨ 0xDFFF < n ∧ n < 0x110000) :
    String.utf8EncodeChar (Char.ofNat n) =
      if n ≤ 127 then [UInt8.ofNat n]
      else if n ≤ 2047 then [UInt8.ofNat (n / 64 % 32 + 192), UInt8.ofNat (n % 64 + 128)]
      else if n ≤ 65535 then
        [UInt8.ofNat (n / 4096 % 16 + 224), UInt8.ofNat (n / 64 % 64 + 128),
          UInt8.ofNat (n % 64 + 128)]
      else
        [UInt8.ofNat (n / 262144 % 8 + 240), UInt8.ofNat (n / 4096 % 64 + 128),
          UInt8.ofNat (n / 64 % 64 + 128), UInt8.ofNat (n % 64 + 128)] := by
  have hv : (Char.ofNat n).val.toNat = n := toNat_charOfNat h
  unfold String.utf8EncodeChar
  simp only [hv]

/-- A character below 0x80 is its own byte. -/
theorem utf8EncodeChar_of_lt {c : Char} (h : c.toNat < 0x80) :
    String.utf8EncodeChar c = [UInt8.ofNat c.toNat] := by
  rw [← Char.ofNat_toNat c, utf8EncodeChar_ofNat (by omega), if_pos (by omega),
    Char.ofNat_toNat]

/-- The code of a character is a scalar value. -/
theorem toNat_scalar (c : Char) : c.toNat < 0xD800 ∨ 0xDFFF < c.toNat ∧ c.toNat < 0x110000 := by
  have hvalid := c.valid
  have hv : c.val.toNat = c.toNat := rfl
  simp only [UInt32.isValidChar, Nat.isValidChar, hv] at hvalid
  omega

/-- A byte of a character's encoding is the character's own code, below 0x80, or is at or above
0x80. -/
theorem mem_utf8EncodeChar {c : Char} {x : UInt8} (hx : x ∈ String.utf8EncodeChar c) :
    x.toNat = c.toNat ∧ c.toNat < 0x80 ∨ 0x80 ≤ x.toNat := by
  have hc := toNat_scalar c
  rw [← Char.ofNat_toNat c, utf8EncodeChar_ofNat hc] at hx
  -- one case per width: past the first, every lead and continuation byte is at or above 0x80
  split_ifs at hx <;> simp only [List.mem_cons, List.not_mem_nil, or_false] at hx
  · exact .inl ⟨by rw [hx, toNat_ofNat_byte]; omega, by omega⟩
  · rcases hx with rfl | rfl <;> right <;> rw [toNat_ofNat_byte] <;> omega
  · rcases hx with rfl | rfl | rfl <;> right <;> rw [toNat_ofNat_byte] <;> omega
  · rcases hx with rfl | rfl | rfl | rfl <;> right <;> rw [toNat_ofNat_byte] <;> omega

theorem eq_ofNat_byte {x : UInt8} {m : Nat} (h : x.toNat = m % 256) : x = UInt8.ofNat m := by
  apply UInt8.toNat_inj.mp
  rw [toNat_ofNat_byte, h]

/-- What the reader takes as a character is that character's encoding: it accepts no other
form. -/
theorem take_of_decodeFirst? {bs : Bytes} {c : Char} {n : Nat}
    (h : decodeFirst? bs = some (c, n)) : bs.take n = String.utf8EncodeChar c := by
  rcases bs with _ | ⟨b, rest⟩
  · cases h
  have hb := b.toNat_lt
  -- one case per width; each byte is given back by the arithmetic of the code point
  by_cases h0 : b.toNat < 0x80
  · simp only [decodeFirst?, h0, if_true, Option.some.injEq, Prod.mk.injEq] at h
    obtain ⟨rfl, rfl⟩ := h
    rw [utf8EncodeChar_ofNat (by omega), if_pos (by omega)]
    simp only [List.take_succ_cons, List.take_zero, List.cons.injEq, and_true]
    exact eq_ofNat_byte (by omega)
  by_cases h1 : b.toNat < 0xC2
  · simp [decodeFirst?, h0, h1] at h
  by_cases h2 : b.toNat < 0xE0
  · rcases rest with _ | ⟨b1, rest⟩ <;>
      simp [decodeFirst?, h0, h1, h2, isContinuation, payload] at h
    obtain ⟨hc1, rfl, rfl⟩ := h
    have := b1.toNat_lt
    rw [utf8EncodeChar_ofNat (by omega), if_neg (by omega), if_pos (by omega)]
    simp only [List.take_succ_cons, List.take_zero, List.cons.injEq, and_true]
    exact ⟨eq_ofNat_byte (by omega), eq_ofNat_byte (by omega)⟩
  by_cases h3 : b.toNat < 0xF0
  · rcases rest with _ | ⟨b1, _ | ⟨b2, rest⟩⟩ <;>
      simp [decodeFirst?, h0, h1, h2, h3, isContinuation, payload] at h
    obtain ⟨⟨⟨hlo, hhi⟩, hc2⟩, rfl, rfl⟩ := h
    have := b1.toNat_lt
    have := b2.toNat_lt
    -- the bounds on the second byte rule out overlong forms and surrogates
    have hv : 2048 ≤ b.toNat % 16 * 4096 + b1.toNat % 64 * 64 + b2.toNat % 64 ∧
        (b.toNat % 16 * 4096 + b1.toNat % 64 * 64 + b2.toNat % 64 < 0xD800 ∨
          0xDFFF < b.toNat % 16 * 4096 + b1.toNat % 64 * 64 + b2.toNat % 64) ∧
        0x80 ≤ b1.toNat ∧ b1.toNat ≤ 0xBF := by
      split_ifs at hlo hhi <;> omega
    rw [utf8EncodeChar_ofNat (by omega), if_neg (by omega), if_neg (by omega), if_pos (by omega)]
    simp only [List.take_succ_cons, List.take_zero, List.cons.injEq, and_true]
    exact ⟨eq_ofNat_byte (by omega), eq_ofNat_byte (by omega), eq_ofNat_byte (by omega)⟩
  by_cases h4 : b.toNat < 0xF5
  · rcases rest with _ | ⟨b1, _ | ⟨b2, _ | ⟨b3, rest⟩⟩⟩ <;>
      simp [decodeFirst?, h0, h1, h2, h3, h4] at h
    obtain ⟨⟨⟨⟨hlo, hhi⟩, hc2⟩, hc3⟩, rfl, rfl⟩ := h
    simp only [payload, isContinuation, beq_iff_eq] at hc2 hc3 ⊢
    have := b1.toNat_lt
    have := b2.toNat_lt
    have := b3.toNat_lt
    -- the bounds on the second byte rule out overlong forms and values above U+10FFFF
    have hv : 65536 ≤ b.toNat % 8 * 262144 + b1.toNat % 64 * 4096 + b2.toNat % 64 * 64 +
          b3.toNat % 64 ∧
        b.toNat % 8 * 262144 + b1.toNat % 64 * 4096 + b2.toNat % 64 * 64 + b3.toNat % 64 <
          0x110000 ∧ 0x80 ≤ b1.toNat ∧ b1.toNat ≤ 0xBF := by
      split_ifs at hlo hhi <;> omega
    rw [utf8EncodeChar_ofNat (by omega), if_neg (by omega), if_neg (by omega), if_neg (by omega)]
    simp only [List.take_succ_cons, List.take_zero, List.cons.injEq, and_true]
    exact ⟨eq_ofNat_byte (by omega), eq_ofNat_byte (by omega), eq_ofNat_byte (by omega),
      eq_ofNat_byte (by omega)⟩
  · simp only [decodeFirst?, h0, h1, h2, h3, h4, if_false, reduceCtorEq] at h

/-- The bytes of a text given by its characters are their encodings, in order. -/
theorem utf8_ofList (cs : List Char) :
    utf8 (String.ofList cs) = cs.flatMap String.utf8EncodeChar := by
  rw [utf8_eq_flatMap, String.toList_ofList]

/-- Encodings of characters that start alike start with the same characters: what follows the
shorter run of characters is itself a run of encodings. -/
theorem eq_append_of_flatMap_utf8EncodeChar :
    ∀ {cs : List Char} (ps : List Char) {rest : Bytes},
      cs.flatMap String.utf8EncodeChar = ps.flatMap String.utf8EncodeChar ++ rest →
        ∃ tail, cs = ps ++ tail ∧ rest = tail.flatMap String.utf8EncodeChar
  | cs, [], rest, h => ⟨cs, rfl, by simpa using h.symm⟩
  | [], p :: ps, rest, h => by
    have := String.utf8EncodeChar_ne_nil (c := p)
    simp_all
  | c :: cs, p :: ps, rest, h => by
    rw [List.flatMap_cons, List.flatMap_cons, List.append_assoc] at h
    -- the reader finds `c` on one side and `p` on the other
    have hread := decodeFirst?_utf8EncodeChar c (cs.flatMap String.utf8EncodeChar)
    rw [h, decodeFirst?_utf8EncodeChar] at hread
    obtain ⟨rfl, -⟩ := Prod.mk.inj (Option.some.inj hread)
    obtain ⟨tail, rfl, rfl⟩ := eq_append_of_flatMap_utf8EncodeChar ps (List.append_cancel_left h)
    exact ⟨tail, rfl, rfl⟩

/-- Encoded characters read back one by one, given a fuel of at least one per character. -/
theorem utf8Pieces_flatMap :
    ∀ (cs : List Char) (fuel : Nat), cs.length ≤ fuel →
      utf8Pieces fuel (cs.flatMap String.utf8EncodeChar) = cs.map Sum.inl
  | [], fuel, _ => by cases fuel <;> rfl
  | c :: cs, fuel + 1, hfuel => by
    obtain ⟨b, bs, hb⟩ := List.exists_cons_of_ne_nil (String.utf8EncodeChar_ne_nil (c := c))
    have hread := decodeFirst?_utf8EncodeChar c (cs.flatMap String.utf8EncodeChar)
    rw [hb, List.cons_append] at hread
    rw [List.flatMap_cons, hb, List.cons_append, utf8Pieces, hread]
    dsimp only
    rw [← List.cons_append, List.drop_left, utf8Pieces_flatMap cs fuel (by simpa using hfuel),
      List.map_cons]

/-- A list is no longer than what it is written as when every item takes something. -/
theorem length_le_length_flatMap {α β : Type} {w : α → List β} (hw : ∀ x, w x ≠ [])
    (xs : List α) : xs.length ≤ (xs.flatMap w).length := by
  induction xs with
  | nil => simp
  | cons x xs ih =>
    have hx : 0 < (w x).length := List.length_pos_iff.mpr (hw x)
    rw [List.flatMap_cons, List.length_append, List.length_cons]
    omega

/-- The UTF-8 bytes of a text read back as its characters. -/
theorem utf8Pieces_utf8 (s : String) :
    utf8Pieces (utf8 s).length (utf8 s) = s.toList.map Sum.inl := by
  rw [utf8_eq_flatMap]
  exact utf8Pieces_flatMap s.toList _
    (length_le_length_flatMap (fun _ => String.utf8EncodeChar_ne_nil) s.toList)

/-- Reading the UTF-8 bytes of a text gives the text back. -/
theorem lossy_utf8 (s : String) : lossy (utf8 s) = s := by
  rw [lossy, utf8Pieces_utf8, List.map_map]
  show String.ofList (s.toList.map fun c => c) = s
  rw [List.map_id', String.ofList_toList]

/-- Texts with the same bytes are the same text. -/
theorem utf8_inj {a b : String} (h : utf8 a = utf8 b) : a = b := by
  rw [← lossy_utf8 a, h, lossy_utf8]

/-- The bytes of joined texts are the bytes of each, joined. -/
theorem utf8_append (a b : String) : utf8 (a ++ b) = utf8 a ++ utf8 b := by
  rw [utf8_eq_flatMap, utf8_eq_flatMap, utf8_eq_flatMap, String.toList_append,
    List.flatMap_append]

theorem utf8_empty : utf8 "" = [] := by
  rw [utf8_eq_flatMap]
  rfl

/-- The bytes of texts joined by a separator are their bytes joined by the separator's. -/
theorem utf8_intercalate (sep : String) :
    ∀ xs : List String, utf8 (sep.intercalate xs) = (utf8 sep).intercalate (xs.map utf8)
  | [] => by rw [String.intercalate_nil, utf8_empty, List.map_nil, List.intercalate_nil]
  | [x] => by rw [String.intercalate_singleton, List.map_singleton, List.intercalate_singleton]
  | x :: y :: rest => by
    rw [String.intercalate_cons_cons, utf8_append, utf8_append, utf8_intercalate sep (y :: rest),
      List.map_cons, List.map_cons, List.map_cons, List.intercalate_cons_cons, List.append_assoc]

/-- UTF-8 bytes are the bytes of the text they read as. -/
theorem utf8_lossy {b : Bytes} (h : IsUtf8 b) : utf8 (lossy b) = b := by
  obtain ⟨s, rfl⟩ := h
  rw [lossy_utf8]

/-- Bytes that encode texts and read alike are the same bytes. -/
theorem eq_of_lossy_eq {b b' : Bytes} (hb : IsUtf8 b) (hb' : IsUtf8 b')
    (h : lossy b = lossy b') : b = b' := by
  obtain ⟨s, rfl⟩ := hb
  obtain ⟨s', rfl⟩ := hb'
  rw [lossy_utf8, lossy_utf8] at h
  rw [h]

end SigmaQuery.Text
