import SigmaQuery.Text.Blank
import SigmaQuery.Proofs.Text.Decoding

/-!
# Characters of bytes, and the words they make

Bytes are read one character at a time as `decodeFirst?` reads them: a valid encoding is its
character, and a byte that begins none stands alone for U+FFFD, as a range loop over a string
reads it. `runes` keeps the bytes each character was read from, so joining them gives the bytes
back, and `fields` cuts bytes into the maximal runs of characters that are not blank.

A byte below 0x80 is never part of another character's encoding, so reading splits at it: the
bytes before such a byte read as they would alone (`runes_append_ascii`), and a space cuts the
words of bytes in two (`fields_append_space`). The bytes of a text read as its characters, each
with its encoding (`runes_utf8_append`), and every character other than U+FFFD was read from
its own encoding (`snd_eq_of_mem_runes`).
-/

namespace SigmaQuery.Text

/-! ### One character -/

/-- A byte below 0x80 reads as its own character. -/
theorem decodeFirst?_ascii {x : UInt8} (hx : x.toNat < 0x80) (r : Bytes) :
    decodeFirst? (x :: r) = some (Char.ofNat x.toNat, 1) := by
  simp [decodeFirst?, hx]

/-- A byte below 0x80 is neither a continuation byte nor in the range of any second byte, so an
encoding never reads past it: what comes before it reads as it would alone. -/
theorem decodeFirst?_append_ascii (b : UInt8) (rest : Bytes) {x : UInt8} (hx : x.toNat < 0x80)
    (r : Bytes) : decodeFirst? (b :: rest ++ x :: r) = decodeFirst? (b :: rest) := by
  have hc : isContinuation x = false := by
    simp only [isContinuation, beq_eq_false_iff_ne]
    omega
  -- both sides take the branch of the first byte; a byte that the branch reads past `rest` is
  -- `x`, which is neither a continuation byte nor in the range of a second byte
  by_cases h0 : b.toNat < 0x80
  · simp [decodeFirst?, h0]
  by_cases h1 : b.toNat < 0xC2
  · simp [decodeFirst?, h0, h1]
  by_cases h2 : b.toNat < 0xE0
  · rcases rest with _ | ⟨b1, rest⟩ <;> simp [decodeFirst?, h0, h1, h2, hc]
  by_cases h3 : b.toNat < 0xF0
  · rcases rest with _ | ⟨b1, _ | ⟨b2, rest⟩⟩ <;> rcases r with _ | ⟨y, r⟩ <;>
      simp [decodeFirst?, h0, h1, h2, h3, hc]
    -- left: `x` read as the second byte, below the range of every second byte
    intro hlo _
    split at hlo <;> omega
  by_cases h4 : b.toNat < 0xF5
  · rcases rest with _ | ⟨b1, _ | ⟨b2, _ | ⟨b3, rest⟩⟩⟩ <;> rcases r with _ | ⟨y, _ | ⟨z, r⟩⟩ <;>
      simp [decodeFirst?, h0, h1, h2, h3, h4, hc]
    intro hlo _
    split at hlo <;> omega
  · simp [decodeFirst?, h0, h1, h2, h3, h4]

/-! ### Characters with their bytes -/

/-- An encoding `decodeFirst?` finds takes between one and four of the bytes it is given. -/
theorem decodeFirst?_length {bs : Bytes} {c : Char} {n : Nat}
    (h : decodeFirst? bs = some (c, n)) : 0 < n ∧ n ≤ bs.length := by
  rcases bs with _ | ⟨b, rest⟩
  · cases h
  -- the first byte decides how many bytes the encoding takes, and it matches that many
  by_cases h0 : b.toNat < 0x80
  · simp only [decodeFirst?, h0, if_true, Option.some.injEq, Prod.mk.injEq] at h
    simp [← h.2]
  by_cases h1 : b.toNat < 0xC2
  · simp [decodeFirst?, h0, h1] at h
  by_cases h2 : b.toNat < 0xE0
  · rcases rest with _ | ⟨b1, rest⟩ <;> simp [decodeFirst?, h0, h1, h2] at h
    simp [← h.2.2]
  by_cases h3 : b.toNat < 0xF0
  · rcases rest with _ | ⟨b1, _ | ⟨b2, rest⟩⟩ <;> simp [decodeFirst?, h0, h1, h2, h3] at h
    simp [← h.2.2]
  by_cases h4 : b.toNat < 0xF5
  · rcases rest with _ | ⟨b1, _ | ⟨b2, _ | ⟨b3, rest⟩⟩⟩ <;>
      simp [decodeFirst?, h0, h1, h2, h3, h4] at h
    simp [← h.2.2]
  · simp [decodeFirst?, h0, h1, h2, h3, h4] at h

theorem runesFrom_nil (fuel : Nat) : runesFrom fuel [] = [] := by
  cases fuel <;> rfl

/-- Reading with fuel for every byte reads the bytes to the end, however much fuel there is. -/
theorem runesFrom_eq : ∀ {fuel fuel' : Nat} {bs : Bytes}, bs.length ≤ fuel → bs.length ≤ fuel' →
    runesFrom fuel bs = runesFrom fuel' bs
  | fuel, fuel', [], _, _ => by rw [runesFrom_nil, runesFrom_nil]
  | 0, _, _ :: _, h, _ => by simp at h
  | _, 0, _ :: _, _, h' => by simp at h'
  | fuel + 1, fuel' + 1, b :: rest, h, h' => by
    simp only [List.length_cons] at h h'
    rw [runesFrom, runesFrom]
    split
    · next c n hd =>
      -- the encoding takes one byte at least, and the rest needs one unit of fuel less
      have hn := decodeFirst?_length hd
      have hlen : ((b :: rest).drop n).length ≤ rest.length := by
        rw [List.length_drop, List.length_cons]
        omega
      rw [@runesFrom_eq fuel fuel' ((b :: rest).drop n) (by omega) (by omega)]
    · rw [@runesFrom_eq fuel fuel' rest (by omega) (by omega)]

@[simp] theorem runes_nil : runes [] = [] := rfl

/-- A valid encoding at the front is read as its character. -/
theorem runes_cons_of_some {b : UInt8} {rest : Bytes} {c : Char} {n : Nat}
    (h : decodeFirst? (b :: rest) = some (c, n)) :
    runes (b :: rest) = (c, (b :: rest).take n) :: runes ((b :: rest).drop n) := by
  have hn := (decodeFirst?_length h).1
  rw [runes, List.length_cons, runesFrom, h]
  dsimp only
  rw [runes, runesFrom_eq (by simp; omega) (Nat.le_refl _)]

/-- A byte that begins no valid encoding is read alone as U+FFFD. -/
theorem runes_cons_of_none {b : UInt8} {rest : Bytes} (h : decodeFirst? (b :: rest) = none) :
    runes (b :: rest) = ('�', [b]) :: runes rest := by
  rw [runes, List.length_cons, runesFrom, h]
  rfl

/-- Induction along the reading of bytes: from no bytes, from the bytes after a valid encoding,
and from the bytes after a byte that begins none. -/
theorem runes_induct {motive : Bytes → Prop} (nil : motive [])
    (decoded : ∀ b rest c n, decodeFirst? (b :: rest) = some (c, n) →
      motive ((b :: rest).drop n) → motive (b :: rest))
    (stray : ∀ b rest, decodeFirst? (b :: rest) = none → motive rest → motive (b :: rest)) :
    ∀ bs, motive bs
  | [] => nil
  | b :: rest =>
    match h : decodeFirst? (b :: rest) with
    | some (c, n) => decoded b rest c n h (runes_induct nil decoded stray ((b :: rest).drop n))
    | none => stray b rest h (runes_induct nil decoded stray rest)
termination_by bs => bs.length
decreasing_by
  · have := (decodeFirst?_length h).1
    simp only [List.length_drop, List.length_cons]
    omega
  · simp

/-- A byte below 0x80 is a character of its own. -/
theorem runes_ascii_cons {x : UInt8} (hx : x.toNat < 0x80) (r : Bytes) :
    runes (x :: r) = (Char.ofNat x.toNat, [x]) :: runes r := by
  rw [runes_cons_of_some (decodeFirst?_ascii hx r)]
  rfl

/-- Bytes below 0x80 are one character each. -/
theorem runes_ascii {bs : Bytes} (h : ∀ x ∈ bs, x.toNat < 0x80) :
    runes bs = bs.map fun x => (Char.ofNat x.toNat, [x]) := by
  induction bs with
  | nil => simp
  | cons x rest ih =>
    rw [runes_ascii_cons (h x (List.mem_cons_self ..)),
      ih fun y hy => h y (List.mem_cons_of_mem _ hy), List.map_cons]

/-- Reading splits at a byte below 0x80. -/
theorem runes_append_ascii (a : Bytes) {x : UInt8} (hx : x.toNat < 0x80) (r : Bytes) :
    runes (a ++ x :: r) = runes a ++ runes (x :: r) := by
  induction a using runes_induct with
  | nil => rfl
  | decoded b rest c n h ih =>
    have hn := decodeFirst?_length h
    have hd : decodeFirst? (b :: (rest ++ x :: r)) = some (c, n) := by
      rw [← List.cons_append, decodeFirst?_append_ascii b rest hx r, h]
    rw [List.cons_append, runes_cons_of_some hd, runes_cons_of_some h, ← List.cons_append,
      List.take_append_of_le_length hn.2, List.drop_append_of_le_length hn.2, ih,
      List.cons_append]
  | stray b rest h ih =>
    have hd : decodeFirst? (b :: (rest ++ x :: r)) = none := by
      rw [← List.cons_append, decodeFirst?_append_ascii b rest hx r, h]
    rw [List.cons_append, runes_cons_of_none hd, runes_cons_of_none h, ih, List.cons_append]

/-- Joining the bytes of the characters gives the bytes back. -/
theorem flatMap_runes (bs : Bytes) : (runes bs).flatMap Prod.snd = bs := by
  induction bs using runes_induct with
  | nil => rfl
  | decoded b rest c n h ih =>
    rw [runes_cons_of_some h, List.flatMap_cons, ih, List.take_append_drop]
  | stray b rest h ih =>
    rw [runes_cons_of_none h, List.flatMap_cons, ih]
    rfl

/-- An encoded character is read as itself, whatever follows it. -/
theorem runes_utf8EncodeChar_append (c : Char) (rest : Bytes) :
    runes (String.utf8EncodeChar c ++ rest) = (c, String.utf8EncodeChar c) :: runes rest := by
  obtain ⟨b, bs, hb⟩ := List.exists_cons_of_ne_nil (String.utf8EncodeChar_ne_nil (c := c))
  have hread := decodeFirst?_utf8EncodeChar c rest
  rw [hb, List.cons_append] at hread
  rw [hb, List.cons_append, runes_cons_of_some hread, ← List.cons_append, List.take_left,
    List.drop_left]

/-- The bytes of a text read as its characters, each with its encoding. -/
theorem runes_utf8_append (cs : List Char) (rest : Bytes) :
    runes (utf8 (String.ofList cs) ++ rest) =
      cs.map (fun c => (c, String.utf8EncodeChar c)) ++ runes rest := by
  rw [utf8_ofList]
  induction cs with
  | nil => rfl
  | cons c cs ih =>
    rw [List.flatMap_cons, List.append_assoc, runes_utf8EncodeChar_append, ih, List.map_cons,
      List.cons_append]

/-- A character read as anything but U+FFFD was read from its own encoding. -/
theorem snd_eq_of_mem_runes {b : Bytes} {p : Char × Bytes} (hp : p ∈ runes b)
    (hne : p.1 ≠ '�') : p.2 = String.utf8EncodeChar p.1 := by
  induction b using runes_induct with
  | nil => simp at hp
  | decoded b rest c n h ih =>
    rw [runes_cons_of_some h] at hp
    rcases List.mem_cons.1 hp with rfl | hp
    · exact take_of_decodeFirst? h
    · exact ih hp
  | stray b rest h ih =>
    rw [runes_cons_of_none h] at hp
    rcases List.mem_cons.1 hp with rfl | hp
    · exact absurd rfl hne
    · exact ih hp

/-! ### Words -/

/-- Whether bytes hold no blank character. -/
def NoBlank (bs : Bytes) : Prop := ∀ p ∈ runes bs, isBlank p.1 = false

/-- A blank character closes the open run: what follows it is cut on its own. -/
theorem fieldsFrom_append_blank (cur : Bytes) (rs : List (Char × Bytes)) {c : Char}
    (hc : isBlank c = true) (bytes : Bytes) (rs' : List (Char × Bytes)) :
    fieldsFrom cur (rs ++ (c, bytes) :: rs') = fieldsFrom cur rs ++ fieldsFrom [] rs' := by
  induction rs generalizing cur with
  | nil => simp [fieldsFrom, hc]
  | cons p rs ih =>
    obtain ⟨c', bytes'⟩ := p
    by_cases hb : isBlank c' = true
    · simp [fieldsFrom, hb, ih]
    · simp [fieldsFrom, hb, ih]

/-- Characters that are not blank all join the open run. -/
theorem fieldsFrom_of_noBlank (cur : Bytes) {rs : List (Char × Bytes)}
    (h : ∀ p ∈ rs, isBlank p.1 = false) :
    fieldsFrom cur rs = fieldsFrom (cur ++ rs.flatMap Prod.snd) [] := by
  induction rs generalizing cur with
  | nil => simp
  | cons p rs ih =>
    obtain ⟨c, bytes⟩ := p
    have hc : isBlank c = false := h (c, bytes) List.mem_cons_self
    have hrs : ∀ q ∈ rs, isBlank q.1 = false := fun q hq => h q (List.mem_cons_of_mem _ hq)
    rw [fieldsFrom.eq_2, if_neg (by simp [hc]), ih _ hrs, List.flatMap_cons, List.append_assoc]

/-- A space cuts the words of bytes in two. -/
theorem fields_append_space (a b : Bytes) : fields (a ++ 0x20 :: b) = fields a ++ fields b := by
  have hs : (0x20 : UInt8).toNat < 0x80 := by decide
  have hb : isBlank (Char.ofNat (0x20 : UInt8).toNat) = true := by decide
  rw [fields, runes_append_ascii a hs, runes_ascii_cons hs, fieldsFrom_append_blank _ _ hb,
    fields, fields]

/-- Bytes that are not empty and hold no blank are one word. -/
theorem fields_of_noBlank {w : Bytes} (hw : w ≠ []) (h : NoBlank w) : fields w = [w] := by
  rw [fields, fieldsFrom_of_noBlank [] h, flatMap_runes, List.nil_append, fieldsFrom]
  simp [hw]

/-- Bytes below 0x80 that are not blank characters hold no blank. -/
theorem noBlank_of_ascii {bs : Bytes} (h : ∀ x ∈ bs, x.toNat < 0x80)
    (hb : ∀ x ∈ bs, isBlank (Char.ofNat x.toNat) = false) : NoBlank bs := by
  intro p hp
  rw [runes_ascii h, List.mem_map] at hp
  obtain ⟨x, hx, rfl⟩ := hp
  exact hb x hx

end SigmaQuery.Text
