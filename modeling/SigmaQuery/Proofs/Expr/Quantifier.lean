import SigmaQuery.Expr.Lex
import SigmaQuery.Proofs.Text.Runes

/-!
# The measure of a quantifier

Where a word may start, the reader measures the quantifiers `1 of` and `all of` in the bytes of
the text with `statementLen`: byte offsets for its cuts, characters read from the bytes for the
blanks. `StatementStart first second b n` says what it should find without its loop: the
encodings of the first word in any case, of blanks (one at least) and of the second word in any
case, then the end or the encoding of a blank, all in `n` bytes. The measure never cuts out of
range, and is positive exactly on such bytes, with their number (`statementLen_measures_quantifier`).
The letters of `1`, `all` and `of` have no case partner outside ASCII, so lowering ASCII letters
is case folding for them. On the bytes of a text it finds the quantifier `quantifier?` reads
from the characters (`statement?_eq_quantifier?`).
-/

namespace SigmaQuery.Expr

/-! ### Words in any case -/

/-- Lowering a byte below 0x80 lowers the character it encodes. -/
theorem lowerAscii_ofNat : ∀ n, n < 0x80 →
    lowerAscii (UInt8.ofNat n) = UInt8.ofNat (Char.ofNat n).toLower.toNat := by
  decide +kernel

/-- Lowering keeps a character below 0x80 there. -/
theorem toLower_ofNat_lt : ∀ n, n < 0x80 → (Char.ofNat n).toLower.toNat < 0x80 := by
  decide +kernel

/-- Only a character below 0x80 lowers to one below 0x80. -/
theorem toNat_lt_of_toLower {c : Char} (h : c.toLower.toNat < 0x80) : c.toNat < 0x80 := by
  unfold Char.toLower at h
  split at h
  · next hup =>
    have : c.toNat ≤ 90 := by
      simp only [ge_iff_le, UInt32.le_iff_toNat_le] at hup
      exact hup.2
    omega
  · exact h

/-- A byte spells a character below 0x80 that is its own lower case exactly when it is the
encoding of a character that lowers to it. -/
theorem lowerAscii_eq_iff {d : Char} (hd : d.toNat < 0x80) (hlow : d.toLower = d) (y : UInt8) :
    lowerAscii y = lowerAscii (UInt8.ofNat d.toNat) ↔
      ∃ c : Char, c.toLower = d ∧ String.utf8EncodeChar c = [y] := by
  have hself : lowerAscii (UInt8.ofNat d.toNat) = UInt8.ofNat d.toNat := by
    rw [lowerAscii_ofNat d.toNat hd, Char.ofNat_toNat, hlow]
  rw [hself]
  constructor
  · intro h
    -- a byte from 0x80 up is its own lower case, so `y` is below 0x80
    have hy : y.toNat < 0x80 := by
      by_contra hy
      have hkeep : lowerAscii y = y := by simp only [lowerAscii]; rw [if_neg (by omega)]
      have := congrArg UInt8.toNat (hkeep.symm.trans h)
      rw [Text.toNat_ofNat_byte] at this
      omega
    refine ⟨Char.ofNat y.toNat, ?_, ?_⟩
    · have hlower := lowerAscii_ofNat y.toNat hy
      rw [UInt8.ofNat_toNat, h] at hlower
      have := congrArg UInt8.toNat hlower
      rw [Text.toNat_ofNat_byte, Text.toNat_ofNat_byte,
        Nat.mod_eq_of_lt (by omega), Nat.mod_eq_of_lt (by have := toLower_ofNat_lt y.toNat hy; omega)] at this
      exact (Char.toNat_inj.mp this).symm
    · rw [Text.utf8EncodeChar_of_lt (by rw [Text.toNat_charOfNat (by omega)]; exact hy),
        Text.toNat_charOfNat (by omega), UInt8.ofNat_toNat]
  · rintro ⟨c, rfl, hc⟩
    have hlt : c.toNat < 0x80 := toNat_lt_of_toLower hd
    rw [Text.utf8EncodeChar_of_lt hlt, List.singleton_inj] at hc
    rw [← hc, lowerAscii_ofNat c.toNat hlt, Char.ofNat_toNat]

theorem spellsWord_cons (x : UInt8) (w : Text.Bytes) (y : UInt8) (b : Text.Bytes) :
    spellsWord (x :: w) (y :: b) = (lowerAscii y == lowerAscii x && spellsWord w b) := by
  simp only [spellsWord, List.length_cons, List.zipWith_cons_cons, List.all_cons, id_eq]
  cases lowerAscii y == lowerAscii x <;> simp

/-- Bytes that spell a word have as many bytes as the word. -/
theorem length_of_spellsWord {w b : Text.Bytes} (h : spellsWord w b = true) :
    b.length = w.length := by
  simp only [spellsWord, Bool.and_eq_true, beq_iff_eq] at h
  exact h.1

/-- Bytes spell a word of lower-case characters below 0x80 exactly when they encode the word
in some case. -/
theorem spellsWord_iff {first : List Char} (hfirst : ∀ d ∈ first, d.toNat < 0x80 ∧ d.toLower = d)
    (b : Text.Bytes) :
    spellsWord (Text.utf8 (String.ofList first)) b = true ↔
      ∃ word : List Char, word.map Char.toLower = first ∧ b = Text.utf8 (String.ofList word) := by
  simp only [Text.utf8_ofList]
  induction first generalizing b with
  | nil =>
    cases b with
    | nil => simp [spellsWord]
    | cons y b => simp [spellsWord]
  | cons d ds ih =>
    obtain ⟨hd, hlow⟩ := hfirst d List.mem_cons_self
    have ih := ih fun e he => hfirst e (List.mem_cons_of_mem _ he)
    rw [List.flatMap_cons, Text.utf8EncodeChar_of_lt hd, List.singleton_append]
    cases b with
    | nil =>
      constructor
      · simp [spellsWord]
      · rintro ⟨word, hword, hb⟩
        obtain ⟨c, cs, rfl, -, -⟩ := List.map_eq_cons_iff.1 hword
        have := String.utf8EncodeChar_ne_nil (c := c)
        simp_all
    | cons y b =>
      rw [spellsWord_cons, Bool.and_eq_true, beq_iff_eq, lowerAscii_eq_iff hd hlow, ih]
      constructor
      · rintro ⟨⟨c, hc, hy⟩, word, hword, rfl⟩
        exact ⟨c :: word, by rw [List.map_cons, hc, hword], by rw [List.flatMap_cons, hy, List.singleton_append]⟩
      · rintro ⟨word, hword, hb⟩
        obtain ⟨c, cs, rfl, hc, hcs⟩ := List.map_eq_cons_iff.1 hword
        have hlt : c.toNat < 0x80 := toNat_lt_of_toLower (hc ▸ hd)
        rw [List.flatMap_cons, Text.utf8EncodeChar_of_lt hlt, List.singleton_append, List.cons.injEq] at hb
        exact ⟨⟨c, hc, by rw [Text.utf8EncodeChar_of_lt hlt, hb.1]⟩, cs, hcs, hb.2⟩

/-! ### Blanks -/

/-- Encoded blanks before a character that is not blank are what `spaceLen` measures. -/
theorem spaceLen_utf8_append {gap : List Char} (hgap : ∀ c ∈ gap, Text.isBlank c = true)
    {r : Text.Bytes} (hr : ∀ p ∈ (Text.runes r).head?, Text.isBlank p.1 = false) :
    spaceLen (Text.utf8 (String.ofList gap) ++ r) = (Text.utf8 (String.ofList gap)).length := by
  have hstop : (Text.runes r).takeWhile (fun p => Text.isBlank p.1) = [] := by
    cases h : Text.runes r with
    | nil => rfl
    | cons p ps =>
      rw [h] at hr
      simp [hr p rfl]
  rw [spaceLen, Text.runes_utf8_append, List.takeWhile_append_of_pos (by simpa using hgap), hstop,
    List.append_nil, Text.utf8_ofList, List.flatMap_map]

/-- Bytes that start with the encoding of a blank have a positive measure. -/
theorem spaceLen_pos {c : Char} (hc : Text.isBlank c = true) (more : Text.Bytes) :
    0 < spaceLen (String.utf8EncodeChar c ++ more) := by
  rw [spaceLen, Text.runes_utf8EncodeChar_append, List.takeWhile_cons_of_pos (by simpa using hc),
    List.flatMap_cons, List.length_append]
  exact Nat.lt_of_lt_of_le (List.length_pos_iff.mpr String.utf8EncodeChar_ne_nil)
    (Nat.le_add_right _ _)

/-- What `spaceLen` measures is the encoding of a run of blanks at the start of the bytes. -/
theorem exists_blanks_of_spaceLen (b : Text.Bytes) :
    ∃ gap : List Char, (∀ c ∈ gap, Text.isBlank c = true) ∧
      b = Text.utf8 (String.ofList gap) ++ b.drop (spaceLen b) ∧
      spaceLen b = (Text.utf8 (String.ofList gap)).length := by
  set blanks := (Text.runes b).takeWhile fun p => Text.isBlank p.1 with hblanks
  -- each blank was read from its own encoding, since U+FFFD is no blank
  have hbytes : blanks.flatMap Prod.snd = Text.utf8 (String.ofList (blanks.map Prod.fst)) := by
    rw [Text.utf8_ofList, List.flatMap_map]
    apply List.flatMap_congr
    intro p hp
    have hblank : Text.isBlank p.1 = true := List.all_eq_true.1 List.all_takeWhile p hp
    refine Text.snd_eq_of_mem_runes ((List.takeWhile_sublist _).subset hp) ?_
    intro hfffd
    rw [hfffd] at hblank
    revert hblank
    decide
  have hsplit : b = blanks.flatMap Prod.snd ++
      ((Text.runes b).dropWhile fun p => Text.isBlank p.1).flatMap Prod.snd := by
    rw [← List.flatMap_append, List.takeWhile_append_dropWhile, Text.flatMap_runes]
  have hlen : spaceLen b = (blanks.flatMap Prod.snd).length := rfl
  refine ⟨blanks.map Prod.fst, ?_, ?_, by rw [hlen, hbytes]⟩
  · intro c hc
    obtain ⟨p, hp, rfl⟩ := List.mem_map.1 hc
    exact List.all_eq_true.1 List.all_takeWhile p hp
  · rw [← hbytes, hlen]
    conv_rhs => rw [hsplit, List.drop_left]
    exact hsplit

/-! ### The look-ahead, word by word -/

theorem slice?_eq {b : Text.Bytes} {lo hi : Nat} (h : lo ≤ hi) (hhi : hi ≤ b.length) :
    Text.slice? b lo hi = some ((b.drop lo).take (hi - lo)) := by
  rw [Text.slice?, if_pos ⟨h, hhi⟩]

section Steps

variable (input : Text.Bytes)

/-- One word of the look-ahead: after the blanks before it, one at least unless it is the first
word, the word is compared with the bytes it would take, which lie inside the input. -/
theorem statementFrom_cons {word : Text.Bytes} {words : List Text.Bytes} {pos : Nat}
    {first : Bool} (hpos : pos ≤ input.length) :
    statementFrom input (word :: words) pos first =
      let gap := if first then 0 else spaceLen (input.drop pos)
      if (first = false ∧ gap = 0) ∨ input.length < pos + gap + word.length then some 0
      else if spellsWord word ((input.drop (pos + gap)).take word.length) then
        statementFrom input words (pos + gap + word.length) false
      else some 0 := by
  have hrest : Text.slice? input pos input.length = some (input.drop pos) := by
    rw [slice?_eq hpos (Nat.le_refl _), List.take_of_length_le (by simp)]
  -- the word's bytes are cut inside the text whenever the text is long enough
  have hpiece : ∀ gap, pos + gap + word.length ≤ input.length →
      Text.slice? input (pos + gap) (pos + gap + word.length) =
        some ((input.drop (pos + gap)).take word.length) := by
    intro gap h
    rw [slice?_eq (by omega) h, Nat.add_sub_cancel_left]
  rw [statementFrom]
  cases first with
  | true =>
    simp only [if_true, Option.bind_some, Bool.not_true, Bool.false_and, Bool.false_eq_true,
      if_false, Nat.add_zero]
    have hfirst := hpiece 0
    simp only [Nat.add_zero] at hfirst
    by_cases hlen : input.length < pos + word.length
    · rw [if_pos hlen, if_pos (Or.inr hlen)]
    · rw [if_neg hlen, if_neg (by simp [hlen]), hfirst (by omega), Option.bind_some]
  | false =>
    simp only [Bool.false_eq_true, if_false, hrest, Option.map_eq_map, Option.map_some,
      Option.bind_some, Bool.not_false, Bool.true_and]
    by_cases hgap : spaceLen (input.drop pos) = 0
    · simp [hgap]
    by_cases hlen : input.length < pos + spaceLen (input.drop pos) + word.length
    · simp [hlen]
    · rw [if_neg (by simp [hgap]), if_neg hlen, if_neg (by simp [hgap, hlen]), hpiece _ (by omega),
        Option.bind_some]

/-- After the last word, the input ends or goes on with a blank. -/
theorem statementFrom_nil {pos : Nat} {first : Bool} (hpos : pos ≤ input.length) :
    statementFrom input [] pos first =
      some (if pos < input.length ∧ spaceLen (input.drop pos) = 0 then 0 else pos) := by
  rw [statementFrom]
  by_cases hlt : pos < input.length
  · rw [if_pos hlt, slice?_eq hpos (Nat.le_refl _), List.take_of_length_le (by simp),
      Option.map_some]
    by_cases h0 : spaceLen (input.drop pos) = 0 <;> simp [hlt, h0]
  · simp [hlt]

/-- The look-ahead never cuts the text out of range: it gives a measure from every place inside
the text. -/
theorem statementFrom_isSome {words : List Text.Bytes} {pos : Nat} {first : Bool}
    (hpos : pos ≤ input.length) : (statementFrom input words pos first).isSome := by
  induction words generalizing pos first with
  | nil => rw [statementFrom_nil input hpos]; rfl
  | cons word words ih =>
    rw [statementFrom_cons input hpos]
    generalize (if first then 0 else spaceLen (input.drop pos)) = gap
    dsimp only
    split_ifs with hstop
    · rfl
    · exact ih (by omega)
    · rfl

/-- The look-ahead for a quantifier of two words, in closed form: the first word at the start,
blanks after it, the second word after them, and then the end of the input or a blank. -/
theorem statementFrom_two (w₁ w₂ : Text.Bytes) :
    statementFrom input [w₁, w₂] 0 true =
      let gap := spaceLen (input.drop w₁.length)
      let q := w₁.length + gap + w₂.length
      some (if w₁.length ≤ input.length ∧ spellsWord w₁ (input.take w₁.length) = true ∧ 0 < gap ∧
          q ≤ input.length ∧
          spellsWord w₂ ((input.drop (w₁.length + gap)).take w₂.length) = true ∧
          (q < input.length → 0 < spaceLen (input.drop q))
        then q else 0) := by
  rw [statementFrom_cons input (Nat.zero_le _)]
  simp only [if_true, Nat.zero_add, Nat.add_zero, List.drop_zero, Bool.true_eq_false, false_and,
    false_or]
  by_cases h₁ : input.length < w₁.length
  · rw [if_pos h₁, if_neg (by omega)]
  rw [if_neg h₁]
  by_cases s₁ : spellsWord w₁ (input.take w₁.length) = true
  swap
  · rw [if_neg s₁, if_neg (by simp [s₁])]
  rw [if_pos s₁, statementFrom_cons input (by omega)]
  simp only [Bool.false_eq_true, if_false, true_and]
  generalize spaceLen (input.drop w₁.length) = gap
  by_cases hstop : gap = 0 ∨ input.length < w₁.length + gap + w₂.length
  · rw [if_pos hstop, if_neg (by omega)]
  rw [if_neg hstop]
  by_cases s₂ : spellsWord w₂ ((input.drop (w₁.length + gap)).take w₂.length) = true
  swap
  · rw [if_neg s₂, if_neg (by simp [s₂])]
  rw [if_pos s₂, statementFrom_nil input (by omega)]
  by_cases hend : w₁.length + gap + w₂.length < input.length ∧
      spaceLen (input.drop (w₁.length + gap + w₂.length)) = 0
  · rw [if_pos hend, if_neg (by omega)]
  · rw [if_neg hend, if_pos ⟨by omega, s₁, by omega, by omega, s₂, fun hlt => by omega⟩]

end Steps

/-! ### What the measure finds -/

/-- No blank is an upper case letter. -/
theorem toLower_of_isBlank {c : Char} (h : Text.isBlank c = true) : c.toLower = c := by
  unfold Char.toLower
  rw [dif_neg]
  rintro ⟨hlo, hhi⟩
  simp only [ge_iff_le, UInt32.le_iff_toNat_le] at hlo hhi
  have hn : 65 ≤ c.toNat ∧ c.toNat ≤ 90 := ⟨hlo, hhi⟩
  simp only [Text.isBlank, Bool.or_eq_true, Bool.and_eq_true, decide_eq_true_eq, beq_iff_eq] at h
  omega

/-- `input` starts with a quantifier of words `first` and `second` that takes `n` bytes: the
encodings of the first word in any case, of one blank character at least and of the second word
in any case, followed by the end of the input or the encoding of a blank. -/
inductive StatementStart (first second : List Char) : Text.Bytes → Nat → Prop
  | intro (word₁ gap word₂ : List Char) (rest : Text.Bytes)
      (lower₁ : word₁.map Char.toLower = first)
      (gap_ne : gap ≠ [])
      (gap_blank : ∀ c ∈ gap, Text.isBlank c = true)
      (lower₂ : word₂.map Char.toLower = second)
      (ends : rest = [] ∨
        ∃ c more, Text.isBlank c = true ∧ rest = String.utf8EncodeChar c ++ more) :
      StatementStart first second (Text.utf8 (String.ofList (word₁ ++ gap ++ word₂)) ++ rest)
        (Text.utf8 (String.ofList (word₁ ++ gap ++ word₂))).length

/-- A text with a character has bytes. -/
theorem utf8_ne_nil {cs : List Char} (h : cs ≠ []) : Text.utf8 (String.ofList cs) ≠ [] := by
  obtain ⟨c, cs, rfl⟩ := List.exists_cons_of_ne_nil h
  rw [Text.utf8_ofList, List.flatMap_cons]
  exact List.append_ne_nil_of_left_ne_nil String.utf8EncodeChar_ne_nil _

/-- Bytes with a positive measure of blanks start with the encoding of a blank. -/
theorem exists_blank_of_spaceLen_pos {b : Text.Bytes} (h : 0 < spaceLen b) :
    ∃ c more, Text.isBlank c = true ∧ b = String.utf8EncodeChar c ++ more := by
  obtain ⟨gap, hblank, hrest, hlen⟩ := exists_blanks_of_spaceLen b
  cases gap with
  | nil =>
    rw [hlen] at h
    exact absurd h (by decide +kernel)
  | cons c gs =>
    refine ⟨c, gs.flatMap String.utf8EncodeChar ++ b.drop (spaceLen b),
      hblank c List.mem_cons_self, hrest.trans ?_⟩
    rw [Text.utf8_ofList, List.flatMap_cons, List.append_assoc]

/-- A word whose lower case starts with a character that is not blank starts with a character
that is not blank, so a run of blanks before it stops there. -/
theorem head_runes_not_blank {word second : List Char} (lower : word.map Char.toLower = second)
    (hhead : ∃ d ∈ second.head?, Text.isBlank d = false) (rest : Text.Bytes) :
    ∀ p ∈ (Text.runes (Text.utf8 (String.ofList word) ++ rest)).head?,
      Text.isBlank p.1 = false := by
  obtain ⟨d, hd, hblank⟩ := hhead
  rw [← lower] at hd
  obtain ⟨c, cs, rfl⟩ : ∃ c cs, word = c :: cs := by
    cases word with
    | nil => simp at hd
    | cons c cs => exact ⟨c, cs, rfl⟩
  simp only [List.map_cons, List.head?_cons, Option.mem_def, Option.some.injEq] at hd
  subst hd
  rw [Text.runes_utf8_append, List.map_cons, List.cons_append, List.head?_cons]
  intro p hp
  cases hp
  cases hc : Text.isBlank c
  · rfl
  · rw [toLower_of_isBlank hc, hc] at hblank
    cases hblank

section Words

variable {first second : List Char}
  (hfirst : ∀ d ∈ first, d.toNat < 0x80 ∧ d.toLower = d)
  (hsecond : ∀ d ∈ second, d.toNat < 0x80 ∧ d.toLower = d)
include hfirst hsecond

/-- Where a quantifier of two words starts, the look-ahead of the words measures its bytes. -/
theorem statementFrom_of_statementStart (hhead : ∃ d ∈ second.head?, Text.isBlank d = false)
    {input : Text.Bytes} {n : Nat} (h : StatementStart first second input n) :
    0 < n ∧ statementFrom input
      [Text.utf8 (String.ofList first), Text.utf8 (String.ofList second)] 0 true = some n := by
  rw [statementFrom_two]
  dsimp only
  generalize hw₁ : Text.utf8 (String.ofList first) = w₁
  generalize hw₂ : Text.utf8 (String.ofList second) = w₂
  obtain ⟨word₁, gap, word₂, rest, lower₁, gap_ne, gap_blank, lower₂, ends⟩ := h
  have spells₁ : spellsWord w₁ (Text.utf8 (String.ofList word₁)) = true :=
    hw₁ ▸ (spellsWord_iff hfirst _).2 ⟨word₁, lower₁, rfl⟩
  have spells₂ : spellsWord w₂ (Text.utf8 (String.ofList word₂)) = true :=
    hw₂ ▸ (spellsWord_iff hsecond _).2 ⟨word₂, lower₂, rfl⟩
  have hlen₁ := length_of_spellsWord spells₁
  have hlen₂ := length_of_spellsWord spells₂
  have hgap := spaceLen_utf8_append gap_blank (head_runes_not_blank lower₂ hhead rest)
  have hgap_pos := List.length_pos_iff.mpr (utf8_ne_nil gap_ne)
  have hsplit : Text.utf8 (String.ofList (word₁ ++ gap ++ word₂)) ++ rest =
      Text.utf8 (String.ofList word₁) ++ (Text.utf8 (String.ofList gap) ++
        (Text.utf8 (String.ofList word₂) ++ rest)) := by
    simp only [Text.utf8_ofList, List.flatMap_append, List.append_assoc]
  have hlen : (Text.utf8 (String.ofList (word₁ ++ gap ++ word₂))).length =
      w₁.length + (Text.utf8 (String.ofList gap)).length + w₂.length := by
    simp only [Text.utf8_ofList, List.flatMap_append, List.length_append] at hlen₁ hlen₂ ⊢
    omega
  rw [hsplit, hlen]
  generalize Text.utf8 (String.ofList word₁) = W₁ at *
  generalize Text.utf8 (String.ofList gap) = G at *
  generalize Text.utf8 (String.ofList word₂) = W₂ at *
  -- each cut falls where the spec says
  have hdrop₁ : (W₁ ++ (G ++ (W₂ ++ rest))).drop w₁.length = G ++ (W₂ ++ rest) := by
    rw [← hlen₁, List.drop_left]
  have hdrop₂ : (W₁ ++ (G ++ (W₂ ++ rest))).drop (w₁.length + G.length) = W₂ ++ rest := by
    rw [← List.drop_drop, hdrop₁, List.drop_left]
  have hdrop₃ : (W₁ ++ (G ++ (W₂ ++ rest))).drop (w₁.length + G.length + w₂.length) = rest := by
    rw [← List.drop_drop, hdrop₂, ← hlen₂, List.drop_left]
  have htotal : (W₁ ++ (G ++ (W₂ ++ rest))).length =
      w₁.length + G.length + w₂.length + rest.length := by
    simp only [List.length_append]
    omega
  have hend : w₁.length + G.length + w₂.length < (W₁ ++ (G ++ (W₂ ++ rest))).length →
      0 < spaceLen ((W₁ ++ (G ++ (W₂ ++ rest))).drop (w₁.length + G.length + w₂.length)) := by
    intro hlt
    rw [hdrop₃]
    rcases ends with rfl | ⟨c, more, hc, rfl⟩
    · rw [htotal, List.length_nil, Nat.add_zero] at hlt
      exact absurd hlt (Nat.lt_irrefl _)
    · exact spaceLen_pos hc more
  rw [hdrop₁, hgap, if_pos ⟨by omega, by rw [← hlen₁, List.take_left]; exact spells₁, hgap_pos,
    by omega, by rw [hdrop₂, ← hlen₂, List.take_left]; exact spells₂, hend⟩]
  exact ⟨by omega, rfl⟩

/-- Where the look-ahead of two words measures a positive number of bytes, a quantifier of the
words starts, with that many bytes. -/
theorem statementStart_of_statementFrom {input : Text.Bytes} {n : Nat} (hn : 0 < n)
    (h : statementFrom input
      [Text.utf8 (String.ofList first), Text.utf8 (String.ofList second)] 0 true = some n) :
    StatementStart first second input n := by
  rw [statementFrom_two] at h
  dsimp only at h
  generalize hw₁ : Text.utf8 (String.ofList first) = w₁ at h
  generalize hw₂ : Text.utf8 (String.ofList second) = w₂ at h
  split_ifs at h with hc
  swap
  · cases h
    omega
  obtain ⟨h₁, s₁, hgap_pos, hq, s₂, hend⟩ := hc
  cases h
  set g := spaceLen (input.drop w₁.length) with hg
  set q := w₁.length + g + w₂.length with hq_def
  -- the pieces the measure cut, as characters
  obtain ⟨word₁, lower₁, hW₁⟩ :=
    (spellsWord_iff hfirst (input.take w₁.length)).1 (by rw [hw₁]; exact s₁)
  obtain ⟨gap, gap_blank, hafter, hglen⟩ := exists_blanks_of_spaceLen (input.drop w₁.length)
  obtain ⟨word₂, lower₂, hW₂⟩ :=
    (spellsWord_iff hsecond ((input.drop (w₁.length + g)).take w₂.length)).1
      (by rw [hw₂]; exact s₂)
  rw [← hg] at hafter hglen
  have gap_ne : gap ≠ [] := by
    rintro rfl
    rw [hglen] at hgap_pos
    exact absurd hgap_pos (by decide +kernel)
  -- what follows the quantifier is the end or starts with a blank
  have ends : input.drop q = [] ∨
      ∃ c more, Text.isBlank c = true ∧ input.drop q = String.utf8EncodeChar c ++ more := by
    by_cases hlt : q < input.length
    · exact .inr (exists_blank_of_spaceLen_pos (hend hlt))
    · exact .inl (List.drop_eq_nil_of_le (by omega))
  have hlen₁ : (Text.utf8 (String.ofList word₁)).length = w₁.length := by
    rw [← hW₁, List.length_take]
    omega
  have hlen₂ : (Text.utf8 (String.ofList word₂)).length = w₂.length := by
    rw [← hW₂, List.length_take, List.length_drop]
    omega
  have hinput : input = Text.utf8 (String.ofList (word₁ ++ gap ++ word₂)) ++ input.drop q := by
    calc input = input.take w₁.length ++
          (Text.utf8 (String.ofList gap) ++ (input.drop (w₁.length + g))) := by
          rw [← List.drop_drop, ← hafter, List.take_append_drop]
      _ = input.take w₁.length ++ (Text.utf8 (String.ofList gap) ++
          ((input.drop (w₁.length + g)).take w₂.length ++ input.drop q)) := by
          have hthird : input.drop (w₁.length + g + w₂.length) =
              (input.drop (w₁.length + g)).drop w₂.length := by
            rw [List.drop_drop]
          rw [hq_def, hthird, List.take_append_drop]
      _ = Text.utf8 (String.ofList (word₁ ++ gap ++ word₂)) ++ input.drop q := by
          rw [hW₁, hW₂]
          simp only [Text.utf8_ofList, List.flatMap_append, List.append_assoc]
  have hlenq : q = (Text.utf8 (String.ofList (word₁ ++ gap ++ word₂))).length := by
    have hsum := congrArg List.length (Text.utf8_ofList (word₁ ++ gap ++ word₂))
    simp only [List.flatMap_append, List.length_append, ← Text.utf8_ofList] at hsum
    omega
  have key := StatementStart.intro word₁ gap word₂ (input.drop q) lower₁ gap_ne gap_blank lower₂
    ends
  rw [← hinput, ← hlenq] at key
  exact key

/-- The look-ahead of two words finds a quantifier exactly where one starts, and measures its
bytes. -/
theorem statementStart_iff (hhead : ∃ d ∈ second.head?, Text.isBlank d = false)
    (input : Text.Bytes) (n : Nat) :
    StatementStart first second input n ↔
      0 < n ∧ statementFrom input
        [Text.utf8 (String.ofList first), Text.utf8 (String.ofList second)] 0 true = some n :=
  ⟨statementFrom_of_statementStart hfirst hsecond hhead,
    fun h => statementStart_of_statementFrom hfirst hsecond h.1 h.2⟩

end Words

/-- Words below 0x80 with no blank, a space between them, are two words. -/
theorem fields_pair {a b : Text.Bytes} (ha : a ≠ []) (hb : b ≠ [])
    (hascii : ∀ x ∈ a ++ b, x.toNat < 0x80 ∧ Text.isBlank (Char.ofNat x.toNat) = false) :
    Text.fields (a ++ 0x20 :: b) = [a, b] := by
  have hwords : ∀ w, (∀ x ∈ w, x ∈ a ++ b) → w ≠ [] → Text.fields w = [w] := fun w hw hne =>
    Text.fields_of_noBlank hne (Text.noBlank_of_ascii (fun x hx => (hascii x (hw x hx)).1)
      (fun x hx => (hascii x (hw x hx)).2))
  rw [Text.fields_append_space, hwords a (fun x hx => List.mem_append_left _ hx) ha,
    hwords b (fun x hx => List.mem_append_right _ hx) hb]
  rfl

theorem fields_literal_quantOne : Text.fields (Text.utf8 TokenKind.quantOne.literal) =
    [Text.utf8 (String.ofList ['1']), Text.utf8 (String.ofList ['o', 'f'])] := by
  have h : Text.utf8 TokenKind.quantOne.literal =
      Text.utf8 (String.ofList ['1']) ++ 0x20 :: Text.utf8 (String.ofList ['o', 'f']) := by
    decide +kernel
  rw [h, fields_pair (by decide +kernel) (by decide +kernel) (by decide +kernel)]

theorem fields_literal_quantAll : Text.fields (Text.utf8 TokenKind.quantAll.literal) =
    [Text.utf8 (String.ofList ['a', 'l', 'l']), Text.utf8 (String.ofList ['o', 'f'])] := by
  have h : Text.utf8 TokenKind.quantAll.literal =
      Text.utf8 (String.ofList ['a', 'l', 'l']) ++ 0x20 :: Text.utf8 (String.ofList ['o', 'f']) := by
    decide +kernel
  rw [h, fields_pair (by decide +kernel) (by decide +kernel) (by decide +kernel)]

/-- The measure never cuts its input out of range. -/
theorem statementLen_isSome (input : Text.Bytes) (t : TokenKind) :
    (statementLen input t).isSome :=
  statementFrom_isSome input (Nat.zero_le _)

theorem statementLen_quantOne_iff (input : Text.Bytes) (n : Nat) :
    0 < n ∧ statementLen input .quantOne = some n ↔ StatementStart ['1'] ['o', 'f'] input n := by
  rw [statementLen, fields_literal_quantOne]
  exact (statementStart_iff (by simp) (by simp) ⟨'o', rfl, by decide⟩ input n).symm

theorem statementLen_quantAll_iff (input : Text.Bytes) (n : Nat) :
    0 < n ∧ statementLen input .quantAll = some n ↔
      StatementStart ['a', 'l', 'l'] ['o', 'f'] input n := by
  rw [statementLen, fields_literal_quantAll]
  exact (statementStart_iff (by simp) (by simp) ⟨'o', rfl, by decide⟩ input n).symm

/-- The measure of the quantifiers `1 of` and `all of` in bytes: it never cuts the input out of
range, and it is positive exactly when the input starts with the quantifier's first word, blank
characters (one at least) and its second word, each word in any case, followed by the end of the
input or a blank character; it is then the number of bytes of that start. -/
theorem statementLen_measures_quantifier (input : Text.Bytes) :
    (statementLen input .quantOne).isSome ∧ (statementLen input .quantAll).isSome ∧
      (∀ n, 0 < n ∧ statementLen input .quantOne = some n ↔
        StatementStart ['1'] ['o', 'f'] input n) ∧
      ∀ n, 0 < n ∧ statementLen input .quantAll = some n ↔
        StatementStart ['a', 'l', 'l'] ['o', 'f'] input n :=
  ⟨statementLen_isSome input _, statementLen_isSome input _, statementLen_quantOne_iff input,
    statementLen_quantAll_iff input⟩

/-- `ALL`, a no-break space and an ideographic space, then `Of` and a tab: seven characters in
ten bytes. -/
theorem statementLen_measures_quantifier_wide_blanks :
    statementLen (Text.utf8 "ALL\u00A0\u3000Of\tx") .quantAll = some 10 := by
  have hstart : StatementStart ['a', 'l', 'l'] ['o', 'f'] _ _ :=
    .intro ['A', 'L', 'L'] ['\u00A0', '\u3000'] ['O', 'f'] (String.utf8EncodeChar '\t' ++ [0x78])
      (by decide) (by simp)
      (List.forall_mem_cons.mpr ⟨by decide, List.forall_mem_singleton.mpr (by decide)⟩)
      (by decide) (.inr ⟨'\t', [0x78], by decide, rfl⟩)
  have hinput : Text.utf8 (String.ofList (['A', 'L', 'L'] ++ ['\u00A0', '\u3000'] ++ ['O', 'f'])) ++
      (String.utf8EncodeChar '\t' ++ [0x78]) = Text.utf8 "ALL\u00A0\u3000Of\tx" := by
    decide +kernel
  have hlen : (Text.utf8 (String.ofList
      (['A', 'L', 'L'] ++ ['\u00A0', '\u3000'] ++ ['O', 'f']))).length = 10 := by
    decide +kernel
  rw [hinput, hlen] at hstart
  exact (((statementLen_measures_quantifier _).2.2.2 10).2 hstart).2

/-! ### The quantifier of a text -/

/-- The width `bytePrefix` gives a character is the length of its encoding. -/
theorem byteWidth_eq_length (c : Char) : Text.byteWidth c = (String.utf8EncodeChar c).length := by
  have hv : c.val.toNat = c.toNat := rfl
  unfold Text.byteWidth String.utf8EncodeChar
  simp only [hv]
  split_ifs <;> simp <;> omega

/-- Whether a text starts with `of` in any case, followed by a blank or by the end. -/
def closesQuantifier : List Char → Bool
  | o :: f :: rest => o.toLower == 'o' && f.toLower == 'f' && rest.head?.all Text.isBlank
  | _ => false

/-- The number of characters a quantifier with first word `word` takes at the start of a
text: the word in any case, a run of blanks, one at least, and `of`. -/
def quantifierOf (word cs : List Char) : Option Nat :=
  let rest := cs.drop word.length
  let gap := (rest.takeWhile Text.isBlank).length
  if (cs.take word.length).map Char.toLower = word ∧ 0 < gap ∧
      closesQuantifier (rest.drop gap) = true then
    some (word.length + gap + 2)
  else none

/-- The quantifier a text starts with, `1 of` or `all of`, and the characters it takes. -/
def quantifier? (cs : List Char) : Option (TokenKind × Nat) :=
  match quantifierOf ['1'] cs, quantifierOf ['a', 'l', 'l'] cs with
  | some n, _ => some (.quantOne, n)
  | none, some n => some (.quantAll, n)
  | none, none => none

theorem quantifierOf_pos {word cs : List Char} {n : Nat} (h : quantifierOf word cs = some n) :
    2 ≤ n ∧ n ≤ cs.length := by
  simp only [quantifierOf] at h
  split at h
  · next hq =>
    obtain ⟨-, -, hclose⟩ := hq
    cases h
    -- `of` closes the quantifier, so two characters at least follow the blanks
    have hlen := (List.takeWhile_sublist Text.isBlank (l := cs.drop word.length)).length_le
    match hrest : (cs.drop word.length).drop
        ((cs.drop word.length).takeWhile Text.isBlank).length, hclose with
    | o :: f :: rest, _ =>
      have := congrArg List.length hrest
      simp only [List.length_drop, List.length_cons] at this hlen
      omega
  · cases h

/-- A quantifier starts with its first word, in some case. -/
theorem quantifierOf_word {word cs : List Char} {n : Nat} (h : quantifierOf word cs = some n) :
    (cs.take word.length).map Char.toLower = word := by
  simp only [quantifierOf] at h
  split at h
  · next hq => exact hq.1
  · cases h

/-- A quantifier takes two characters at least, and no more than the text has. -/
theorem quantifier?_length {cs : List Char} {kind : TokenKind} {n : Nat}
    (h : quantifier? cs = some (kind, n)) : 2 ≤ n ∧ n ≤ cs.length := by
  unfold quantifier? at h
  split at h
  all_goals cases h
  · next hone => exact quantifierOf_pos hone
  · next hall => exact quantifierOf_pos hall

/-- No quantifier fits in fewer than two characters. -/
theorem quantifier?_of_length_lt_two {cs : List Char} (h : cs.length < 2) :
    quantifier? cs = none := by
  cases hq : quantifier? cs with
  | none => rfl
  | some q =>
    have := quantifier?_length hq
    omega


/-- `cs` starts with a quantifier of words `first` and `second` that takes `k` characters: the
first word in any case, a run of blanks, one at least, and the second word in any case,
followed by a blank or by the end of the text. -/
inductive QuantifierPrefix (first second : List Char) : List Char → Nat → Prop
  | intro (word₁ gap word₂ rest : List Char)
      (lower₁ : word₁.map Char.toLower = first)
      (gap_ne : gap ≠ [])
      (gap_blank : ∀ c ∈ gap, Text.isBlank c = true)
      (lower₂ : word₂.map Char.toLower = second)
      (ends : ∀ c ∈ rest.head?, Text.isBlank c = true) :
      QuantifierPrefix first second (word₁ ++ gap ++ word₂ ++ rest)
        (word₁ ++ gap ++ word₂).length

/-- A character that lowers to `o` is not blank. -/
theorem not_isBlank_of_toLower_o {c : Char} (h : c.toLower = 'o') : Text.isBlank c = false := by
  cases hb : Text.isBlank c
  · rfl
  · rw [toLower_of_isBlank hb] at h
    subst h
    revert hb
    decide

/-- `of`, then a blank or the end, in the pieces a quantifier is made of. -/
theorem closesQuantifier_iff {cs : List Char} :
    closesQuantifier cs = true ↔ ∃ word rest, cs = word ++ rest ∧
      word.map Char.toLower = ['o', 'f'] ∧ ∀ c ∈ rest.head?, Text.isBlank c = true := by
  constructor
  · intro h
    rcases cs with _ | ⟨o, _ | ⟨f, rest⟩⟩
    · simp [closesQuantifier] at h
    · simp [closesQuantifier] at h
    · simp only [closesQuantifier, Bool.and_eq_true, beq_iff_eq] at h
      obtain ⟨⟨ho, hf⟩, hend⟩ := h
      refine ⟨[o, f], rest, rfl, by simp [ho, hf], ?_⟩
      cases rest <;> simp_all
  · rintro ⟨word, rest, rfl, hword, hend⟩
    obtain ⟨o, _, rfl, ho, hf⟩ := List.map_eq_cons_iff.1 hword
    obtain ⟨f, _, rfl, hf, hnil⟩ := List.map_eq_cons_iff.1 hf
    obtain rfl := List.map_eq_nil_iff.1 hnil
    cases rest <;> simp_all [closesQuantifier]

/-- Whatever `quantifierOf` measures is a quantifier ending in `of`. -/
theorem QuantifierPrefix.of_quantifierOf {first cs : List Char} {k : Nat}
    (h : quantifierOf first cs = some k) : QuantifierPrefix first ['o', 'f'] cs k := by
  simp only [quantifierOf] at h
  split at h
  · next hq =>
    obtain ⟨lower₁, hgap, hclose⟩ := hq
    cases h
    -- the text is the first word, the blanks after it, and the rest that `of` opens
    have hword := List.take_append_drop first.length cs
    have hblanks :=
      List.takeWhile_append_dropWhile (p := Text.isBlank) (l := cs.drop first.length)
    have gap_blank := List.all_eq_true.1 (List.all_takeWhile (p := Text.isBlank)
      (l := cs.drop first.length))
    have hlen : (cs.take first.length).length = first.length := by
      rw [← List.length_map Char.toLower, lower₁]
    generalize cs.take first.length = word₁ at lower₁ hword hlen
    generalize cs.drop first.length = rest at hgap hclose hblanks gap_blank hword
    generalize rest.takeWhile Text.isBlank = gap at hgap hclose hblanks gap_blank
    rw [← hblanks, List.drop_left' rfl] at hclose
    obtain ⟨word₂, tail, hafter, lower₂, ends⟩ := closesQuantifier_iff.1 hclose
    have hword₂ : word₂.length = 2 := by rw [← List.length_map Char.toLower, lower₂]; rfl
    have hk : first.length + gap.length + 2 = (word₁ ++ gap ++ word₂).length := by
      simp only [List.length_append, hlen, hword₂]
    rw [← hword, ← hblanks, hafter, hk, ← List.append_assoc, ← List.append_assoc]
    exact .intro word₁ gap word₂ tail lower₁ (List.ne_nil_of_length_pos hgap) gap_blank lower₂
      ends
  · cases h

/-- `quantifierOf` measures every quantifier ending in `of`. -/
theorem QuantifierPrefix.quantifierOf_eq {first cs : List Char} {k : Nat}
    (h : QuantifierPrefix first ['o', 'f'] cs k) : quantifierOf first cs = some k := by
  obtain ⟨word₁, gap, word₂, rest, lower₁, gap_ne, gap_blank, lower₂, ends⟩ := h
  have hlen : word₁.length = first.length := by rw [← lower₁, List.length_map]
  -- the blanks stop at `of`, whose first letter is no blank
  have hgap : (gap ++ word₂ ++ rest).takeWhile Text.isBlank = gap := by
    obtain ⟨o, _, rfl, ho, -⟩ := List.map_eq_cons_iff.1 lower₂
    rw [List.append_assoc, List.takeWhile_append_of_pos gap_blank, List.cons_append,
      List.takeWhile_cons_of_neg (by simp [not_isBlank_of_toLower_o ho]), List.append_nil]
  have hword₂ : word₂.length = 2 := by rw [← List.length_map Char.toLower, lower₂]; rfl
  have hclose : closesQuantifier (word₂ ++ rest) = true :=
    closesQuantifier_iff.2 ⟨word₂, rest, rfl, lower₂, ends⟩
  simp only [quantifierOf, List.append_assoc]
  rw [← hlen, List.take_left' rfl, List.drop_left' rfl, ← List.append_assoc, hgap,
    List.append_assoc, List.drop_left' rfl]
  simp only [lower₁, List.length_pos_iff.2 gap_ne, hclose, and_self, if_true, List.length_append,
    hword₂]
  rw [Nat.add_assoc]


/-- A quantifier at the start of the bytes of a text is one at the start of the text, and takes
the bytes of the characters it takes. -/
theorem statementStart_utf8_iff {first second cs : List Char} {n : Nat} :
    StatementStart first second (Text.utf8 (String.ofList cs)) n ↔
      ∃ k, QuantifierPrefix first second cs k ∧
        n = (Text.utf8 (String.ofList (cs.take k))).length := by
  constructor
  · intro h
    generalize hb : Text.utf8 (String.ofList cs) = b at h
    obtain ⟨word₁, gap, word₂, rest, lower₁, gap_ne, gap_blank, lower₂, ends⟩ := h
    rw [Text.utf8_ofList, Text.utf8_ofList] at hb
    obtain ⟨tail, rfl, rfl⟩ := Text.eq_append_of_flatMap_utf8EncodeChar _ hb
    -- the bytes after the quantifier are whole encodings, so a blank there is the next character
    have hends : ∀ c ∈ tail.head?, Text.isBlank c = true := by
      cases tail with
      | nil => simp
      | cons d t =>
        intro c hc
        simp only [List.head?_cons, Option.mem_def, Option.some.injEq] at hc
        subst hc
        rw [List.flatMap_cons] at ends
        rcases ends with hnil | ⟨c', more, hblank, heq⟩
        · exact absurd (List.append_eq_nil_iff.1 hnil).1 String.utf8EncodeChar_ne_nil
        · have hread := Text.decodeFirst?_utf8EncodeChar d (t.flatMap String.utf8EncodeChar)
          rw [heq, Text.decodeFirst?_utf8EncodeChar] at hread
          obtain ⟨rfl, -⟩ := Prod.mk.inj (Option.some.inj hread)
          exact hblank
    refine ⟨(word₁ ++ gap ++ word₂).length,
      .intro word₁ gap word₂ tail lower₁ gap_ne gap_blank lower₂ hends, ?_⟩
    rw [List.take_left]
  · rintro ⟨k, ⟨word₁, gap, word₂, rest, lower₁, gap_ne, gap_blank, lower₂, ends⟩, rfl⟩
    have hsplit : Text.utf8 (String.ofList (word₁ ++ gap ++ word₂ ++ rest)) =
        Text.utf8 (String.ofList (word₁ ++ gap ++ word₂)) ++ Text.utf8 (String.ofList rest) := by
      simp only [Text.utf8_ofList, List.flatMap_append]
    rw [hsplit, List.take_left]
    refine .intro word₁ gap word₂ _ lower₁ gap_ne gap_blank lower₂ ?_
    cases rest with
    | nil => exact .inl (by rw [Text.utf8_ofList]; rfl)
    | cons c t =>
      refine .inr ⟨c, Text.utf8 (String.ofList t), ends c rfl, ?_⟩
      rw [Text.utf8_ofList, Text.utf8_ofList, List.flatMap_cons]

/-- The characters of as many bytes as a run of characters takes are that run. -/
theorem bytePrefix_utf8 (ps tail : List Char) :
    Text.bytePrefix (Text.utf8 (String.ofList ps)).length (ps ++ tail) = ps := by
  rw [Text.utf8_ofList]
  induction ps with
  | nil =>
    cases tail with
    | nil => rfl
    | cons c t =>
      have hwide := List.length_pos_iff.2 (String.utf8EncodeChar_ne_nil (c := c))
      rw [List.flatMap_nil, List.length_nil, List.nil_append, Text.bytePrefix,
        if_neg (by rw [byteWidth_eq_length]; omega)]
      rfl
  | cons c ps ih =>
    rw [List.flatMap_cons, List.length_append, List.cons_append, Text.bytePrefix,
      if_pos (by rw [byteWidth_eq_length]; omega), byteWidth_eq_length, Nat.add_sub_cancel_left,
      ih]

/-- The characters of the bytes of the first `k` characters of a text are `k` characters, when
the text has `k`. -/
theorem length_bytePrefix_take {cs : List Char} {k : Nat} (hk : k ≤ cs.length) :
    (Text.bytePrefix (Text.utf8 (String.ofList (cs.take k))).length cs).length = k := by
  have h := bytePrefix_utf8 (cs.take k) (cs.drop k)
  rw [List.take_append_drop] at h
  rw [h, List.length_take]
  omega

theorem length_utf8_take_pos {cs : List Char} {k : Nat} (hpos : 0 < k) (hk : k ≤ cs.length) :
    0 < (Text.utf8 (String.ofList (cs.take k))).length := by
  refine List.length_pos_iff.2 (utf8_ne_nil fun hnil => ?_)
  have := congrArg List.length hnil
  rw [List.length_take, List.length_nil] at this
  omega

/-- On the bytes of a text, a measure that finds exactly the quantifiers of first word `first`
and `of` gives the bytes of the characters `quantifierOf` finds, and 0 where it finds none. -/
theorem getD_statementLen_utf8 {t : TokenKind} {first cs : List Char}
    (ht : ∀ n, 0 < n ∧ statementLen (Text.utf8 (String.ofList cs)) t = some n ↔
      StatementStart first ['o', 'f'] (Text.utf8 (String.ofList cs)) n) :
    (statementLen (Text.utf8 (String.ofList cs)) t).getD 0 =
      ((quantifierOf first cs).map fun k => (Text.utf8 (String.ofList (cs.take k))).length).getD 0 := by
  cases hq : quantifierOf first cs with
  | some k =>
    have hs := statementStart_utf8_iff.2 ⟨k, .of_quantifierOf hq, rfl⟩
    rw [((ht _).2 hs).2]
    rfl
  | none =>
    cases hs : statementLen (Text.utf8 (String.ofList cs)) t with
    | none => rfl
    | some n =>
      -- a positive measure would be a quantifier that `quantifierOf` finds
      cases n with
      | zero => rfl
      | succ n =>
        obtain ⟨k, hp, -⟩ := statementStart_utf8_iff.1 ((ht _).1 ⟨Nat.succ_pos n, hs⟩)
        rw [hp.quantifierOf_eq] at hq
        cases hq

/-- The reader's look-ahead, over the bytes of the text, finds the quantifier the tokenisation
reads from its characters, and takes as many characters. -/
theorem statement?_eq_quantifier? (cs : List Char) : statement? cs = quantifier? cs := by
  have hone := getD_statementLen_utf8 (statementLen_quantOne_iff (Text.utf8 (String.ofList cs)))
  have hall := getD_statementLen_utf8 (statementLen_quantAll_iff (Text.utf8 (String.ofList cs)))
  simp only [statement?, hone, hall]
  -- both try `1 of` first and `all of` after it
  cases h1 : quantifierOf ['1'] cs with
  | some k =>
    obtain ⟨h2k, hk⟩ := quantifierOf_pos h1
    rw [Option.map_some, Option.getD_some, if_pos (length_utf8_take_pos (by omega) hk),
      length_bytePrefix_take hk]
    rw [quantifier?, h1]
  | none =>
    rw [Option.map_none, Option.getD_none, if_neg (Nat.lt_irrefl 0)]
    cases h2 : quantifierOf ['a', 'l', 'l'] cs with
    | some k =>
      obtain ⟨h2k, hk⟩ := quantifierOf_pos h2
      rw [Option.map_some, Option.getD_some, if_pos (length_utf8_take_pos (by omega) hk),
        length_bytePrefix_take hk]
      rw [quantifier?, h1, h2]
    | none =>
      rw [Option.map_none, Option.getD_none, if_neg (Nat.lt_irrefl 0), quantifier?, h1, h2]

end SigmaQuery.Expr
