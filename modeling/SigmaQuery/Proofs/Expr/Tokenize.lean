import SigmaQuery.Proofs.Expr.Quantifier

/-!
# The tokens of a condition

`tokenize` is the tokenisation of a condition as the language describes it, read left to
right: blanks are dropped, `(` and `)` are tokens of their own, a `|` ends the condition with an
aggregation, which is not supported, and every other maximal run of characters is a word,
classified as a keyword, a wildcard identifier or an identifier. Where a word may start, `1`
or `all`, a run of blanks and `of`, in any case and followed by a blank or the end, is one
quantifier token that keeps the blanks it was written with.

The reader `lex` is a state machine over a word mode, a blank mode and a separator mode. It
gives `tokenize` of the condition up to its first NUL, which ends the condition and belongs to
the word it ends; on a condition without a NUL it gives exactly `tokenize`. `tokensFrom` says
what each state of the reader still owes, and every branch of the reader pays a part of it.
The quantifier look-ahead the reader uses, `statement?`, is the quantifier `tokenize` reads,
and no quantifier reaches past a NUL.
-/

namespace SigmaQuery.Expr

/-! ### The reference tokenisation -/

/-- Whether a character belongs to a word: it is neither blank nor a separator. -/
def isWordChar (c : Char) : Bool :=
  !(Text.isBlank c || c == '(' || c == ')' || c == '|')

/-- The tokens of a condition, read from a place where a word may start; `input` is the whole
condition, which an aggregation quotes. -/
def tokenize (input : String) (cs : List Char) : List Token :=
  match _hq : quantifier? cs with
  | some (kind, n) => ⟨kind, String.ofList (cs.take n)⟩ :: tokenize input (cs.drop n)
  | none =>
    match _hc : cs with
    | [] => [⟨.eof, ""⟩]
    | c :: rest =>
      if c = '(' then ⟨.leftParen, "("⟩ :: tokenize input rest
      else if c = ')' then ⟨.rightParen, ")"⟩ :: tokenize input rest
      else if c = '|' then
        [⟨.pipe, "|"⟩, ⟨.unsupported, "aggregation not supported yet [" ++ input ++ "]"⟩]
      else if Text.isBlank c then tokenize input rest
      else
        let word := cs.takeWhile isWordChar
        ⟨wordKind (String.ofList word), String.ofList word⟩ ::
          tokenize input (cs.dropWhile isWordChar)
termination_by cs.length
decreasing_by
  · have := quantifier?_length _hq
    simp only [List.length_drop]
    omega
  all_goals simp only [_hc, List.length_cons]
  all_goals try omega
  -- a word takes its first character at least
  have hc : isWordChar c = true := by simp_all [isWordChar]
  rw [List.dropWhile_cons_of_pos hc]
  have := (List.dropWhile_sublist isWordChar (l := rest)).length_le
  omega

/-! ### Quantifiers start words -/

/-- No blank or separator is an upper case letter. -/
theorem toLower_of_not_isWordChar {c : Char} (h : isWordChar c = false) : c.toLower = c := by
  unfold Char.toLower
  rw [dif_neg]
  rintro ⟨hlo, hhi⟩
  simp only [ge_iff_le, UInt32.le_iff_toNat_le] at hlo hhi
  have hn : 65 ≤ c.toNat ∧ c.toNat ≤ 90 := ⟨hlo, hhi⟩
  simp only [isWordChar, Bool.not_eq_false', Bool.or_eq_true, beq_iff_eq] at h
  rcases h with ((hb | rfl) | rfl) | rfl
  · simp only [Text.isBlank, Bool.or_eq_true, Bool.and_eq_true, decide_eq_true_eq, beq_iff_eq] at hb
    omega
  all_goals simp at hn

/-- A quantifier starts with a character of a word, so none starts at a blank or a separator. -/
theorem isWordChar_of_quantifier? {c : Char} {t : List Char} {q : TokenKind × Nat}
    (h : quantifier? (c :: t) = some q) : isWordChar c = true := by
  -- a quantifier starts with `1` or `a` in some case, which no separator or blank is
  have hstart : c.toLower = '1' ∨ c.toLower = 'a' := by
    unfold quantifier? at h
    split at h
    · next hone =>
      left
      simpa using quantifierOf_word hone
    · next hall =>
      right
      have := congrArg List.head? (quantifierOf_word hall)
      cases t <;> simp_all
    · cases h
  cases hw : isWordChar c
  · rw [toLower_of_not_isWordChar hw] at hstart
    rcases hstart with rfl | rfl <;> revert hw <;> decide
  · rfl

/-! ### Equations of the tokenisation -/

section Equations

variable (input : String)

theorem tokenize_quantifier {cs : List Char} {kind : TokenKind} {n : Nat}
    (h : quantifier? cs = some (kind, n)) :
    tokenize input cs = ⟨kind, String.ofList (cs.take n)⟩ :: tokenize input (cs.drop n) := by
  rw [tokenize]
  split
  · next heq => rw [h] at heq; cases heq; rfl
  · next heq => rw [h] at heq; cases heq

theorem tokenize_cons_of_none {c : Char} {t : List Char} (h : quantifier? (c :: t) = none) :
    tokenize input (c :: t) =
      if c = '(' then ⟨.leftParen, "("⟩ :: tokenize input t
      else if c = ')' then ⟨.rightParen, ")"⟩ :: tokenize input t
      else if c = '|' then
        [⟨.pipe, "|"⟩, ⟨.unsupported, "aggregation not supported yet [" ++ input ++ "]"⟩]
      else if Text.isBlank c then tokenize input t
      else
        ⟨wordKind (String.ofList ((c :: t).takeWhile isWordChar)),
          String.ofList ((c :: t).takeWhile isWordChar)⟩ ::
          tokenize input ((c :: t).dropWhile isWordChar) := by
  rw [tokenize]
  split
  · next heq => rw [h] at heq; cases heq
  · rfl

theorem quantifier?_nil : quantifier? [] = none :=
  quantifier?_of_length_lt_two (by simp)

/-- No quantifier starts at a character outside words. -/
theorem quantifier?_of_not_isWordChar {c : Char} (t : List Char) (hc : isWordChar c = false) :
    quantifier? (c :: t) = none := by
  cases h : quantifier? (c :: t) with
  | none => rfl
  | some q => rw [isWordChar_of_quantifier? h] at hc; cases hc

@[simp] theorem tokenize_nil : tokenize input [] = [⟨.eof, ""⟩] := by
  rw [tokenize]
  split
  · next heq => rw [quantifier?_nil] at heq; cases heq
  · rfl

@[simp] theorem tokenize_leftParen (t : List Char) :
    tokenize input ('(' :: t) = ⟨.leftParen, "("⟩ :: tokenize input t := by
  rw [tokenize_cons_of_none input (quantifier?_of_not_isWordChar t (by decide))]
  simp

@[simp] theorem tokenize_rightParen (t : List Char) :
    tokenize input (')' :: t) = ⟨.rightParen, ")"⟩ :: tokenize input t := by
  rw [tokenize_cons_of_none input (quantifier?_of_not_isWordChar t (by decide))]
  simp

@[simp] theorem tokenize_pipe (t : List Char) :
    tokenize input ('|' :: t) =
      [⟨.pipe, "|"⟩, ⟨.unsupported, "aggregation not supported yet [" ++ input ++ "]"⟩] := by
  rw [tokenize_cons_of_none input (quantifier?_of_not_isWordChar t (by decide))]
  simp

/-- A blank where a word may start is dropped. -/
theorem tokenize_blank {c : Char} (t : List Char) (hb : Text.isBlank c = true) :
    tokenize input (c :: t) = tokenize input t := by
  have hc : isWordChar c = false := by simp [isWordChar, hb]
  rw [tokenize_cons_of_none input (quantifier?_of_not_isWordChar t hc)]
  -- a blank is none of the separators
  have hne : c ≠ '(' ∧ c ≠ ')' ∧ c ≠ '|' := by
    refine ⟨?_, ?_, ?_⟩ <;> (rintro rfl; revert hb; decide)
  simp [hne, hb]

/-- Where no quantifier starts, the tokens are those of the leading word, if there is one, and
then the tokens of what follows it. -/
theorem tokenize_word {cs : List Char} (h : quantifier? cs = none) :
    tokenize input cs =
      wordToken (cs.takeWhile isWordChar).reverse ++ tokenize input (cs.dropWhile isWordChar) := by
  match cs, h with
  | [], _ => simp [wordToken]
  | c :: t, h =>
    cases hc : isWordChar c with
    | false => simp [hc, wordToken]
    | true =>
      -- a character of a word is neither a separator nor blank, so the word is read
      have hsep : c ≠ '(' ∧ c ≠ ')' ∧ c ≠ '|' ∧ Text.isBlank c = false := by
        simp only [isWordChar, Bool.not_eq_true', Bool.or_eq_false_iff, beq_eq_false_iff_ne] at hc
        exact ⟨hc.1.1.2, hc.1.2, hc.2, hc.1.1.1⟩
      rw [tokenize_cons_of_none input h]
      simp [hsep, wordToken, hc]

end Equations

/-! ### The text up to the first NUL -/

/-- A NUL is a character of a word: it is neither blank nor a separator. -/
@[simp] theorem isWordChar_nul : isWordChar '\x00' = true := by decide

/-- The characters of a text up to its first NUL, which is kept. -/
def upToNul : List Char → List Char
  | [] => []
  | c :: t => if c = '\x00' then [c] else c :: upToNul t

@[simp] theorem upToNul_nil : upToNul [] = [] := rfl

@[simp] theorem upToNul_cons_nul (t : List Char) : upToNul ('\x00' :: t) = ['\x00'] := by
  simp [upToNul]

theorem upToNul_cons_of_ne {c : Char} (h : c ≠ '\x00') (t : List Char) :
    upToNul (c :: t) = c :: upToNul t := by
  rw [upToNul, if_neg h]

/-- Text before a NUL is kept as it is. -/
theorem upToNul_append {l : List Char} (h : '\x00' ∉ l) (x : List Char) :
    upToNul (l ++ x) = l ++ upToNul x := by
  induction l with
  | nil => rfl
  | cons c t ih =>
    have hc : c ≠ '\x00' := fun hc => h (hc ▸ List.mem_cons_self)
    rw [List.cons_append, upToNul_cons_of_ne hc, ih fun ht => h (List.mem_cons_of_mem c ht),
      List.cons_append]

theorem upToNul_of_not_mem {cs : List Char} (h : '\x00' ∉ cs) : upToNul cs = cs := by
  simpa using upToNul_append h []

/-- A text with a NUL is the text before its first NUL, the NUL, and the rest. -/
theorem eq_append_nul {cs : List Char} (h : '\x00' ∈ cs) :
    ∃ pre post, '\x00' ∉ pre ∧ cs = pre ++ '\x00' :: post ∧ upToNul cs = pre ++ ['\x00'] := by
  induction cs with
  | nil => cases h
  | cons c t ih =>
    by_cases hc : c = '\x00'
    · subst hc
      exact ⟨[], t, by simp, rfl, upToNul_cons_nul t⟩
    · obtain ⟨pre, post, hpre, rfl, hcut⟩ := ih (by simpa [Ne.symm hc] using h)
      refine ⟨c :: pre, post, by simp [hpre, Ne.symm hc], rfl, ?_⟩
      rw [upToNul_cons_of_ne hc, hcut, List.cons_append]

theorem closesQuantifier_nul (l x : List Char) :
    closesQuantifier (l ++ '\x00' :: x) = closesQuantifier (l ++ ['\x00']) := by
  -- `of` and the character after it are read from `l` as far as it goes, then from the NUL
  rcases l with _ | ⟨o, _ | ⟨f, _ | ⟨c, t⟩⟩⟩
  · cases x <;> simp [closesQuantifier]
  all_goals simp [closesQuantifier]

/-- A run of blanks stops at a NUL. -/
theorem takeWhile_blank_nul (l x : List Char) :
    (l ++ '\x00' :: x).takeWhile Text.isBlank = l.takeWhile Text.isBlank := by
  induction l with
  | nil => simp [List.takeWhile, Text.isBlank]
  | cons c t ih => by_cases hc : Text.isBlank c <;> simp [hc, ih]

/-- A quantifier is read before the first NUL: what follows the NUL does not change it. -/
theorem quantifierOf_nul {word : List Char} (hw : '\x00' ∉ word) (pre post : List Char) :
    quantifierOf word (pre ++ '\x00' :: post) = quantifierOf word (pre ++ ['\x00']) := by
  by_cases hk : word.length ≤ pre.length
  · -- the first word is read from `pre`, and so are the blanks after it
    have hle : ((pre.drop word.length).takeWhile Text.isBlank).length ≤
        (pre.drop word.length).length := (List.takeWhile_sublist _).length_le
    simp only [quantifierOf, List.take_append_of_le_length hk, List.drop_append_of_le_length hk,
      takeWhile_blank_nul, List.drop_append_of_le_length hle, closesQuantifier_nul]
  · -- the first word would take the NUL, which it does not spell
    have hspell : ∀ x, ((pre ++ '\x00' :: x).take word.length).map Char.toLower ≠ word := by
      intro x heq
      -- the NUL is among the characters the word would take, and lowers to itself
      obtain ⟨m, hm⟩ : ∃ m, word.length - pre.length = m + 1 :=
        ⟨_, (Nat.succ_pred_eq_of_pos (by omega)).symm⟩
      apply hw
      rw [← heq, List.take_append, List.take_of_length_le (by omega), hm]
      simp
    simp only [quantifierOf]
    rw [if_neg (fun h => hspell post h.1), if_neg (fun h => hspell [] h.1)]

/-- The quantifier a text starts with is read before its first NUL. -/
theorem quantifier?_upToNul (cs : List Char) : quantifier? (upToNul cs) = quantifier? cs := by
  by_cases h : '\x00' ∈ cs
  · obtain ⟨pre, post, -, rfl, hcut⟩ := eq_append_nul h
    rw [hcut]
    unfold quantifier?
    rw [quantifierOf_nul (by decide) pre post, quantifierOf_nul (by decide) pre post]
  · rw [upToNul_of_not_mem h]

/-- A quantifier takes no NUL: its words lower to letters and `1`, and the rest is blanks. -/
theorem nul_not_mem_take_of_quantifierOf {word cs : List Char} {n : Nat} (hw : '\x00' ∉ word)
    (h : quantifierOf word cs = some n) : '\x00' ∉ cs.take n := by
  simp only [quantifierOf] at h
  split at h
  · next hq =>
    obtain ⟨hspell, -, hclose⟩ := hq
    cases h
    -- what is taken is the word, the run of blanks after it, and `of`
    generalize hr : cs.drop word.length = r at hclose
    have hblank : r.take (r.takeWhile Text.isBlank).length = r.takeWhile Text.isBlank := by
      conv => lhs; arg 2; rw [← List.takeWhile_append_dropWhile (p := Text.isBlank) (l := r)]
      exact List.take_left
    rw [List.take_add, List.take_add, ← List.drop_drop, hr, hblank]
    simp only [List.mem_append, not_or]
    refine ⟨⟨?_, ?_⟩, ?_⟩
    · -- the word lowers to itself at a NUL, and it has none
      intro hmem
      exact hw (hspell ▸ List.mem_map_of_mem (f := Char.toLower) hmem)
    · intro hmem
      -- every character of the run is blank, and a NUL is not
      have hb := List.all_eq_true.mp List.all_takeWhile _ hmem
      revert hb
      decide
    · -- the quantifier ends at `of`, and neither letter lowers from a NUL
      generalize r.drop (r.takeWhile Text.isBlank).length = tail at hclose ⊢
      rcases tail with _ | ⟨o, _ | ⟨f, rest⟩⟩
      · simp [closesQuantifier] at hclose
      · simp [closesQuantifier] at hclose
      simp only [closesQuantifier, Bool.and_eq_true, beq_iff_eq] at hclose
      obtain ⟨⟨ho, hf⟩, -⟩ := hclose
      simp only [List.take_succ_cons, List.take_zero, List.mem_cons, List.not_mem_nil, or_false,
        not_or]
      constructor
      · rintro rfl
        revert ho
        decide
      · rintro rfl
        revert hf
        decide
  · cases h

/-- A quantifier takes no NUL. -/
theorem nul_not_mem_take_of_quantifier? {cs : List Char} {kind : TokenKind} {n : Nat}
    (h : quantifier? cs = some (kind, n)) : '\x00' ∉ cs.take n := by
  unfold quantifier? at h
  split at h
  all_goals cases h
  · next hone => exact nul_not_mem_take_of_quantifierOf (by decide) hone
  · next hall => exact nul_not_mem_take_of_quantifierOf (by decide) hall

/-- Cutting a text at its first NUL keeps the quantifier it starts with, and cuts what follows. -/
theorem upToNul_of_quantifier? {cs : List Char} {kind : TokenKind} {n : Nat}
    (h : quantifier? cs = some (kind, n)) :
    (upToNul cs).take n = cs.take n ∧ (upToNul cs).drop n = upToNul (cs.drop n) := by
  have hlen : (cs.take n).length = n := List.length_take_of_le (quantifier?_length h).2
  have hsplit : upToNul cs = cs.take n ++ upToNul (cs.drop n) := by
    conv => lhs; rw [← List.take_append_drop n cs]
    exact upToNul_append (nul_not_mem_take_of_quantifier? h) _
  rw [hsplit]
  exact ⟨List.take_left' hlen, List.drop_left' hlen⟩

/-! ### The reader gives the tokenisation -/

/-- The tokens a state of the reader still owes: in the word mode with a word open, the word
completed by the word characters that follow it, then the tokens of the rest; in every other
state, the tokens of the rest. -/
def tokensFrom (input : String) : LexMode → List Char → List Char → List Token
  | .word, c :: word, rest =>
    wordToken ((rest.takeWhile isWordChar).reverse ++ c :: word) ++
      tokenize input (rest.dropWhile isWordChar)
  | _, _, rest => tokenize input rest

section Reader

variable (input : String)

/-- In the word mode the reader owes the open word completed, then the tokens after it, unless
no word is open and a quantifier starts. -/
theorem tokensFrom_word {word rest : List Char} (h : word ≠ [] ∨ quantifier? rest = none) :
    tokensFrom input .word word rest =
      wordToken ((rest.takeWhile isWordChar).reverse ++ word) ++
        tokenize input (rest.dropWhile isWordChar) := by
  match word, h with
  | _ :: _, _ => rfl
  | [], .inr hq => simpa [tokensFrom] using tokenize_word input hq
  | [], .inl hne => exact absurd rfl hne

/-- The reader looks for a quantifier only where no word is open, and it finds none in the text
exactly when none starts before the first NUL. -/
theorem lookahead_none {word rest : List Char}
    (h : ¬(word.isEmpty = true ∧ (statement? rest).isSome = true)) :
    word ≠ [] ∨ quantifier? (upToNul rest) = none := by
  rw [quantifier?_upToNul]
  cases word with
  | nil =>
    right
    simpa [statement?_eq_quantifier?] using h
  | cons => simp

/-- From every state the reader gives what the state owes on the text up to its first NUL; a
separator state is entered only at a separator. -/
theorem lexFrom_eq_tokensFrom (mode : LexMode) (word rest : List Char)
    (hsep : mode = .separator → ∃ c t, rest = c :: t ∧ (c = '(' ∨ c = ')' ∨ c = '|')) :
    lexFrom input mode word rest = tokensFrom input mode word (upToNul rest) := by
  fun_induction lexFrom input mode word rest with
  | case1 word rest hs found ih =>
    -- a quantifier: only where no word is open, and it ends before the first NUL
    obtain ⟨⟨kind, n⟩, hfound⟩ := Option.isSome_iff_exists.1 hs.2
    have hkn : found = (kind, n) := Option.some.inj ((Option.some_get hs.2).trans hfound)
    clear_value found
    subst hkn
    obtain rfl : word = [] := List.isEmpty_iff.1 hs.1
    have hq : quantifier? rest = some (kind, n) := by rwa [← statement?_eq_quantifier?]
    have hcut := upToNul_of_quantifier? hq
    rw [ih (by simp)]
    simp only [tokensFrom]
    rw [tokenize_quantifier input ((quantifier?_upToNul rest).trans hq), hcut.1, hcut.2]
  | case2 word hs =>
    rw [tokensFrom_word input (lookahead_none hs), upToNul_nil]
    simp [finish]
  | case3 word c t hs hc =>
    -- a NUL ends the condition and belongs to the open word
    simp only [beq_iff_eq] at hc
    subst hc
    rw [tokensFrom_word input (lookahead_none hs), upToNul_cons_nul]
    simp [finish]
  | case4 word c t hs hnc hc ih =>
    -- a separator ends the open word and is read by the separator mode
    simp only [Bool.or_eq_true, beq_iff_eq] at hc
    have hw : isWordChar c = false := by
      rcases hc with (rfl | rfl) | rfl <;> rfl
    rw [ih fun _ => ⟨c, t, rfl, by rcases hc with (h | h) | h <;> simp [h]⟩,
      tokensFrom_word input (lookahead_none hs), upToNul_cons_of_ne (by simpa using hnc)]
    simp [hw, tokensFrom]
  | case5 word c t hs hnc hsepc hb ih =>
    -- a blank ends the open word and is dropped
    have hw : isWordChar c = false := by simp [isWordChar, hb]
    rw [ih nofun, tokensFrom_word input (lookahead_none hs),
      upToNul_cons_of_ne (by simpa using hnc)]
    simp [hw, tokensFrom, tokenize_blank input _ hb]
  | case6 word c t hs hnc hsepc hb ih =>
    -- a character of a word extends the open word
    have hw : isWordChar c = true := by
      simp only [Bool.or_eq_true, beq_iff_eq, not_or] at hsepc
      simp [isWordChar, hb, hsepc.1.1, hsepc.1.2, hsepc.2]
    rw [ih nofun, tokensFrom_word input (.inl (List.cons_ne_nil c word)),
      tokensFrom_word input (lookahead_none hs), upToNul_cons_of_ne (by simpa using hnc)]
    simp [List.takeWhile_cons_of_pos hw, List.dropWhile_cons_of_pos hw]
  | case7 word => simp [finish, wordToken, tokensFrom]
  | case8 word c t hc =>
    -- a NUL where a word may start is a word of its own
    simp only [beq_iff_eq] at hc
    subst hc
    rw [upToNul_cons_nul]
    simp only [tokensFrom]
    rw [tokenize_word input (quantifier?_of_length_lt_two (by simp))]
    simp [finish]
  | case9 word c t hnc hb ih =>
    rw [ih nofun, upToNul_cons_of_ne (by simpa using hnc)]
    exact (tokenize_blank input _ hb).symm
  | case10 word c t hnc hb ih =>
    exact ih nofun
  | case11 word t ih | case12 word t ih =>
    -- a parenthesis is a token of its own
    rw [ih nofun, upToNul_cons_of_ne (by decide)]
    simp [tokensFrom]
  | case13 word rest hl hr =>
    -- the separator mode is entered only at a separator, so what is left is a pipe
    obtain ⟨c, t, rfl, hc⟩ := hsep rfl
    rcases hc with rfl | rfl | rfl
    · exact absurd rfl (hl t)
    · exact absurd rfl (hr t)
    · rw [upToNul_cons_of_ne (by decide)]
      simp [tokensFrom]

end Reader

/-- The reader gives the tokenisation of a condition up to its first NUL: a NUL ends the
condition and belongs to the word it ends. -/
theorem lex_eq_tokenize_upToNul (s : String) : lex s = tokenize s (upToNul s.toList) :=
  lexFrom_eq_tokensFrom s .word [] s.toList nofun

example : lex "sel\x00x" = [⟨.identifier, "sel\x00"⟩, ⟨.eof, ""⟩] := by
  rw [lex_eq_tokenize_upToNul]
  cbv

/-- On a condition without a NUL character, the reader gives exactly the tokenisation. -/
theorem lex_eq_tokenize {s : String} (h : '\x00' ∉ s.toList) : lex s = tokenize s s.toList := by
  rw [lex_eq_tokenize_upToNul, upToNul_of_not_mem h]

/-- A condition with a quantifier, a wildcard, a group and an aggregation has no NUL, so it
reads as its tokenisation. -/
theorem lex_eq_tokenize_aggregation :
    '\x00' ∉ "1 Of\tsel* and not (them)|count()".toList ∧
      lex "1 Of\tsel* and not (them)|count()" =
        tokenize "1 Of\tsel* and not (them)|count()" "1 Of\tsel* and not (them)|count()".toList :=
  ⟨by decide, lex_eq_tokenize (by decide)⟩

end SigmaQuery.Expr
