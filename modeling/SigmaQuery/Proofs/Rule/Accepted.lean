import SigmaQuery.Proofs.Expr.Tokenize
import SigmaQuery.Proofs.Rule.Sentences

/-!
# Conditions the builder accepts

The sequence check looks at two tokens at a time, so it cannot see whether parentheses are
balanced, nor whether a wildcard stands right after a quantifier. The builder sees part of the
rest: a `)` that closes no group, and a wildcard with no quantifier before it, make it fail. A
group that is never closed, though, is built from the tokens up to the end of the condition,
as if its `)` stood there.

So a condition the builder accepts is a sentence of the grammar once its open groups are
closed: its tokens, followed by one `)` for each group left open, are the tokens of a sentence
(`sentence_of_build`). Every condition whose tokens cannot be completed so is refused, whatever
the detection section; `(sel` is accepted and built as `(sel)`.

The proof follows the builder along the tokens, at the position the sequence check gives each
one: after an operator (the beginning, `(`, `and`, `or` or `not`) a sentence follows, and after
an operand (an identifier, the target of a quantifier, or `)`) nothing follows, or `and` or
`or` and a sentence.
-/

namespace SigmaQuery.Grammar

open SigmaQuery.Expr Build

/-! ### The sequence check -/

/-- Whether tokens pass the sequence check after a token of kind `prev`: each may follow the
one before it, and the end may follow the last. -/
def Checked : TokenKind → List Token → Prop
  | prev, [] => prev.isOperand = true
  | prev, t :: rest => TokenKind.mayFollow prev t.kind = true ∧ Checked t.kind rest

/-- The end may follow exactly the operands. -/
theorem mayFollow_eof (k : TokenKind) : TokenKind.mayFollow k .eof = k.isOperand := rfl

/-- A closing parenthesis may follow exactly the operands. -/
theorem mayFollow_rightParen (k : TokenKind) : TokenKind.mayFollow k .rightParen = k.isOperand :=
  rfl

/-- Nothing may follow the end, so the checker takes nothing after it. -/
theorem collectFrom_of_eof {prev : Token} (hp : prev.kind = .eof) {kept ts : List Token} :
    ∀ {l : List Token}, collectFrom prev kept l = .ok ts → l = [] ∧ ts = kept.reverse
  | [], h => by
    simp only [collectFrom, hp, beq_self_eq_true, if_true, Except.ok.injEq] at h
    exact ⟨rfl, h.symm⟩
  | t :: _, h => by
    unfold collectFrom at h
    split at h
    · cases h
    · split at h
      · cases h
      · split at h
        · cases h
        · next hf =>
          simp only [Bool.not_eq_true', Bool.not_eq_false, hp] at hf
          cases hk : t.kind <;>
            simp [hk, TokenKind.mayFollow, TokenKind.isOperator, TokenKind.isOperand] at hf

/-- What the checker keeps, read from a token that is not the end: the tokens before the end,
which pass the check, and the end comes last. -/
theorem collectFrom_checked : ∀ {prev : Token} {kept ts : List Token} (l : List Token),
    prev.kind ≠ .eof → collectFrom prev kept l = .ok ts →
      ∃ ts' last, l = ts' ++ [last] ∧ last.kind = .eof ∧ ts = kept.reverse ++ ts' ∧
        Checked prev.kind ts'
  | prev, kept, ts, [], hp, h => by
    simp [collectFrom, hp] at h
  | prev, kept, ts, t :: rest, hp, h => by
    unfold collectFrom at h
    split at h
    · cases h
    · split at h
      · cases h
      · split at h
        · cases h
        · next hf =>
          simp only [Bool.not_eq_true', Bool.not_eq_false] at hf
          by_cases he : t.kind = .eof
          · -- the end is checked and dropped, and nothing comes after it
            simp only [he, beq_self_eq_true, if_true] at h
            obtain ⟨rfl, rfl⟩ := collectFrom_of_eof he h
            refine ⟨[], t, rfl, he, by simp, ?_⟩
            rw [Checked, ← mayFollow_eof, ← he]
            exact hf
          · have hne : (t.kind == .eof) = false := by simpa using he
            rw [hne, if_neg (by simp)] at h
            obtain ⟨ts', last, rfl, hlast, rfl, hc⟩ := collectFrom_checked rest he h
            exact ⟨t :: ts', last, rfl, hlast, by simp, hf, hc⟩

/-- The tokens of a condition that passes the check pass it from the beginning, and are the
condition's tokens before the end. -/
theorem collect_checked {s : String} {ts : List Token} (h : collect s = .ok ts) :
    Checked .begin ts ∧ ∃ last, lex s = ts ++ [last] := by
  obtain ⟨ts', last, hl, -, rfl, hc⟩ := collectFrom_checked (lex s) (by decide) h
  exact ⟨by simpa using hc, last, by simpa using hl⟩

/-- Tokens checked after an operand may start only with `and`, `or`, `)`, `|` or the end. -/
theorem kind_after_operand {prev k : TokenKind} (hp : prev.isOperand = true)
    (h : TokenKind.mayFollow prev k = true) :
    k = .keywordAnd ∨ k = .keywordOr ∨ k = .rightParen ∨ k = .pipe ∨ k = .eof := by
  cases prev <;> cases k <;> simp_all [TokenKind.mayFollow, TokenKind.isOperand, TokenKind.isOperator]

/-- Tokens checked after an operator start with an identifier, a wildcard, `not`, `(` or a
quantifier. -/
theorem kind_after_operator {prev k : TokenKind} (hp : prev.isOperator = true)
    (h : TokenKind.mayFollow prev k = true) :
    k = .identifier ∨ k = .wildcard ∨ k = .keywordNot ∨ k = .leftParen ∨ k = .quantOne ∨
      k = .quantAll := by
  cases prev <;> cases k <;> simp_all [TokenKind.mayFollow, TokenKind.isOperand, TokenKind.isOperator]

/-- After a quantifier comes its target: an identifier, a wildcard or `them`. -/
theorem kind_after_quantifier {prev k : TokenKind} (hp : prev = .quantOne ∨ prev = .quantAll)
    (h : TokenKind.mayFollow prev k = true) :
    k = .identifier ∨ k = .wildcard ∨ k = .them := by
  rcases hp with rfl | rfl <;> cases k <;>
    simp_all [TokenKind.mayFollow, TokenKind.isOperator, TokenKind.isOperand]

/-- Nothing passes the check after `|` or the end. -/
theorem not_checked_pipe_eof {k : TokenKind} (hk : k = .pipe ∨ k = .eof) (l : List Token) :
    ¬ Checked k l := by
  rcases hk with rfl | rfl <;> cases l with
  | nil => simp [Checked, TokenKind.isOperand]
  | cons t rest =>
    cases ht : t.kind <;>
      simp [Checked, ht, TokenKind.mayFollow, TokenKind.isOperator, TokenKind.isOperand]

/-- Tokens checked up to a `)` are checked on their own, and so is what follows it. -/
theorem checked_append_rightParen {r : Token} (hr : r.kind = .rightParen) :
    ∀ {prev : TokenKind} (xs : List Token) {ys : List Token},
      Checked prev (xs ++ r :: ys) → Checked prev xs ∧ Checked .rightParen ys
  | prev, [], ys, ⟨hf, hc⟩ => by
    rw [hr, mayFollow_rightParen] at hf
    rw [hr] at hc
    exact ⟨hf, hc⟩
  | prev, x :: xs, ys, ⟨hf, hc⟩ => by
    obtain ⟨h1, h2⟩ := checked_append_rightParen hr xs hc
    exact ⟨⟨hf, h1⟩, h2⟩

/-! ### Parenthesis tokens -/

/-- Whether a parenthesis token has its parenthesis as its text. -/
def ParenText (t : Token) : Prop :=
  (t.kind = .leftParen → t.text = "(") ∧ (t.kind = .rightParen → t.text = ")")

/-- A word is never read as a parenthesis. -/
theorem wordKind_ne_paren (w : String) :
    wordKind w ≠ .leftParen ∧ wordKind w ≠ .rightParen := by
  unfold wordKind
  split
  all_goals try simp
  split <;> simp

/-- A word token is no parenthesis. -/
theorem parenText_word (w : String) : ParenText ⟨wordKind w, w⟩ :=
  ⟨fun h => absurd h (wordKind_ne_paren w).1, fun h => absurd h (wordKind_ne_paren w).2⟩

/-- A quantifier is read as `1 of` or `all of`. -/
theorem quantifier?_kind {cs : List Char} {k : TokenKind} {n : Nat}
    (h : quantifier? cs = some (k, n)) : k = .quantOne ∨ k = .quantAll := by
  unfold quantifier? at h
  split at h
  · cases h
    exact .inl rfl
  · cases h
    exact .inr rfl
  · cases h

/-- Every parenthesis of the tokenisation has its parenthesis as its text. -/
theorem parenText_tokenize (input : String) (cs : List Char) :
    ∀ t ∈ tokenize input cs, ParenText t := by
  fun_induction tokenize input cs with
  | case1 cs k n hq ih =>
    intro t ht
    rcases List.mem_cons.mp ht with rfl | ht
    · rcases quantifier?_kind hq with rfl | rfl <;> simp [ParenText]
    · exact ih t ht
  | case2 => simp [ParenText]
  | case3 _ _ ih | case4 _ _ _ ih =>
    intro t ht
    rcases List.mem_cons.mp ht with rfl | ht
    · simp [ParenText]
    · exact ih t ht
  | case5 => simp [ParenText]
  | case6 _ _ _ _ _ _ _ ih => exact ih
  | case7 _ _ _ _ _ _ _ ih =>
    intro t ht
    rcases List.mem_cons.mp ht with rfl | ht
    · exact parenText_word _
    · exact ih t ht

/-- Every parenthesis a condition is read into has its parenthesis as its text. -/
theorem parenText_lex (s : String) : ∀ t ∈ lex s, ParenText t := by
  rw [lex_eq_tokenize_upToNul]
  exact parenText_tokenize s _

/-! ### Balance of parentheses -/

/-- How many more `(` than `)` tokens hold. -/
def parenBalance : List Token → Int
  | [] => 0
  | t :: rest =>
    (if t.kind = .leftParen then 1 else if t.kind = .rightParen then -1 else 0) +
      parenBalance rest

theorem parenBalance_append (xs ys : List Token) :
    parenBalance (xs ++ ys) = parenBalance xs + parenBalance ys := by
  induction xs with
  | nil => simp [parenBalance]
  | cons t rest ih =>
    rw [List.cons_append, parenBalance, parenBalance, ih]
    omega

/-- `)` tokens, one for each group left open. -/
def closers (k : Nat) : List Token := List.replicate k ⟨.rightParen, ")"⟩

theorem parenBalance_closers (k : Nat) : parenBalance (closers k) = -k := by
  induction k with
  | zero => rfl
  | succ k ih =>
    rw [closers, List.replicate_succ, parenBalance, ← closers, ih]
    simp

theorem group_leftParen {t : Token} (h : t.kind = .leftParen) (d : Nat) (acc rest : List Token) :
    group d acc (t :: rest) = group (d + 1) (t :: acc) rest := by
  rw [group.eq_def]
  simp [h]

theorem group_rightParen_zero {t : Token} (h : t.kind = .rightParen) (acc rest : List Token) :
    group 0 acc (t :: rest) = (acc.reverse, rest) := by
  rw [group.eq_def]
  simp [h]

theorem group_rightParen_succ {t : Token} (h : t.kind = .rightParen) (d : Nat)
    (acc rest : List Token) : group (d + 1) acc (t :: rest) = group d (t :: acc) rest := by
  rw [group.eq_def]
  simp [h]

/-- A group closes at a `)` after tokens that close the `d` groups open within it, or runs to
the end. -/
theorem group_cases : ∀ (d : Nat) (acc rest : List Token) {inner after : List Token},
    group d acc rest = (inner, after) →
      (∃ pre r, rest = pre ++ r :: after ∧ inner = acc.reverse ++ pre ∧ r.kind = .rightParen ∧
        parenBalance pre + d = 0) ∨
      (inner = acc.reverse ++ rest ∧ after = [])
  | d, acc, [], inner, after, h => by
    rw [group] at h
    cases h
    exact .inr ⟨by simp, rfl⟩
  | d, acc, t :: rest, inner, after, h => by
    by_cases hl : t.kind = .leftParen
    · -- one more group is open within
      rw [group_leftParen hl] at h
      rcases group_cases (d + 1) (t :: acc) rest h with ⟨pre, r, rfl, rfl, hr, hbal⟩ | ⟨rfl, rfl⟩
      · refine .inl ⟨t :: pre, r, rfl, by simp, hr, ?_⟩
        simp only [parenBalance, hl, if_true] at hbal ⊢
        omega
      · exact .inr ⟨by simp, rfl⟩
    by_cases hr : t.kind = .rightParen
    · cases d with
      | zero =>
        -- the `)` that closes the group
        rw [group_rightParen_zero hr] at h
        cases h
        exact .inl ⟨[], t, rfl, by simp, hr, rfl⟩
      | succ d =>
        rw [group_rightParen_succ hr] at h
        rcases group_cases d (t :: acc) rest h with ⟨pre, r, rfl, rfl, hr', hbal⟩ | ⟨rfl, rfl⟩
        · refine .inl ⟨t :: pre, r, rfl, by simp, hr', ?_⟩
          simp [parenBalance, hr] at hbal ⊢
          omega
        · exact .inr ⟨by simp, rfl⟩
    · rw [group_cons_other hl hr] at h
      rcases group_cases d (t :: acc) rest h with ⟨pre, r, rfl, rfl, hr', hbal⟩ | ⟨rfl, rfl⟩
      · refine .inl ⟨t :: pre, r, rfl, by simp, hr', ?_⟩
        simpa [parenBalance, hr, hl] using hbal
      · exact .inr ⟨by simp, rfl⟩

/-- A sentence's parentheses balance. -/
theorem Disjunction.parenBalance_tokens (e : Disjunction) : parenBalance e.tokens = 0 := by
  rcases group_cases 0 [] (e.tokens ++ [⟨.rightParen, ")"⟩]) (group_sentence e []) with
    ⟨pre, r, hsplit, rfl, -, hbal⟩ | ⟨hin, -⟩
  · simpa using hbal
  · have := congrArg List.length hin
    simp at this

/-- Tokens that balance are a sentence only with no `)` added. -/
theorem closers_eq_zero {ts : List Token} {e : Disjunction} {k : Nat} (hb : parenBalance ts = 0)
    (he : ts ++ closers k = e.tokens) : k = 0 := by
  have hbal := congrArg parenBalance he
  rw [parenBalance_append, parenBalance_closers, e.parenBalance_tokens, hb] at hbal
  omega

/-! ### What may follow an operand -/

/-- What may follow an operand in a sentence: nothing, or `and` or `or` and a sentence. -/
inductive Continues : List Token → Prop
  | stop : Continues []
  | and (w : String) (e : Disjunction) : Continues (⟨.keywordAnd, w⟩ :: e.tokens)
  | or (w : String) (e : Disjunction) : Continues (⟨.keywordOr, w⟩ :: e.tokens)

/-- A factor and what may follow it make a sentence. -/
theorem Factor.sentence_append (f : Factor) {tail : List Token} (h : Continues tail) :
    ∃ e : Disjunction, f.tokens ++ tail = e.tokens := by
  cases h with
  | stop => exact ⟨.last (.last f), by simp [Disjunction.tokens, Conjunction.tokens]⟩
  | and w e =>
    -- the factor joins the first conjunction of the sentence
    cases e with
    | last t => exact ⟨.last (.and f w t), by simp [Disjunction.tokens, Conjunction.tokens]⟩
    | or t w' e => exact ⟨.or (.and f w t) w' e, by simp [Disjunction.tokens, Conjunction.tokens]⟩
  | or w e => exact ⟨.or (.last f) w e, by simp [Disjunction.tokens, Conjunction.tokens]⟩

/-- A `not` before a sentence makes a sentence: it joins the negations of its first factor. -/
theorem Disjunction.exists_not (e : Disjunction) (w : String) :
    ∃ e' : Disjunction, e'.tokens = ⟨.keywordNot, w⟩ :: e.tokens := by
  have hf : ∀ f : Factor, ∃ f' : Factor, f'.tokens = ⟨.keywordNot, w⟩ :: f.tokens := by
    rintro ⟨nots, o⟩
    exact ⟨.mk (w :: nots) o, by simp [Factor.tokens]⟩
  have ht : ∀ t : Conjunction, ∃ t' : Conjunction, t'.tokens = ⟨.keywordNot, w⟩ :: t.tokens := by
    rintro (f | ⟨f, w', t⟩) <;> obtain ⟨f', hf'⟩ := hf f
    · exact ⟨.last f', by simp [Conjunction.tokens, hf']⟩
    · exact ⟨.and f' w' t, by simp [Conjunction.tokens, hf']⟩
  rcases e with t | ⟨t, w', e⟩ <;> obtain ⟨t', ht'⟩ := ht t
  · exact ⟨.last t', by simp [Disjunction.tokens, ht']⟩
  · exact ⟨.or t' w' e, by simp [Disjunction.tokens, ht']⟩

/-- A quantifier's target is an operand. -/
theorem Target.isOperand_token (target : Target) : target.token.kind.isOperand = true := by
  cases target <;> rfl

/-! ### Steps that succeed -/

section Steps

variable {detection : List (Text.Bytes × Value)} {ph : Option Placeholders} {depth : Nat}
  {b : Branch} {rest : List Token} {c : Condition}

/-- An identifier the builder accepts adds some tree and clears the quantifier. -/
theorem steps_identifier_ok {w : String}
    (h : steps detection ph depth b (⟨.identifier, w⟩ :: rest) = .ok c) :
    ∃ c', steps detection ph depth { b.push c' with quantifier := none } rest = .ok c := by
  rw [steps] at h
  dsimp only at h
  split at h
  · split at h
    · cases h
    · rw [bind_eq_ok] at h
      obtain ⟨c', -, h⟩ := h
      exact ⟨c', h⟩
  · cases h

/-- An `or` the builder accepts closes the open conjunction. -/
theorem steps_or_ok {w : String}
    (h : steps detection ph depth b (⟨.keywordOr, w⟩ :: rest) = .ok c) :
    steps detection ph depth
      { b with disj := Condition.allOf b.conj.reverse :: b.disj, conj := [] } rest = .ok c := by
  by_cases hc : b.conj = []
  · rw [steps] at h
    simp [hc] at h
  · rwa [steps_or w hc] at h

/-- A group the builder accepts is built from the tokens it extends over, and the build goes
on after them. -/
theorem steps_leftParen_ok {w : String}
    (h : steps detection ph depth b (⟨.leftParen, w⟩ :: rest) = .ok c) :
    ∃ inner after c', group 0 [] rest = (inner, after) ∧
      steps detection ph (depth + 1) {} inner = .ok c' ∧
      steps detection ph depth (b.push c') after = .ok c := by
  rw [steps] at h
  dsimp only at h
  rw [bind_eq_ok] at h
  obtain ⟨c', hin, haft⟩ := h
  exact ⟨_, _, c', rfl, hin, haft⟩

/-- A `)` outside every group fails the build. -/
theorem steps_rightParen (w : String) :
    steps detection ph depth b (⟨.rightParen, w⟩ :: rest) =
      .error (.plain "parser error, should not see RPAR") := by
  rw [steps]

/-- After a quantifier, the builder reads its target and clears the quantifier. -/
theorem steps_after_quantifier {k : TokenKind} (hk : k = .quantOne ∨ k = .quantAll)
    (hc : Checked k rest) (h : steps detection ph depth b rest = .ok c) :
    ∃ (target : Target) (rest' : List Token), rest = target.token :: rest' ∧
      ∃ b' : Branch, b'.quantifier = none ∧ Checked target.token.kind rest' ∧
        steps detection ph depth b' rest' = .ok c := by
  cases rest with
  | nil => rcases hk with rfl | rfl <;> simp [Checked, TokenKind.isOperand] at hc
  | cons t rest =>
    obtain ⟨hf, hc⟩ := hc
    obtain ⟨k', w⟩ := t
    rcases kind_after_quantifier hk hf with rfl | rfl | rfl
    · obtain ⟨c', h⟩ := steps_identifier_ok h
      exact ⟨.ident w, rest, rfl, _, rfl, hc, h⟩
    · obtain ⟨_, _, _, _, _, _, h⟩ := steps_target_ok (.inr rfl) h
      exact ⟨.pattern w, rest, rfl, _, rfl, hc, h⟩
    · obtain ⟨_, _, _, _, _, _, h⟩ := steps_target_ok (.inl rfl) h
      exact ⟨.them w, rest, rfl, _, rfl, hc, h⟩

end Steps

/-! ### Accepted tokens are a sentence once closed -/

section Accepted

variable {detection : List (Text.Bytes × Value)} {ph : Option Placeholders}

mutual

/-- After an operator, tokens that pass the check and that the builder accepts with no
quantifier pending are a sentence, once a `)` is added for each group they leave open. -/
theorem sentence_of_steps : ∀ (ts : List Token) {depth : Nat} {b : Branch} {c : Condition}
    {prev : TokenKind}, steps detection ph depth b ts = .ok c → b.quantifier = none →
      prev.isOperator = true → Checked prev ts → (∀ t ∈ ts, ParenText t) →
        ∃ (e : Disjunction) (k : Nat), ts ++ closers k = e.tokens
  | [], _, _, _, prev, _, _, hp, hc, _ => by
    -- the check does not end after an operator
    cases prev <;> simp_all [Checked, TokenKind.isOperand, TokenKind.isOperator]
  | ⟨kind, w⟩ :: rest, depth, b, c, prev, h, hq, hp, hc, hlit => by
    obtain ⟨hf, hc⟩ := hc
    have hlit' : ∀ t ∈ rest, ParenText t := fun t ht => hlit t (.tail _ ht)
    rcases kind_after_operator hp hf with rfl | rfl | rfl | rfl | hk
    · -- an identifier, then what may follow an operand
      obtain ⟨c', h⟩ := steps_identifier_ok h
      obtain ⟨k, hk⟩ := continues_of_steps rest h rfl rfl hc hlit'
      obtain ⟨e, he⟩ := (Factor.mk [] (.atom (.ident w))).sentence_append hk
      exact ⟨e, k, by simpa [Factor.tokens, Operand.tokens, Atom.tokens] using he⟩
    · -- a wildcard with no quantifier pending fails the build
      obtain ⟨_, _, _, _, _, hb, _⟩ := steps_target_ok (.inr rfl) h
      simp [hq] at hb
    · -- `not`, then a sentence whose first factor takes it
      rw [steps_not] at h
      obtain ⟨e, k, he⟩ := sentence_of_steps rest h hq rfl hc hlit'
      obtain ⟨e', he'⟩ := e.exists_not w
      exact ⟨e', k, by rw [he', ← he, List.cons_append]⟩
    · -- a group: built on its own up to its `)`, or to the end when it is left open
      have hw : w = "(" := (hlit _ List.mem_cons_self).1 rfl
      subst hw
      obtain ⟨inner, after, c', hg, hin, haft⟩ := steps_leftParen_ok h
      rcases group_cases 0 [] rest hg with ⟨pre, ⟨rk, rw⟩, hrest, hinner, hr, hbal⟩ | ⟨hinner, rfl⟩
      · -- closed: the group is a sentence, and what follows may follow an operand
        dsimp only at hr
        subst hr
        simp only [List.reverse_nil, List.nil_append] at hinner
        rw [hinner] at hin
        have hlt : pre.length + after.length < rest.length := by
          rw [hrest]
          simp
        have hmem : ∀ t, t ∈ pre ∨ t ∈ after → t ∈ rest := by
          intro t ht
          rw [hrest]
          simp only [List.mem_append, List.mem_cons]
          tauto
        have hrw : rw = ")" := (hlit' ⟨.rightParen, rw⟩ (by simp [hrest])).2 rfl
        subst hrw
        obtain ⟨hcin, hcaft⟩ := checked_append_rightParen rfl pre (hrest ▸ hc)
        obtain ⟨e1, k1, he1⟩ := sentence_of_steps pre hin rfl rfl hcin
          (fun t ht => hlit' t (hmem t (.inl ht)))
        -- a sentence balances, so the group leaves no group of its own open
        have hk1 : k1 = 0 := closers_eq_zero (by simpa using hbal) he1
        subst hk1
        obtain ⟨k2, hk2⟩ := continues_of_steps after haft hq rfl hcaft
          (fun t ht => hlit' t (hmem t (.inr ht)))
        obtain ⟨e, he⟩ := (Factor.mk [] (.group e1)).sentence_append hk2
        refine ⟨e, k2, ?_⟩
        rw [hrest, ← he]
        simp [Factor.tokens, Operand.tokens, ← he1, closers]
      · -- left open: the group runs to the end, and one more `)` closes it
        simp only [List.reverse_nil, List.nil_append] at hinner
        rw [hinner] at hin
        obtain ⟨e1, k1, he1⟩ := sentence_of_steps rest hin rfl rfl hc hlit'
        obtain ⟨e, he⟩ := (Factor.mk [] (.group e1)).sentence_append .stop
        refine ⟨e, k1 + 1, ?_⟩
        rw [← he]
        simp [Factor.tokens, Operand.tokens, ← he1, closers, List.replicate_succ']
    · -- a quantifier, then its target, then what may follow an operand
      obtain ⟨q, rfl⟩ : ∃ q, kind = quantifierKind q := by
        rcases hk with rfl | rfl
        exacts [⟨.one, rfl⟩, ⟨.all, rfl⟩]
      rw [steps_quantifier] at h
      have hq' : quantifierKind q = .quantOne ∨ quantifierKind q = .quantAll := by
        cases q
        exacts [.inl rfl, .inr rfl]
      obtain ⟨target, rest', hrest, b', hb', hc, h⟩ := steps_after_quantifier hq' hc h
      have hlt : rest'.length < rest.length := by
        rw [hrest]
        simp
      obtain ⟨k, hk⟩ := continues_of_steps rest' h hb' target.isOperand_token hc
        (fun t ht => hlit' t (by rw [hrest]; exact .tail _ ht))
      obtain ⟨e, he⟩ := (Factor.mk [] (.atom (.quantified q w target))).sentence_append hk
      refine ⟨e, k, ?_⟩
      rw [hrest, ← he]
      simp [Factor.tokens, Operand.tokens, Atom.tokens]
termination_by ts => ts.length
decreasing_by
  all_goals simp only [List.length_cons]
  all_goals omega

/-- After an operand, tokens that pass the check and that the builder accepts with no
quantifier pending may follow an operand in a sentence, once a `)` is added for each group
they leave open. -/
theorem continues_of_steps : ∀ (ts : List Token) {depth : Nat} {b : Branch} {c : Condition}
    {prev : TokenKind}, steps detection ph depth b ts = .ok c → b.quantifier = none →
      prev.isOperand = true → Checked prev ts → (∀ t ∈ ts, ParenText t) →
        ∃ k, Continues (ts ++ closers k)
  | [], _, _, _, _, _, _, _, _, _ => ⟨0, .stop⟩
  | ⟨kind, w⟩ :: rest, depth, b, c, prev, h, hq, hp, hc, hlit => by
    obtain ⟨hf, hc⟩ := hc
    have hlit' : ∀ t ∈ rest, ParenText t := fun t ht => hlit t (.tail _ ht)
    rcases kind_after_operand hp hf with rfl | rfl | rfl | rfl | rfl
    · -- `and`, then a sentence
      rw [steps_and] at h
      obtain ⟨e, k, he⟩ := sentence_of_steps rest h hq rfl hc hlit'
      exact ⟨k, by rw [List.cons_append, he]; exact .and w e⟩
    · -- `or`, then a sentence
      obtain ⟨e, k, he⟩ := sentence_of_steps rest (steps_or_ok h) hq rfl hc hlit'
      exact ⟨k, by rw [List.cons_append, he]; exact .or w e⟩
    · -- a `)` that closes no group fails the build
      rw [steps_rightParen] at h
      cases h
    · exact absurd hc (not_checked_pipe_eof (.inl rfl) rest)
    · exact absurd hc (not_checked_pipe_eof (.inr rfl) rest)
termination_by ts => ts.length
decreasing_by
  all_goals simp

end

/-- Every condition the builder accepts is a sentence of the grammar once its open groups are
closed: the tokens that pass the check, followed by one `)` for each group they leave open,
are the tokens of a sentence. -/
theorem sentence_of_build {s : String} {c : Condition}
    (h : Condition.build detection ph s = .ok c) :
    ∃ (ts : List Token) (e : Disjunction) (k : Nat), collect s = .ok ts ∧ ts ++ closers k = e.tokens := by
  rw [Condition.build, bind_eq_ok] at h
  obtain ⟨ts, hts, h⟩ := h
  obtain ⟨hc, last, hlex⟩ := collect_checked hts
  have hlit : ∀ t ∈ ts, ParenText t := fun t ht => parenText_lex s t (by simp [hlex, ht])
  obtain ⟨e, k, he⟩ := sentence_of_steps ts h rfl rfl hc hlit
  exact ⟨ts, e, k, hts, he⟩

/-- `(sel` passes the check and is built as `(sel)`: its tokens are no sentence, and one `)`
makes them one. -/
theorem sentence_of_build_unclosed :
    Condition.build [(Text.utf8 "sel", .text "a")] none "(sel" =
        .ok (.select ⟨[], .equals, ["a"]⟩) ∧
      collect "(sel" = .ok [⟨.leftParen, "("⟩, ⟨.identifier, "sel"⟩] ∧
      (¬ ∃ e : Disjunction, e.tokens = [⟨.leftParen, "("⟩, ⟨.identifier, "sel"⟩]) ∧
      ∃ (ts : List Token) (e : Disjunction) (k : Nat),
        collect "(sel" = .ok ts ∧ ts ++ closers k = e.tokens := by
  have hb : Condition.build [(Text.utf8 "sel", .text "a")] none "(sel" =
      .ok (.select ⟨[], .equals, ["a"]⟩) := by cbv
  refine ⟨hb, by cbv, ?_, sentence_of_build hb⟩
  -- a sentence balances its parentheses, and these leave one open
  rintro ⟨e, he⟩
  have hbal := e.parenBalance_tokens
  rw [he] at hbal
  simp [parenBalance] at hbal

end Accepted

end SigmaQuery.Grammar
