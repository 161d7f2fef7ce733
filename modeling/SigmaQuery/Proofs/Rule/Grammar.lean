import SigmaQuery.Rule.Build

/-!
# The grammar of conditions

The sentences a condition is meant to be: a disjunction of conjunctions (`or`), each of
factors (`and`), each an operand after any number of `not`s; an operand is a parenthesised
disjunction or an atom, and an atom an identifier or `1 of` / `all of` before an identifier, a
wildcard pattern or `them`. A sentence keeps the text of each keyword, so its tokens are what a
condition is read into. Its reference tree over a detection section chains operands, negates
for an odd number of `not`s and expands a quantifier to the entries its target selects, in
written order; it is `none` where the entries do not allow it.
-/

namespace SigmaQuery.Grammar

open SigmaQuery.Expr Build

/-- The kind of token a quantifier is read as. -/
def quantifierKind : Quantifier → TokenKind
  | .one => .quantOne
  | .all => .quantAll

/-- What a quantifier ranges over. -/
inductive Target where
  /-- The entry of a name. -/
  | ident (name : String)
  /-- The entries whose names a wildcard pattern matches. -/
  | pattern (text : String)
  /-- Every entry whose name does not start with `_`. -/
  | them (text : String)

/-- An atom: an identifier, or a quantifier with the text it was written as and its target. -/
inductive Atom where
  | ident (name : String)
  | quantified (q : Quantifier) (text : String) (target : Target)

mutual

/-- An operand of a factor. -/
inductive Operand where
  | group (inner : Disjunction)
  | atom (a : Atom)

/-- An operand after `not`s, each kept with the text it was written as. -/
inductive Factor where
  | mk (nots : List String) (operand : Operand)

/-- Factors joined by `and`, each `and` kept with its text. -/
inductive Conjunction where
  | last (f : Factor)
  | and (f : Factor) (word : String) (rest : Conjunction)

/-- Conjunctions joined by `or`, each `or` kept with its text: a sentence. -/
inductive Disjunction where
  | last (t : Conjunction)
  | or (t : Conjunction) (word : String) (rest : Disjunction)

end

/-! ### Tokens -/

/-- The token of a quantifier's target. -/
def Target.token : Target → Token
  | .ident name => ⟨.identifier, name⟩
  | .pattern text => ⟨.wildcard, text⟩
  | .them text => ⟨.them, text⟩

/-- The tokens of an atom. -/
def Atom.tokens : Atom → List Token
  | .ident name => [⟨.identifier, name⟩]
  | .quantified q text target => [⟨quantifierKind q, text⟩, target.token]

mutual

/-- The tokens of an operand. -/
def Operand.tokens : Operand → List Token
  | .group e => ⟨.leftParen, "("⟩ :: e.tokens ++ [⟨.rightParen, ")"⟩]
  | .atom a => a.tokens

/-- The tokens of a factor. -/
def Factor.tokens : Factor → List Token
  | .mk nots operand => nots.map (fun w => ⟨.keywordNot, w⟩) ++ operand.tokens

/-- The tokens of a conjunction. -/
def Conjunction.tokens : Conjunction → List Token
  | .last f => f.tokens
  | .and f w t => f.tokens ++ ⟨.keywordAnd, w⟩ :: t.tokens

/-- The tokens of a disjunction. -/
def Disjunction.tokens : Disjunction → List Token
  | .last t => t.tokens
  | .or t w e => t.tokens ++ ⟨.keywordOr, w⟩ :: e.tokens

end

/-! ### Reference trees -/

section Reference

variable (detection : List (Text.Bytes × Value)) (ph : Option Placeholders)

/-- The tree of the entry a name stands for. -/
def entryTree (name : String) : Option Condition :=
  match detection.lookup (Text.utf8 name) with
  | some v => if isReserved (Text.utf8 name) then none else (Condition.ofEntry ph name v).toOption
  | none => none

/-- The entries, in written order, whose names are not reserved and pass a test. -/
def selectedEntries (selects : Text.Bytes → Bool) : List (Text.Bytes × Value) :=
  detection.filter fun kv => !isReserved kv.1 && selects kv.1

/-- The tree of a quantifier over trees: their disjunction for `1 of`, their conjunction for
`all of`. -/
def combine : Quantifier → List Condition → Condition
  | .one, cs => Condition.anyOf cs
  | .all, cs => Condition.allOf cs

/-- The tree of a quantifier over the entries a test selects. -/
def quantifiedTree (q : Quantifier) (selects : Text.Bytes → Bool) : Option Condition :=
  match ((selectedEntries detection selects).mapM
      fun kv => Condition.ofEntry ph (Text.lossy kv.1) kv.2).toOption with
  | some [] | none => none
  | some cs => some (combine q cs)

/-- The reference tree of an atom. A quantifier over one identifier stands for its entry. -/
def Atom.reference : Atom → Option Condition
  | .ident name => entryTree detection ph name
  | .quantified _ _ (.ident name) => entryTree detection ph name
  | .quantified q _ (.them _) => quantifiedTree detection ph q fun k => k.head? != some 0x5F
  | .quantified q _ (.pattern text) =>
    match Wildcard.compile text with
    | .ok m => quantifiedTree detection ph q m.selects
    | .error _ => none

/-- A quantifier over a pattern stands for the entries that the compiled pattern selects. -/
theorem Atom.reference_pattern (q : Quantifier) (w text : String) :
    (Atom.quantified q w (.pattern text)).reference detection ph =
      match Wildcard.compile text with
      | .ok m => quantifiedTree detection ph q m.selects
      | .error _ => none := by
  unfold Atom.reference
  rfl

mutual

/-- The reference tree of an operand. -/
def Operand.reference : Operand → Option Condition
  | .group e => e.branches.map Condition.anyOf
  | .atom a => a.reference detection ph

/-- The reference tree of a factor: its operand's, negated under an odd number of `not`s. -/
def Factor.reference : Factor → Option Condition
  | .mk nots operand =>
    operand.reference.map fun c => if nots.length % 2 = 1 then .not c else c

/-- The reference trees of a conjunction's factors, in order. -/
def Conjunction.operands : Conjunction → Option (List Condition)
  | .last f => f.reference.map ([·])
  | .and f _ t => f.reference.bind fun c => t.operands.map (c :: ·)

/-- The reference trees of a disjunction's conjunctions, in order. -/
def Disjunction.branches : Disjunction → Option (List Condition)
  | .last t => t.operands.map fun cs => [Condition.allOf cs]
  | .or t _ e => t.operands.bind fun cs => e.branches.map (Condition.allOf cs :: ·)

end

/-- The reference tree of a sentence. -/
def Disjunction.reference (e : Disjunction) : Option Condition :=
  (e.branches detection ph).map Condition.anyOf

end Reference

/-! ### The sequence check -/

/-- A token that may follow the one before it, and is neither an end, an error nor an
unsupported token, is kept. -/
theorem collectFrom_cons {prev t : Token} (kept rest : List Token)
    (hk : t.kind ≠ .unsupported ∧ t.kind ≠ .error ∧ t.kind ≠ .eof)
    (hf : TokenKind.mayFollow prev.kind t.kind = true) :
    collectFrom prev kept (t :: rest) = collectFrom t (t :: kept) rest := by
  obtain ⟨hu, he, heof⟩ := hk
  simp [collectFrom, hu, he, heof, hf]

/-- An atom passes the check after an operator, and ends with an operand. -/
theorem Atom.collectFrom_tokens (a : Atom) {prev : Token} (kept rest : List Token)
    (hp : prev.kind.isOperator = true) :
    ∃ last : Token, last.kind.isOperand = true ∧
      collectFrom prev kept (a.tokens ++ rest) = collectFrom last (a.tokens.reverse ++ kept) rest := by
  cases a with
  | ident name =>
    refine ⟨⟨.identifier, name⟩, rfl, ?_⟩
    exact collectFrom_cons kept rest (by simp) (by simp [TokenKind.mayFollow, hp])
  | quantified q text target =>
    have hq : TokenKind.mayFollow prev.kind (quantifierKind q) = true := by
      cases q <;> simp [quantifierKind, TokenKind.mayFollow, hp]
    -- the quantifier is an operator for its target alone, which is always an operand
    refine ⟨target.token, by cases target <;> rfl, ?_⟩
    rw [Atom.tokens, List.cons_append, collectFrom_cons kept _ (by cases q <;> simp [quantifierKind]) hq,
      List.cons_append, List.nil_append,
      collectFrom_cons _ rest (by cases target <;> simp [Target.token])
        (by cases q <;> cases target <;> rfl)]
    simp

/-- `not`s pass the check after an operator, and each is an operator again. -/
theorem collectFrom_nots (nots : List String) {prev : Token} (kept rest : List Token)
    (hp : prev.kind.isOperator = true) :
    ∃ last : Token, last.kind.isOperator = true ∧
      collectFrom prev kept ((nots.map fun w => (⟨.keywordNot, w⟩ : Token)) ++ rest) =
        collectFrom last ((nots.map fun w => (⟨.keywordNot, w⟩ : Token)).reverse ++ kept) rest := by
  induction nots generalizing prev kept with
  | nil => exact ⟨prev, hp, rfl⟩
  | cons w nots ih =>
    obtain ⟨last, hlast, h⟩ := @ih ⟨.keywordNot, w⟩ (⟨.keywordNot, w⟩ :: kept) rfl
    refine ⟨last, hlast, ?_⟩
    rw [List.map_cons, List.cons_append,
      collectFrom_cons kept _ (by simp) (by simp [TokenKind.mayFollow, hp]), h]
    simp

mutual

/-- An operand passes the check after an operator, and ends with an operand. -/
theorem Operand.collectFrom_tokens : ∀ (o : Operand) {prev : Token} (kept rest : List Token),
    prev.kind.isOperator = true → ∃ last : Token, last.kind.isOperand = true ∧
      collectFrom prev kept (o.tokens ++ rest) = collectFrom last (o.tokens.reverse ++ kept) rest
  | .atom a, _, kept, rest, hp => by
    simpa [Operand.tokens] using a.collectFrom_tokens kept rest hp
  | .group e, prev, kept, rest, hp => by
    -- inside the parentheses the sentence follows `(`, and `)` follows its last operand
    obtain ⟨last, hlast, h⟩ := @Disjunction.collectFrom_tokens e ⟨.leftParen, "("⟩
      (⟨.leftParen, "("⟩ :: kept) (⟨.rightParen, ")"⟩ :: rest) rfl
    refine ⟨⟨.rightParen, ")"⟩, rfl, ?_⟩
    simp only [Operand.tokens, List.cons_append, List.append_assoc, List.nil_append]
    rw [collectFrom_cons kept _ (by simp) (by simp [TokenKind.mayFollow, hp]), h,
      collectFrom_cons _ rest (by simp) (by simp [TokenKind.mayFollow, hlast])]
    simp

/-- A factor passes the check after an operator, and ends with an operand. -/
theorem Factor.collectFrom_tokens : ∀ (f : Factor) {prev : Token} (kept rest : List Token),
    prev.kind.isOperator = true → ∃ last : Token, last.kind.isOperand = true ∧
      collectFrom prev kept (f.tokens ++ rest) = collectFrom last (f.tokens.reverse ++ kept) rest
  | .mk nots o, _, kept, rest, hp => by
    obtain ⟨p, hop, hnots⟩ := collectFrom_nots nots kept (o.tokens ++ rest) hp
    obtain ⟨last, hlast, h⟩ := o.collectFrom_tokens _ rest hop
    refine ⟨last, hlast, ?_⟩
    rw [Factor.tokens, List.append_assoc, hnots, h]
    simp

/-- A conjunction passes the check after an operator, and ends with an operand. -/
theorem Conjunction.collectFrom_tokens : ∀ (t : Conjunction) {prev : Token}
    (kept rest : List Token), prev.kind.isOperator = true → ∃ last : Token,
      last.kind.isOperand = true ∧
      collectFrom prev kept (t.tokens ++ rest) = collectFrom last (t.tokens.reverse ++ kept) rest
  | .last f, _, kept, rest, hp => f.collectFrom_tokens kept rest hp
  | .and f w t, _, kept, rest, hp => by
    obtain ⟨p, hop, hf⟩ := f.collectFrom_tokens kept (⟨.keywordAnd, w⟩ :: (t.tokens ++ rest)) hp
    obtain ⟨last, hlast, ht⟩ := @Conjunction.collectFrom_tokens t ⟨.keywordAnd, w⟩
      (⟨.keywordAnd, w⟩ :: (f.tokens.reverse ++ kept)) rest rfl
    refine ⟨last, hlast, ?_⟩
    rw [Conjunction.tokens, List.append_assoc, List.cons_append, hf,
      collectFrom_cons _ _ (by simp) (by simp [TokenKind.mayFollow, hop]), ht]
    simp

/-- A sentence passes the check after an operator, and ends with an operand. -/
theorem Disjunction.collectFrom_tokens : ∀ (e : Disjunction) {prev : Token}
    (kept rest : List Token), prev.kind.isOperator = true → ∃ last : Token,
      last.kind.isOperand = true ∧
      collectFrom prev kept (e.tokens ++ rest) = collectFrom last (e.tokens.reverse ++ kept) rest
  | .last t, _, kept, rest, hp => t.collectFrom_tokens kept rest hp
  | .or t w e, _, kept, rest, hp => by
    obtain ⟨p, hop, ht⟩ := t.collectFrom_tokens kept (⟨.keywordOr, w⟩ :: (e.tokens ++ rest)) hp
    obtain ⟨last, hlast, he⟩ := @Disjunction.collectFrom_tokens e ⟨.keywordOr, w⟩
      (⟨.keywordOr, w⟩ :: (t.tokens.reverse ++ kept)) rest rfl
    refine ⟨last, hlast, ?_⟩
    rw [Disjunction.tokens, List.append_assoc, List.cons_append, ht,
      collectFrom_cons _ _ (by simp) (by simp [TokenKind.mayFollow, hop]), he]
    simp

end

/-- The tokens of a sentence, ended, pass the sequence check whole. -/
theorem collect_of_lex {s : String} {e : Disjunction}
    (hlex : lex s = e.tokens ++ [⟨.eof, ""⟩]) : collect s = .ok e.tokens := by
  obtain ⟨last, hlast, h⟩ := @Disjunction.collectFrom_tokens e ⟨.begin, ""⟩ [] [⟨.eof, ""⟩] rfl
  -- the end may follow the last operand, and is not kept
  rw [collect, hlex, h]
  simp [collectFrom, TokenKind.mayFollow, hlast]

/-! ### Groups -/

/-- Extracting a group passes over a token that is no parenthesis. -/
theorem group_cons_other {t : Token} (h1 : t.kind ≠ .leftParen) (h2 : t.kind ≠ .rightParen)
    (depth : Nat) (acc rest : List Token) :
    group depth acc (t :: rest) = group depth (t :: acc) rest := by
  rw [group.eq_def]
  dsimp only
  split
  · next h => exact absurd h h1
  · next h => exact absurd h h2
  · rfl

/-- Extracting a group passes over tokens that are no parentheses. -/
theorem group_of_noParen {ts : List Token}
    (h : ∀ t ∈ ts, t.kind ≠ .leftParen ∧ t.kind ≠ .rightParen) (depth : Nat)
    (acc rest : List Token) : group depth acc (ts ++ rest) = group depth (ts.reverse ++ acc) rest := by
  induction ts generalizing acc with
  | nil => rfl
  | cons t ts ih =>
    obtain ⟨h1, h2⟩ := h t List.mem_cons_self
    rw [List.cons_append, group_cons_other h1 h2, ih fun u hu => h u (List.mem_cons_of_mem _ hu)]
    simp

/-- An atom holds no parenthesis. -/
theorem Atom.noParen (a : Atom) : ∀ t ∈ a.tokens, t.kind ≠ .leftParen ∧ t.kind ≠ .rightParen := by
  cases a with
  | ident name => simp [Atom.tokens]
  | quantified q text target =>
    cases q <;> cases target <;> simp [Atom.tokens, quantifierKind, Target.token]

mutual

/-- An operand's parentheses are balanced: extracting a group passes over it whole. -/
theorem Operand.group_tokens : ∀ (o : Operand) (depth : Nat) (acc rest : List Token),
    group depth acc (o.tokens ++ rest) = group depth (o.tokens.reverse ++ acc) rest
  | .atom a, depth, acc, rest => group_of_noParen a.noParen depth acc rest
  | .group e, depth, acc, rest => by
    -- `(` opens one more level, which the `)` after the sentence closes again
    simp only [Operand.tokens, List.cons_append, List.append_assoc, List.nil_append]
    simp only [group]
    rw [e.group_tokens]
    simp [group]

/-- A factor's parentheses are balanced. -/
theorem Factor.group_tokens : ∀ (f : Factor) (depth : Nat) (acc rest : List Token),
    group depth acc (f.tokens ++ rest) = group depth (f.tokens.reverse ++ acc) rest
  | .mk nots o, depth, acc, rest => by
    rw [Factor.tokens, List.append_assoc, group_of_noParen (by simp), o.group_tokens]
    simp

/-- A conjunction's parentheses are balanced. -/
theorem Conjunction.group_tokens : ∀ (t : Conjunction) (depth : Nat) (acc rest : List Token),
    group depth acc (t.tokens ++ rest) = group depth (t.tokens.reverse ++ acc) rest
  | .last f, depth, acc, rest => f.group_tokens depth acc rest
  | .and f w t, depth, acc, rest => by
    rw [Conjunction.tokens, List.append_assoc, f.group_tokens, List.cons_append,
      group_cons_other (by simp) (by simp), t.group_tokens]
    simp

/-- A sentence's parentheses are balanced. -/
theorem Disjunction.group_tokens : ∀ (e : Disjunction) (depth : Nat) (acc rest : List Token),
    group depth acc (e.tokens ++ rest) = group depth (e.tokens.reverse ++ acc) rest
  | .last t, depth, acc, rest => t.group_tokens depth acc rest
  | .or t w e, depth, acc, rest => by
    rw [Disjunction.tokens, List.append_assoc, t.group_tokens, List.cons_append,
      group_cons_other (by simp) (by simp), e.group_tokens]
    simp

end

/-- The group after a `(` is the sentence up to its matching `)`. -/
theorem group_sentence (e : Disjunction) (rest : List Token) :
    group 0 [] (e.tokens ++ ⟨.rightParen, ")"⟩ :: rest) = (e.tokens, rest) := by
  rw [e.group_tokens]
  simp [group]

end SigmaQuery.Grammar
