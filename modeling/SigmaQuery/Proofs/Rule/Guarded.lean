import SigmaQuery.Proofs.Rule.Accepted

/-!
# Faults the sequence check keeps the builder from

The reader gives words, quantifiers and parentheses, then the end or a pipe and the unsupported
aggregation (`lex_shaped`), so the sequence check fails only at an unsupported token or at two
tokens that cannot follow each other (`collect_error`). Tokens that pass the check never lead
the builder to an empty operand (`steps_spared`): the invariant reaches into groups
(`group_checked`) and into the entries the tokens name (`ofEntry_spared`), and each call on a
group is given fewer tokens (`group_shorter`). The whole is `sequence_check_guards_builder`.
-/

namespace SigmaQuery

namespace RuleError

/-- The faults of a branch with an empty operand: `or` with no operand before it, and a branch
that ends with none. -/
def EmptyOperand (e : RuleError) : Prop :=
  e = .malformed "" "empty operand before or" ∨
    ∃ depth : Nat, e = .malformed "" ("empty expression at depth " ++ toString depth)

/-- A fault with an empty operand is a structure fault whose detail starts with `e`. -/
theorem EmptyOperand.head {e : RuleError} (h : e.EmptyOperand) :
    ∃ detail, e = .malformed "" detail ∧ detail.toList.head? = some 'e' := by
  rcases h with rfl | ⟨depth, rfl⟩
  · exact ⟨_, rfl, by decide⟩
  · refine ⟨_, rfl, ?_⟩
    rw [String.toList_append]
    rfl

end RuleError

namespace Expr

/-! ### The reader and the sequence check -/

/-- Whether a kind is read from the text of a condition before its end: a word, a quantifier or
a parenthesis. -/
def TokenKind.isRead : TokenKind → Bool
  | .identifier | .wildcard | .them | .keywordAnd | .keywordOr | .keywordNot | .quantOne
  | .quantAll | .leftParen | .rightParen => true
  | _ => false

/-- A kind read from the text is neither an unsupported token nor an error. -/
theorem TokenKind.ne_of_isRead {k : TokenKind} (h : k.isRead = true) :
    k ≠ .unsupported ∧ k ≠ .error := by
  cases k <;> simp_all [isRead]

theorem wordKind_isRead (w : String) : (wordKind w).isRead = true := by
  unfold wordKind
  split <;> try rfl
  split <;> rfl

/-- Tokens read from the text, then the end, or a pipe and the unsupported aggregation that
quotes the condition. -/
def Shaped (input : String) (ts : List Token) : Prop :=
  ∃ body, (∀ t ∈ body, t.kind.isRead = true) ∧
    (ts = body ++ [⟨.eof, ""⟩] ∨
      ts = body ++ [⟨.pipe, "|"⟩,
        ⟨.unsupported, "aggregation not supported yet [" ++ input ++ "]"⟩])

theorem Shaped.cons {input : String} {ts : List Token} (h : Shaped input ts) {t : Token}
    (ht : t.kind.isRead = true) : Shaped input (t :: ts) := by
  obtain ⟨body, hread, htail⟩ := h
  refine ⟨t :: body, List.forall_mem_cons.mpr ⟨ht, hread⟩, ?_⟩
  rcases htail with rfl | rfl
  exacts [.inl rfl, .inr rfl]

/-- The tokenisation of a condition is shaped: tokens read from the text, then the end or the
aggregation. -/
theorem tokenize_shaped (input : String) (cs : List Char) : Shaped input (tokenize input cs) := by
  fun_induction tokenize input cs with
  | case1 cs k n hq ih =>
    refine ih.cons ?_
    rcases Grammar.quantifier?_kind hq with rfl | rfl <;> rfl
  | case2 => exact ⟨[], List.forall_mem_nil _, .inl rfl⟩
  | case3 _ _ ih => exact ih.cons rfl
  | case4 _ _ _ ih => exact ih.cons rfl
  | case5 => exact ⟨[], List.forall_mem_nil _, .inr rfl⟩
  | case6 _ _ _ _ _ _ _ ih => exact ih
  | case7 _ _ _ _ _ _ _ ih => exact ih.cons (wordKind_isRead _)

/-- The reader's tokens are shaped: it ends every condition with the end token, or with a pipe
and the unsupported aggregation, and reads nothing else but words, quantifiers and
parentheses. -/
theorem lex_shaped (s : String) : Shaped s (lex s) := by
  rw [lex_eq_tokenize_upToNul]
  exact tokenize_shaped s _

/-- The reader never gives a lexical error. -/
theorem lex_ne_error (s : String) : ∀ t ∈ lex s, t.kind ≠ .error := by
  obtain ⟨body, hread, htail⟩ := lex_shaped s
  intro t ht
  have hmem : t ∈ body ∨ t = ⟨.eof, ""⟩ ∨ t = ⟨.pipe, "|"⟩ ∨
      t = ⟨.unsupported, "aggregation not supported yet [" ++ s ++ "]"⟩ := by
    rcases htail with h | h <;> rw [h] at ht <;> simp at ht <;> tauto
  rcases hmem with ht | rfl | rfl | rfl
  · exact (TokenKind.ne_of_isRead (hread t ht)).2
  all_goals simp

/-- The faults of the sequence check proper: an unsupported token, or two tokens that cannot
follow each other. -/
def CheckFault (e : RuleError) : Prop :=
  (∃ detail, e = .unsupportedToken detail) ∨
    ∃ collected prev next, e = .invalidSequence collected prev next

/-- A token that is neither unsupported nor an error is refused when it may not follow the one
before it, and the check goes on after it otherwise. -/
theorem collectFrom_cons_error {prev t : Token} (hu : t.kind ≠ .unsupported)
    (he : t.kind ≠ .error) {kept rest : List Token} {e : RuleError}
    (h : collectFrom prev kept (t :: rest) = .error e) :
    e = .invalidSequence kept.length prev t ∨ ∃ kept', collectFrom t kept' rest = .error e := by
  rw [collectFrom] at h
  simp only [beq_iff_eq, hu, he, if_false] at h
  split at h
  · cases h
    exact .inl rfl
  · exact .inr ⟨_, h⟩

/-- On shaped tokens the check fails only at an unsupported token or at two tokens that cannot
follow each other. -/
theorem collectFrom_shaped_error (input : String) :
    ∀ {body : List Token}, (∀ t ∈ body, t.kind.isRead = true) → ∀ {tail : List Token},
      (tail = [⟨.eof, ""⟩] ∨
        tail = [⟨.pipe, "|"⟩, ⟨.unsupported, "aggregation not supported yet [" ++ input ++ "]"⟩]) →
      ∀ {prev : Token} {kept : List Token} {e : RuleError},
        collectFrom prev kept (body ++ tail) = .error e → CheckFault e
  | [], _, _, htail, prev, kept, e, h => by
    rcases htail with rfl | rfl
    · -- the end is refused where it may not follow, and otherwise finishes the check
      rcases collectFrom_cons_error (by decide) (by decide) h with rfl | ⟨kept', h⟩
      · exact .inr ⟨_, _, _, rfl⟩
      · simp [collectFrom] at h
    · rcases collectFrom_cons_error (by decide) (by decide) h with rfl | ⟨kept', h⟩
      · exact .inr ⟨_, _, _, rfl⟩
      · -- the aggregation after the pipe is refused as unsupported
        simp only [collectFrom, beq_self_eq_true, if_true, Except.error.injEq] at h
        exact .inl ⟨_, h.symm⟩
  | t :: body, hread, _, htail, prev, kept, e, h => by
    obtain ⟨hu, he⟩ := TokenKind.ne_of_isRead (hread t List.mem_cons_self)
    rcases collectFrom_cons_error hu he h with rfl | ⟨kept', h⟩
    · exact .inr ⟨_, _, _, rfl⟩
    · exact collectFrom_shaped_error input (fun u hu => hread u (List.mem_cons_of_mem t hu)) htail h

/-- The sequence check of a condition fails only at an unsupported token or at two tokens that
cannot follow each other: never for a lexical error, nor for an end that is missing. -/
theorem collect_error {s : String} {e : RuleError} (h : collect s = .error e) : CheckFault e := by
  obtain ⟨body, hread, htail⟩ := lex_shaped s
  rw [collect] at h
  rcases htail with hl | hl <;> rw [hl] at h
  · exact collectFrom_shaped_error s hread (.inl rfl) h
  · exact collectFrom_shaped_error s hread (.inr rfl) h

end Expr

namespace Build

open SigmaQuery.Expr Grammar

/-! ### Steps that never fail with an empty operand -/

/-- A step that, if it fails, does not fail with an empty operand. -/
def Spared {α : Type} (x : Except RuleError α) : Prop :=
  ∀ e, x = .error e → ¬ e.EmptyOperand

namespace Spared

variable {α β : Type}

theorem ok (a : α) : Spared (.ok a : Except RuleError α) := fun _ h => by cases h

theorem pure (a : α) : Spared (Pure.pure a : Except RuleError α) := ok a

/-- A failure is spared when it is not a structure fault whose detail starts with `e`. -/
theorem error {e : RuleError}
    (h : ∀ detail, e = .malformed "" detail → detail.toList.head? ≠ some 'e') :
    Spared (.error e : Except RuleError α) := by
  rintro _ ⟨⟩ he
  obtain ⟨detail, hd, hhead⟩ := he.head
  exact h detail hd hhead

/-- A failure that is not a structure fault is spared. -/
theorem error_of_ne {e : RuleError} (h : ∀ id detail, e ≠ .malformed id detail) :
    Spared (.error e : Except RuleError α) :=
  error fun detail hd => absurd hd (h "" detail)

theorem bind {x : Except RuleError α} {f : α → Except RuleError β} (hx : Spared x)
    (hf : ∀ a, Spared (f a)) : Spared (x >>= f) := by
  intro e h
  rcases bind_eq_error.mp h with h | ⟨a, -, h⟩
  · exact hx e h
  · exact hf a e h

theorem map {x : Except RuleError α} (hx : Spared x) (f : α → β) : Spared (f <$> x) := by
  cases x with
  | error e =>
    rintro _ ⟨⟩
    exact hx e rfl
  | ok a => exact ok _

end Spared

/-! ### Entries -/

/-- A structure fault about a field or a selection is spared: its detail starts with `f` or
`s`. -/
theorem Spared.named {α : Type} {p rest : String} (hp : p = "field " ∨ p = "selection ") :
    Spared (.error (.malformed "" (p ++ rest)) : Except RuleError α) := by
  refine Spared.error fun detail hd => ?_
  cases hd
  rcases hp with rfl | rfl <;> simp [String.toList_append]

theorem textsOf_spared (key : String) : ∀ items, Spared (Condition.textsOf key items)
  | [] => Spared.ok _
  | .text s :: rest => by
    rw [Condition.textsOf]
    exact (textsOf_spared key rest).map _
  | .null :: _ => Spared.error_of_ne fun _ _ => nofun
  | .list _ :: _ | .map _ :: _ => Spared.error_of_ne fun _ _ => nofun

theorem expandAll_spared (ph : Option Placeholders) :
    ∀ values, Spared (Placeholders.expandAll ph values)
  | [] => Spared.ok _
  | v :: rest => by
    refine Spared.bind ?_ fun vs => Spared.bind (expandAll_spared ph rest) fun _ => Spared.pure _
    unfold Placeholders.expand
    split
    · exact Spared.ok _
    · extract_lets inner found
      clear_value found
      cases found
      · exact Spared.error_of_ne fun _ _ => nofun
      · exact Spared.ok _

theorem applyMods_spared (key : String) :
    ∀ (ms : List String) (fk : FieldKey) (n : Nat), Spared (FieldKey.applyMods key fk n ms)
  | [], _, _ => Spared.ok _
  | m :: rest, fk, n => by
    unfold FieldKey.applyMods
    split
    case h_8 => exact Spared.error_of_ne fun _ _ => nofun
    all_goals exact applyMods_spared key rest _ _

theorem parse_spared (key : Text.Bytes) : Spared (FieldKey.parse key) := by
  refine Spared.bind (applyMods_spared _ _ _ _) fun ⟨fk, n⟩ => ?_
  dsimp only
  split
  · exact Spared.bind (Spared.error_of_ne fun _ _ => nofun) fun _ => Spared.pure _
  · exact Spared.pure _

theorem ofField_spared (ph : Option Placeholders) (key : Text.Bytes) (v : Value) :
    Spared (Condition.ofField ph key v) := by
  refine Spared.bind (parse_spared key) fun fk => ?_
  extract_lets k afterValues afterRaw
  -- the values once read: refused when there are none, and built into the field otherwise
  have hvalues : ∀ values, Spared (afterValues values) := by
    intro values
    unfold afterValues
    extract_lets built
    have hbuilt : ∀ u, Spared (built u) := fun u => by
      unfold built
      split <;> exact Spared.pure _
    split
    · rw [String.append_assoc]
      exact Spared.bind (Spared.named (.inl rfl)) hbuilt
    · exact hbuilt ()
  have hraw : ∀ raw, Spared (afterRaw raw) := by
    intro raw
    unfold afterRaw
    refine Spared.bind (textsOf_spared k raw) fun values => ?_
    split
    · exact Spared.bind (expandAll_spared ph values) hvalues
    · exact Spared.bind (Spared.pure values) hvalues
  split
  · exact Spared.bind (Spared.pure _) hraw
  · exact Spared.bind (Spared.error_of_ne fun _ _ => nofun) hraw
  · exact Spared.bind (Spared.pure _) hraw

theorem ofFields_spared (ph : Option Placeholders) :
    ∀ fields, Spared (Condition.ofFields ph fields)
  | [] => Spared.ok _
  | (k, v) :: rest =>
    Spared.bind (ofField_spared ph k v) fun _ =>
      Spared.bind (ofFields_spared ph rest) fun _ => Spared.pure _

theorem ofMap_spared (ph : Option Placeholders) (key : String)
    (fields : List (Text.Bytes × Value)) :
    Spared (Condition.ofMap ph key fields) := by
  unfold Condition.ofMap
  split
  · rw [String.append_assoc]
    exact Spared.named (.inr rfl)
  · exact (ofFields_spared ph fields).map _

theorem ofMaps_spared (ph : Option Placeholders) (key : String) :
    ∀ items, Spared (Condition.ofMaps ph key items)
  | [] => Spared.ok _
  | .map fields :: rest =>
    Spared.bind (ofMap_spared ph key fields) fun _ =>
      Spared.bind (ofMaps_spared ph key rest) fun _ => Spared.pure _
  | .null :: rest | .text _ :: rest | .list _ :: rest => by
    rw [Condition.ofMaps]
    · exact ofMaps_spared ph key rest
    · exact nofun

/-- Building a detection entry never fails with an empty operand. -/
theorem ofEntry_spared (ph : Option Placeholders) (key : String) (v : Value) :
    Spared (Condition.ofEntry ph key v) := by
  unfold Condition.ofEntry
  split
  · exact ofMap_spared ph key _
  · rw [String.append_assoc]
    exact Spared.named (.inr rfl)
  · split
    · exact (ofMaps_spared ph key _).map _
    · exact Spared.bind (textsOf_spared key _) fun _ => Spared.pure _
    · exact Spared.error_of_ne fun _ _ => nofun
  · exact Spared.error_of_ne fun _ _ => nofun
  · exact Spared.ok _

theorem quantified_spared (ph : Option Placeholders) (pat : Option Wildcard.Matcher) :
    ∀ detection, Spared (quantified ph pat detection)
  | [] => Spared.ok _
  | (k, v) :: rest => by
    unfold quantified
    extract_lets named
    split
    · exact Spared.bind (ofEntry_spared ph _ v) fun _ =>
        Spared.bind (quantified_spared ph pat rest) fun _ => Spared.pure _
    · exact quantified_spared ph pat rest

/-! ### The builder -/

/-- A group cut from tokens that pass the check after `(` passes it after its `(`, whether its
`)` or the end of the tokens closes it; what follows the group passes it after a `)`. -/
theorem group_checked {rest : List Token} (h : Checked .leftParen rest) :
    Checked .leftParen (group 0 [] rest).1 ∧ Checked .rightParen (group 0 [] rest).2 := by
  rcases hg : group 0 [] rest with ⟨inner, after⟩
  rcases group_cases 0 [] rest hg with ⟨pre, r, hrest, hinner, hr, -⟩ | ⟨hinner, rfl⟩
  · -- closed by its `)`: the check splits there
    simp only [List.reverse_nil, List.nil_append] at hinner
    subst hinner
    rw [hrest] at h
    exact checked_append_rightParen hr _ h
  · -- closed by the end: the group is all the rest, and nothing follows it
    simp only [List.reverse_nil, List.nil_append] at hinner
    subst hinner
    exact ⟨h, rfl⟩

/-- A group and what follows it are each shorter than the tokens from its `(` on. -/
theorem group_shorter (t : Token) (rest : List Token) :
    (group 0 [] rest).1.length < (t :: rest).length ∧
      (group 0 [] rest).2.length < (t :: rest).length := by
  have := group_length 0 [] rest
  simp only [List.length_nil, List.length_cons] at this ⊢
  omega

/-- Adding an operand leaves the open conjunction with one. -/
theorem push_conj_ne_nil (b : Branch) (c : Condition) : (b.push c).conj ≠ [] := by
  simp [Branch.push]

section Steps

variable {detection : List (Text.Bytes × Value)} {ph : Option Placeholders} {depth : Nat}
  {b : Branch} {rest : List Token}

/-- A quantifier's target never fails with an empty operand when the tokens after it never do
from a branch that has an operand. -/
theorem steps_target_spared {t : Token} (hk : t.kind = .them ∨ t.kind = .wildcard)
    (hrest : ∀ b' : Branch, b'.conj ≠ [] → Spared (steps detection ph depth b' rest)) :
    Spared (steps detection ph depth b (t :: rest)) := by
  obtain ⟨kind, w⟩ := t
  rw [steps]
  rcases hk with rfl | rfl <;> dsimp -zeta only
  -- `them` and a pattern differ only in the pattern the entries are matched against
  all_goals
    extract_lets build afterPattern
    have hbuild : ∀ c, Spared (build c) := fun c => hrest _ (push_conj_ne_nil b c)
    have hpattern : ∀ pat, Spared (afterPattern pat) := by
      intro pat
      unfold afterPattern
      refine Spared.bind (quantified_spared ph pat detection) fun conds => ?_
      extract_lets combined
      have hcombined : ∀ u, Spared (combined u) := by
        intro u
        unfold combined
        split
        · exact Spared.bind (Spared.pure _) hbuild
        · exact Spared.bind (Spared.pure _) hbuild
        · exact Spared.bind (Spared.error_of_ne fun _ _ h => RuleError.noConfusion h) hbuild
      split
      · exact Spared.bind (Spared.error_of_ne fun _ _ h => RuleError.noConfusion h) hcombined
      · exact hcombined ()
    split
    · split
      · exact Spared.bind (Spared.pure _) hpattern
      · exact Spared.bind (Spared.error_of_ne fun _ _ h => RuleError.noConfusion h) hpattern
    · exact Spared.bind (Spared.pure _) hpattern

end Steps

/-- On tokens that pass the check after a token of kind `prev`, from a branch that has an operand
whenever `prev` is an operand, the builder never fails with an empty operand. -/
theorem steps_spared {detection : List (Text.Bytes × Value)} {ph : Option Placeholders} :
    ∀ (depth : Nat) (b : Branch) (ts : List Token) {prev : TokenKind}, Checked prev ts →
      (prev.isOperand = true → b.conj ≠ []) → Spared (steps detection ph depth b ts)
  | depth, b, [], prev, hc, hb => by
    -- the check ends after an operand, so the branch has one
    rw [steps, close_of_ne_nil (hb hc)]
    exact Spared.ok _
  | depth, b, ⟨kind, w⟩ :: rest, prev, ⟨hf, hc⟩, hb => by
    -- after an operator the branch may be empty, after an operand it is not
    have hnext : ∀ k : TokenKind, k.isOperand = false → ∀ b' : Branch,
        k.isOperand = true → b'.conj ≠ [] := fun k hk _ h => absurd h (by simp [hk])
    cases kind with
    | identifier =>
      rw [steps]
      dsimp only
      split
      · split
        · exact Spared.error_of_ne fun _ _ h => RuleError.noConfusion h
        · exact Spared.bind (ofEntry_spared ph w _) fun c =>
            steps_spared depth _ rest hc fun _ => push_conj_ne_nil b c
      · exact Spared.error_of_ne fun _ _ h => RuleError.noConfusion h
    | keywordAnd =>
      rw [steps_and]
      exact steps_spared depth b rest hc (hnext _ rfl b)
    | keywordOr =>
      -- `or` may follow only an operand, so the conjunction it closes is not empty
      rw [steps_or w (hb hf)]
      exact steps_spared depth _ rest hc (hnext _ rfl _)
    | keywordNot =>
      rw [steps_not]
      exact steps_spared depth _ rest hc (hnext _ rfl _)
    | quantOne | quantAll =>
      rw [steps]
      exact steps_spared depth _ rest hc (hnext _ rfl _)
    | leftParen =>
      -- the group is built on its own, and the tokens after it follow an operand
      obtain ⟨hin, haft⟩ := group_checked hc
      rw [steps]
      exact Spared.bind (steps_spared (depth + 1) {} _ hin (hnext _ rfl _)) fun c =>
        steps_spared depth (b.push c) _ haft fun _ => push_conj_ne_nil b c
    | them | wildcard =>
      exact steps_target_spared (by simp) fun b' hb' => steps_spared depth b' rest hc fun _ => hb'
    | rightParen =>
      rw [steps_rightParen]
      exact Spared.error_of_ne fun _ _ h => RuleError.noConfusion h
    | error | unsupported | begin | nil | eof | pipe =>
      rw [steps]
      exact Spared.error_of_ne fun _ _ h => RuleError.noConfusion h
termination_by _ _ ts => ts.length
decreasing_by
  all_goals simp only [List.length_cons]
  all_goals try omega
  all_goals
    have := group_length 0 [] rest
    simp only [List.length_nil] at this
    omega


/-- What the sequence check spares the reader and the builder. The reader ends every condition
with the end token, or with a pipe and the unsupported aggregation, after words, quantifiers
and parentheses, and gives no lexical error; so the check fails only at an unsupported token
or at two tokens that cannot follow each other. A group cut from checked tokens is checked
after its `(` whether its `)` or the end closes it, what follows it is checked after a `)`,
and both are shorter than the tokens the group was cut from. On the tokens of every condition
the check accepts, the builder never fails with an empty operand, whatever the detection
section. -/
theorem sequence_check_guards_builder :
    (∀ s : String, ∃ body : List Token, (∀ t ∈ body, t.kind.isRead = true) ∧
      (lex s = body ++ [⟨.eof, ""⟩] ∨
        lex s = body ++ [⟨.pipe, "|"⟩,
          ⟨.unsupported, "aggregation not supported yet [" ++ s ++ "]"⟩])) ∧
    (∀ s : String, ∀ t ∈ lex s, t.kind ≠ .error) ∧
    (∀ (s : String) (e : RuleError), collect s = .error e →
      (∃ detail, e = .unsupportedToken detail) ∨
        ∃ collected prev next, e = .invalidSequence collected prev next) ∧
    (∀ (t : Token) (rest : List Token), Checked .leftParen rest →
      Checked .leftParen (group 0 [] rest).1 ∧ Checked .rightParen (group 0 [] rest).2 ∧
        (group 0 [] rest).1.length < (t :: rest).length ∧
        (group 0 [] rest).2.length < (t :: rest).length) ∧
    (∀ (s : String) (ts : List Token), collect s = .ok ts →
      ∀ detection ph e, steps detection ph 0 {} ts = .error e → ¬ e.EmptyOperand) :=
  ⟨lex_shaped, lex_ne_error, fun _ _ h => collect_error h,
    fun t rest h => ⟨(group_checked h).1, (group_checked h).2, group_shorter t rest⟩,
    fun _ ts h _ _ => steps_spared 0 {} ts (collect_checked h).1 fun h => absurd h (by decide)⟩

/-- `(a or b` leaves its group open, and the builder takes the group up to the end; `a b` is
refused by the check, as two identifiers in a row. -/
theorem sequence_check_guards_builder_open_group :
    collect "(a or b" =
        .ok [⟨.leftParen, "("⟩, ⟨.identifier, "a"⟩, ⟨.keywordOr, "or"⟩, ⟨.identifier, "b"⟩] ∧
      Checked .leftParen [⟨.identifier, "a"⟩, ⟨.keywordOr, "or"⟩, ⟨.identifier, "b"⟩] ∧
      Checked .leftParen
        (group 0 [] [⟨.identifier, "a"⟩, ⟨.keywordOr, "or"⟩, ⟨.identifier, "b"⟩]).1 ∧
      (∀ e, steps [] none 0 {}
          [⟨.leftParen, "("⟩, ⟨.identifier, "a"⟩, ⟨.keywordOr, "or"⟩, ⟨.identifier, "b"⟩] =
        .error e → ¬ e.EmptyOperand) ∧
      collect "a b" = .error (.invalidSequence 1 ⟨.identifier, "a"⟩ ⟨.identifier, "b"⟩) ∧
      ∃ collected prev next, RuleError.invalidSequence 1 ⟨.identifier, "a"⟩ ⟨.identifier, "b"⟩ =
        .invalidSequence collected prev next := by
  have hok : collect "(a or b" =
      .ok [⟨.leftParen, "("⟩, ⟨.identifier, "a"⟩, ⟨.keywordOr, "or"⟩, ⟨.identifier, "b"⟩] := by
    cbv
  have hchecked : Checked .leftParen
      [⟨.identifier, "a"⟩, ⟨.keywordOr, "or"⟩, ⟨.identifier, "b"⟩] := ⟨rfl, rfl, rfl, rfl⟩
  have herr : collect "a b" =
      .error (.invalidSequence 1 ⟨.identifier, "a"⟩ ⟨.identifier, "b"⟩) := by
    cbv
  obtain ⟨-, -, hcheck, hgroup, hbuild⟩ := sequence_check_guards_builder
  refine ⟨hok, hchecked, (hgroup ⟨.leftParen, "("⟩ _ hchecked).1, hbuild _ _ hok [] none, herr, ?_⟩
  rcases hcheck _ _ herr with ⟨_, h⟩ | h
  · cases h
  · exact h

end Build

end SigmaQuery
