import SigmaQuery.Proofs.Query.Failures

/-!
# Which fault a compilation reports

A condition tree can be at fault in five ways: a missing branch, a conjunction or disjunction
without branches, a negation without operand, a selection without values, and a value that has
no term, because its modifier has none or because it is a network that is not an IPv4 prefix of
whole octets. The first four are faults of the tree's shape and are refused as malformed; the
last is refused as a feature the query language does not support.

`Condition.defects` lists the faults of a tree in the order of a depth-first walk from the left:
a node's own fault before those below it, and a selection's lack of values before its values,
in order. Compiling fails exactly when the list is not empty, and then with the error of its
first fault (`compile_fails_at_first_defect`); a failed compilation gives no query at all.

The proof follows the compiler's recursion with `FailsAtFirst x ds`: the step `x` succeeds when
there is no fault in `ds`, and otherwise fails with the error of the first one. Steps chained
one after the other fail at the first of their faults taken in turn.
-/

namespace SigmaQuery

/-- A fault of a condition tree, as compiling the tree reports it. -/
inductive Defect where
  /-- A missing branch. -/
  | missing
  /-- A group without branches, named by its connective (`and`, `or`). -/
  | emptyGroup (op : String)
  /-- A negation whose operand is missing. -/
  | negationWithoutOperand
  /-- A selection without values, on a field. -/
  | noValues (field : Text.Bytes)
  /-- A value that has no term under a modifier, with the error that says why. -/
  | noTerm (m : Modifier) (value : String) (e : RuleError)

namespace Defect

/-- The error a fault is reported with. -/
def error : Defect → RuleError
  | missing => .malformed "" "missing condition node"
  | emptyGroup op => .malformed "" ("empty " ++ op ++ " group")
  | negationWithoutOperand => .malformed "" "negation without operand"
  | noValues field =>
    .malformed "" ("selection on field " ++ Text.quoteBytes field ++ " has no values")
  | noTerm _ _ e => e

end Defect

namespace Query

/-- Whether a value has no term under a modifier: the modifier is not one of equality,
containment, the two anchored matches and networks, or the value is a network that is not an
IPv4 prefix of whole octets. -/
def Unwritable (m : Modifier) (value : String) : Prop :=
  m ∉ [.equals, .contains, .startsWith, .endsWith, .cidr] ∨
    (m = .cidr ∧ ¬ OctetAligned value)

/-- A value has no term exactly when it is unwritable. -/
theorem term_error_iff {m : Modifier} {value : String} :
    (∃ e, term m value = .error e) ↔ Unwritable m value := by
  cases m with
  | cidr =>
    rw [term_cidr, Unwritable, ← networkTerm_ok_iff]
    cases networkTerm value <;> simp
  | regex => simp [term, expand, Unwritable]
  | unknown n => simp [term, expand, Unwritable]
  | _ => simp [term, expand, Unwritable]

/-- A value without a term is refused as an unsupported feature. -/
theorem term_error_unsupported {m : Modifier} {value : String} {e : RuleError}
    (h : term m value = .error e) :
    ∃ feature detail, e = .unsupportedFeature "" feature detail := by
  cases m with
  | cidr =>
    obtain ⟨detail, rfl⟩ := networkTerm_error (term_cidr value ▸ h)
    exact ⟨_, _, rfl⟩
  | regex | unknown _ =>
    simp only [term, expand, Except.error.injEq] at h
    exact ⟨_, _, h.symm⟩
  | _ => simp [term, expand] at h

end Query

namespace Defect

/-- What a fault is refused as: a value without a term is unwritable and refused as an
unsupported feature, and every fault of shape is refused as malformed. -/
def Explained : Defect → Prop
  | noTerm m value e =>
    Query.Unwritable m value ∧ ∃ feature detail, e = .unsupportedFeature "" feature detail
  | d => ∃ detail, d.error = .malformed "" detail

end Defect

namespace Condition

/-- The faults of a selection's values under its modifier: the values without a term, in
order. -/
def valueDefects (m : Modifier) : List String → List Defect
  | [] => []
  | v :: rest =>
    match Query.term m v with
    | .ok _ => valueDefects m rest
    | .error e => .noTerm m v e :: valueDefects m rest

mutual

/-- The faults of a tree in depth-first order from the left, each node's own before those of
the branches below it. -/
def defects : Condition → List Defect
  | .and items => (if items.isEmpty then [.emptyGroup "and"] else []) ++ defectsAll items
  | .or items => (if items.isEmpty then [.emptyGroup "or"] else []) ++ defectsAll items
  | .not .missing => .negationWithoutOperand :: defects .missing
  | .not operand => defects operand
  | .select s =>
    (if s.values.isEmpty then [.noValues s.field] else []) ++ valueDefects s.modifier s.values
  | .missing => [.missing]

/-- The faults of branches, those of each branch in turn. -/
def defectsAll : List Condition → List Defect
  | [] => []
  | c :: rest => defects c ++ defectsAll rest

end

/-- A negation of a present operand has the operand's faults. -/
theorem defects_not {operand : Condition} (h : operand ≠ .missing) :
    (Condition.not operand).defects = operand.defects := by
  rw [defects]
  exact h

/-- Every fault of a selection's values is a value without a term. -/
theorem term_of_mem_valueDefects {m : Modifier} :
    ∀ {vs : List String} {d : Defect}, d ∈ valueDefects m vs →
      ∃ v e, d = .noTerm m v e ∧ Query.term m v = .error e
  | [], _, h => by simp [valueDefects] at h
  | v :: rest, d, h => by
    unfold valueDefects at h
    split at h
    · exact term_of_mem_valueDefects h
    · next e he =>
      rcases List.mem_cons.mp h with rfl | h
      · exact ⟨v, e, rfl, he⟩
      · exact term_of_mem_valueDefects h

/-- The faults a selection's values have are explained. -/
theorem explained_of_mem_valueDefects {m : Modifier} {vs : List String} {d : Defect}
    (h : d ∈ valueDefects m vs) : d.Explained := by
  obtain ⟨v, e, rfl, he⟩ := term_of_mem_valueDefects h
  exact ⟨Query.term_error_iff.mp ⟨e, he⟩, Query.term_error_unsupported he⟩

/-- A fault a node has on a condition is explained when the one it may add is. -/
theorem explained_of_mem_ite {p : Prop} [Decidable p] {d d' : Defect}
    (h : d ∈ if p then [d'] else []) (hd' : d'.Explained) : d.Explained := by
  split at h
  · rw [List.mem_singleton.mp h]
    exact hd'
  · simp at h

mutual

/-- Every fault of a tree is explained. -/
theorem explained_of_mem_defects : ∀ {C : Condition} {d : Defect}, d ∈ C.defects → d.Explained
  | .and items, d, h | .or items, d, h => by
    simp only [defects, List.mem_append] at h
    rcases h with h | h
    · exact explained_of_mem_ite h ⟨_, rfl⟩
    · exact explained_of_mem_defectsAll h
  | .not operand, d, h => by
    by_cases hm : operand = .missing
    · subst hm
      simp only [defects, List.mem_cons, List.not_mem_nil, or_false] at h
      rcases h with rfl | rfl <;> exact ⟨_, rfl⟩
    · rw [defects_not hm] at h
      exact explained_of_mem_defects h
  | .select s, d, h => by
    simp only [defects, List.mem_append] at h
    rcases h with h | h
    · exact explained_of_mem_ite h ⟨_, rfl⟩
    · exact explained_of_mem_valueDefects h
  | .missing, d, h => by
    rw [List.mem_singleton.mp h]
    exact ⟨_, rfl⟩

/-- Every fault of branches is explained. -/
theorem explained_of_mem_defectsAll : ∀ {cs : List Condition} {d : Defect},
    d ∈ defectsAll cs → d.Explained
  | [], d, h => by simp [defectsAll] at h
  | c :: rest, d, h => by
    rcases List.mem_append.mp h with h | h
    · exact explained_of_mem_defects h
    · exact explained_of_mem_defectsAll h

end

end Condition

namespace Query

/-- A step fails at the first of the faults `ds`: it succeeds when there are none, and fails
with the error of the first one otherwise. -/
def FailsAtFirst {α : Type} (x : Except RuleError α) : List Defect → Prop
  | [] => ∃ a, x = .ok a
  | d :: _ => x = .error d.error

namespace FailsAtFirst

variable {α β : Type}

theorem pure (a : α) : FailsAtFirst (Pure.pure a : Except RuleError α) [] := ⟨a, rfl⟩

/-- A step that fails with the error of a fault fails at the first of that fault and any
after it. -/
theorem error (d : Defect) (ds : List Defect) :
    FailsAtFirst (.error d.error : Except RuleError α) (d :: ds) := rfl

/-- Two steps one after the other fail at the first of the first step's faults, or, when it
has none, at the first of the second's. -/
theorem bind {x : Except RuleError α} {f : α → Except RuleError β} {ds ds' : List Defect}
    (hx : FailsAtFirst x ds) (hf : ∀ a, x = .ok a → FailsAtFirst (f a) ds') :
    FailsAtFirst (x >>= f) (ds ++ ds') := by
  cases ds with
  | nil =>
    obtain ⟨a, rfl⟩ := hx
    exact hf a rfl
  | cons d ds =>
    change x = .error d.error at hx
    subst hx
    rfl

/-- A step followed by one that cannot fail fails at the first step's faults. -/
theorem bind_ok {x : Except RuleError α} {f : α → Except RuleError β} {ds : List Defect}
    (hx : FailsAtFirst x ds) (hf : ∀ a, FailsAtFirst (f a) []) : FailsAtFirst (x >>= f) ds := by
  simpa using hx.bind fun a _ => hf a

theorem map {x : Except RuleError α} {ds : List Defect} (h : FailsAtFirst x ds) (f : α → β) :
    FailsAtFirst (f <$> x) ds := by
  cases ds with
  | nil =>
    obtain ⟨a, rfl⟩ := h
    exact ⟨f a, rfl⟩
  | cons d ds =>
    change x = .error d.error at h
    subst h
    rfl

/-- What failing at the first fault says of a step's outcome. -/
theorem ok_iff {x : Except RuleError α} {ds : List Defect} (h : FailsAtFirst x ds) :
    (∃ a, x = .ok a) ↔ ds = [] := by
  cases ds with
  | nil => exact iff_of_true h rfl
  | cons d ds =>
    change x = .error d.error at h
    simp [h]

theorem error_iff {x : Except RuleError α} {ds : List Defect} (h : FailsAtFirst x ds)
    (e : RuleError) : x = .error e ↔ ∃ d rest, ds = d :: rest ∧ d.error = e := by
  cases ds with
  | nil =>
    obtain ⟨a, rfl⟩ := h
    simp
  | cons d ds =>
    change x = .error d.error at h
    simp [h, eq_comm]

end FailsAtFirst

namespace Compiler

variable (c : Compiler)

/-- The terms of values fail at the first value without a term. -/
theorem terms_failsAtFirst (pfx : Text.Bytes) (m : Modifier) :
    ∀ vs : List String, FailsAtFirst (terms pfx m vs) (Condition.valueDefects m vs)
  | [] => FailsAtFirst.pure []
  | v :: rest => by
    rw [terms, Condition.valueDefects]
    cases ht : term m v with
    | ok t =>
      -- a value with a term adds no fault, and the rest decides
      exact (terms_failsAtFirst pfx m rest).bind_ok fun ts => FailsAtFirst.pure _
    | error e => exact FailsAtFirst.error (.noTerm m v e) _

/-- A selection fails when it has no values, and otherwise at its first value without a term. -/
theorem selection_failsAtFirst (s : Selection) :
    FailsAtFirst (c.selection s) (Condition.select s).defects := by
  rw [selection, Condition.defects]
  by_cases hs : s.values.isEmpty
  · rw [if_pos hs, if_pos hs]
    exact FailsAtFirst.error (.noValues s.field) _
  · rw [if_neg hs, if_neg hs, List.nil_append]
    exact (terms_failsAtFirst (c.fieldPrefix s) s.modifier s.values).bind_ok
      fun ts => by split <;> exact FailsAtFirst.pure _

mutual

/-- Lowering a tree fails at the first of its faults. -/
theorem lower_failsAtFirst : ∀ C : Condition, FailsAtFirst (c.lower C) C.defects
  | .select s => by
    rw [lower]
    exact selection_failsAtFirst c s
  | .and [] => by
    rw [lower, group, Condition.defects, Condition.defectsAll]
    exact FailsAtFirst.error (.emptyGroup "and") []
  | .or [] => by
    rw [lower, group, Condition.defects, Condition.defectsAll]
    exact FailsAtFirst.error (.emptyGroup "or") []
  -- a group of one branch is the branch
  | .and [x] | .or [x] => by
    rw [lower, group, Condition.defects, Condition.defectsAll, Condition.defectsAll]
    simpa using lower_failsAtFirst x
  | .and (x :: y :: rest) => by
    rw [lower, group, Condition.defects, if_neg (by simp), List.nil_append]
    · exact (parts_failsAtFirst .conjunction _).bind_ok fun ps => FailsAtFirst.pure _
    all_goals simp
  | .or (x :: y :: rest) => by
    rw [lower, group, Condition.defects, if_neg (by simp), List.nil_append]
    · exact (parts_failsAtFirst .disjunction _).bind_ok fun ps => FailsAtFirst.pure _
    all_goals simp
  | .not operand => by
    by_cases hm : operand = .missing
    · subst hm
      rw [lower, Condition.defects]
      exact FailsAtFirst.error .negationWithoutOperand _
    · rw [lower, Condition.defects_not hm]
      · exact (lower_failsAtFirst operand).bind_ok fun _ => FailsAtFirst.pure _
      · exact hm
  | .missing => by
    rw [lower, Condition.defects]
    exact FailsAtFirst.error .missing []

/-- Lowering branches one after the other fails at the first of their faults. -/
theorem parts_failsAtFirst (outer : Strength) :
    ∀ items : List Condition, FailsAtFirst (c.parts outer items) (Condition.defectsAll items)
  | [] => by
    rw [parts, Condition.defectsAll]
    exact FailsAtFirst.pure []
  | x :: rest => by
    rw [parts, Condition.defectsAll]
    refine (lower_failsAtFirst x).bind fun _ _ => ?_
    exact (parts_failsAtFirst outer rest).bind_ok fun _ => FailsAtFirst.pure _

end

/-- Compiling a tree fails exactly when it has a fault, and then with the error of the first
fault met in a depth-first walk from the left. Each fault is explained: a value without a term
is refused as an unsupported feature, because its modifier has no terms or because it is a
network that is not an IPv4 prefix of whole octets, and every other fault as malformed. -/
theorem compile_fails_at_first_defect (C : Condition) :
    ((∃ q, c.compile C = .ok q) ↔ C.defects = []) ∧
      (∀ e, c.compile C = .error e ↔ ∃ d ds, C.defects = d :: ds ∧ d.error = e) ∧
      ∀ d ∈ C.defects, d.Explained := by
  have h : FailsAtFirst (c.compile C) C.defects := (lower_failsAtFirst c C).map _
  exact ⟨h.ok_iff, h.error_iff, fun _ hd => Condition.explained_of_mem_defects hd⟩

/-- A conjunction of a regular expression and a negation without operand has three faults, and
compiling it reports the first, the unsupported regular expression, though a malformed
negation follows. -/
theorem compile_fails_at_first_defect_regex :
    (Condition.and [.select ⟨Text.utf8 "a", .regex, ["x"]⟩, .not .missing]).defects =
        [.noTerm .regex "x" (.unsupportedFeature "" "modifier re" "value x"),
          .negationWithoutOperand, .missing] ∧
      Compiler.compile {} (.and [.select ⟨Text.utf8 "a", .regex, ["x"]⟩, .not .missing]) =
        .error (.unsupportedFeature "" "modifier re" "value x") :=
  have hd : (Condition.and [.select ⟨Text.utf8 "a", .regex, ["x"]⟩, .not .missing]).defects =
      [.noTerm .regex "x" (.unsupportedFeature "" "modifier re" "value x"),
        .negationWithoutOperand, .missing] := by
    cbv
  ⟨hd, ((compile_fails_at_first_defect {} _).2.1 _).mpr ⟨_, _, hd, rfl⟩⟩

end Compiler

end Query

end SigmaQuery
