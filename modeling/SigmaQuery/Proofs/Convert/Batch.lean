import SigmaQuery.Convert.Backend
import Mathlib.Logic.Relation

/-!
# What a batch of conversions gives

A batch keeps one result per rule, in the order of the rules. Its outputs are those of the
rules that were converted, in order (`outputs_eq`), and its fault gathers the faults of the
other rules, in order, or is absent when every rule was converted (`fault?_eq_none`,
`fault?_eq_batch`). So every rule is counted on exactly one side (`outputs_length_add`).

A fault is unsupported when it is, or wraps, an unsupported token or feature. A batch exposes
its members and a cause with a context exposes the cause, and the search goes down through any
number of such layers (`RuleError.Wraps`): `isUnsupported` answers exactly that
(`isUnsupported_iff_wraps`). The fault of a batch is therefore unsupported exactly when the
fault of one of its rules is, or wraps, an unsupported one (`batch_outcome`).
-/

namespace SigmaQuery

namespace RuleError

/-- The faults a fault exposes to a search through it: the members of a batch, and the cause
behind a context. -/
def unwrap : RuleError → List RuleError
  | .batch errors => errors
  | .context _ cause => [cause]
  | _ => []

/-- A fault is an unsupported token or an unsupported feature itself. -/
def IsUnsupportedKind (e : RuleError) : Prop :=
  (∃ detail, e = .unsupportedToken detail) ∨
    ∃ ruleId feature detail, e = .unsupportedFeature ruleId feature detail

/-- A fault wraps another when it is that fault, or exposes a fault that wraps it. -/
def Wraps : RuleError → RuleError → Prop :=
  Relation.ReflTransGen fun e c => c ∈ e.unwrap

theorem anyUnsupported_iff (es : List RuleError) :
    anyUnsupported es = true ↔ ∃ e ∈ es, e.isUnsupported = true := by
  induction es with
  | nil => simp [anyUnsupported]
  | cons e rest ih => simp [anyUnsupported, ih]

/-- A fault that exposes an unsupported fault is unsupported. -/
theorem isUnsupported_of_mem_unwrap {e c : RuleError} (hc : c ∈ e.unwrap)
    (h : c.isUnsupported = true) : e.isUnsupported = true := by
  cases e with
  | batch errors =>
    rw [isUnsupported, anyUnsupported_iff]
    exact ⟨c, hc, h⟩
  | context place cause =>
    rw [unwrap, List.mem_singleton] at hc
    subst hc
    exact h
  | _ => simp [unwrap] at hc

/-- An unsupported token or feature is unsupported. -/
theorem isUnsupported_of_kind {e : RuleError} (h : e.IsUnsupportedKind) :
    e.isUnsupported = true := by
  rcases h with ⟨_, rfl⟩ | ⟨_, _, _, rfl⟩ <;> rfl

/-- A fault that wraps an unsupported token or feature is unsupported. -/
theorem isUnsupported_of_wraps {e c : RuleError} (hw : e.Wraps c) (hc : c.IsUnsupportedKind) :
    e.isUnsupported = true := by
  induction hw using Relation.ReflTransGen.head_induction_on with
  | refl => exact isUnsupported_of_kind hc
  | head hstep _ ih => exact isUnsupported_of_mem_unwrap hstep ih

mutual

/-- An unsupported fault wraps an unsupported token or feature. -/
theorem wraps_of_isUnsupported : ∀ e : RuleError, e.isUnsupported = true →
    ∃ c, e.Wraps c ∧ c.IsUnsupportedKind
  | .unsupportedToken detail, _ => ⟨_, .refl, .inl ⟨detail, rfl⟩⟩
  | .unsupportedFeature id feature detail, _ => ⟨_, .refl, .inr ⟨id, feature, detail, rfl⟩⟩
  | .batch errors, h => by
    -- the member that is unsupported is exposed by the batch
    obtain ⟨e, he, c, hw, hc⟩ := wraps_of_anyUnsupported errors h
    exact ⟨c, .head he hw, hc⟩
  | .context _ cause, h => by
    obtain ⟨c, hw, hc⟩ := wraps_of_isUnsupported cause h
    exact ⟨c, .head (List.mem_singleton_self cause) hw, hc⟩
  | .malformed .., h | .missingDetection, h | .missingCondition, h | .missingIdentifier _, h
  | .invalidSequence .., h | .invalidSelection .., h | .yamlFile .., h | .yamlFiles _, h
  | .invalidDocument .., h | .plain _, h => by simp [isUnsupported] at h

/-- One of a list of faults wraps an unsupported token or feature when one is unsupported. -/
theorem wraps_of_anyUnsupported : ∀ es : List RuleError, anyUnsupported es = true →
    ∃ e ∈ es, ∃ c, e.Wraps c ∧ c.IsUnsupportedKind
  | [], h => by simp [anyUnsupported] at h
  | e :: rest, h => by
    rw [anyUnsupported, Bool.or_eq_true] at h
    rcases h with h | h
    · exact ⟨e, List.mem_cons_self, wraps_of_isUnsupported e h⟩
    · obtain ⟨e', he', hw⟩ := wraps_of_anyUnsupported rest h
      exact ⟨e', List.mem_cons_of_mem e he', hw⟩

end

/-- A fault is unsupported exactly when it is, or wraps through any number of batches and
contexts, an unsupported token or feature. -/
theorem isUnsupported_iff_wraps (e : RuleError) :
    e.isUnsupported = true ↔ ∃ c, e.Wraps c ∧ c.IsUnsupportedKind :=
  ⟨wraps_of_isUnsupported e, fun ⟨_, hw, hc⟩ => isUnsupported_of_wraps hw hc⟩

end RuleError

namespace Conversion

variable (cs : List Conversion)

/-- The outputs of a batch are those of the converted rules, in order. -/
theorem outputs_eq : outputs cs = (cs.filter (·.error.isNone)).map (·.output) := by
  induction cs with
  | nil => rfl
  | cons c rest ih =>
    cases hc : c.error <;> simp [outputs, hc, ← ih]

/-- A batch has no fault exactly when every rule was converted. -/
theorem fault?_eq_none : fault? cs = none ↔ ∀ c ∈ cs, c.error = none := by
  rw [← List.filterMap_eq_nil_iff]
  unfold fault?
  split <;> simp_all

/-- A batch with a fault gathers the faults of its rules, in order. -/
theorem fault?_eq_batch :
    fault? cs = none ∨ fault? cs = some (.batch (cs.filterMap (·.error))) := by
  unfold fault?
  split
  · exact .inl rfl
  · exact .inr rfl

/-- Each rule of a batch is either among the converted or among the failed. -/
theorem outputs_length_add :
    (outputs cs).length + (cs.filterMap (·.error)).length = cs.length := by
  induction cs with
  | nil => rfl
  | cons c rest ih =>
    cases hc : c.error <;> simp [outputs, hc] at ih ⊢ <;> omega

/-- The fault of a batch is unsupported exactly when one of its rules failed with a fault that
is, or wraps, an unsupported token or feature. -/
theorem fault?_unsupported :
    (fault? cs).any RuleError.isUnsupported = true ↔
      ∃ c ∈ cs, ∃ e, c.error = some e ∧ ∃ u, e.Wraps u ∧ u.IsUnsupportedKind := by
  rcases fault?_eq_batch cs with h | h
  · -- no fault: no rule failed
    rw [h, Option.any_none, Bool.false_eq_true, false_iff]
    rintro ⟨c, hc, e, he, -⟩
    rw [(fault?_eq_none cs).mp h c hc] at he
    cases he
  · rw [h, Option.any_some, RuleError.isUnsupported, RuleError.anyUnsupported_iff]
    constructor
    · rintro ⟨e, he, hu⟩
      obtain ⟨c, hc, hce⟩ := List.mem_filterMap.mp he
      exact ⟨c, hc, e, hce, (RuleError.isUnsupported_iff_wraps e).mp hu⟩
    · rintro ⟨c, hc, e, hce, hw⟩
      exact ⟨e, List.mem_filterMap.mpr ⟨c, hc, hce⟩,
        (RuleError.isUnsupported_iff_wraps e).mpr hw⟩

/-- What a batch of conversions gives: the outputs of the converted rules in order, no fault
exactly when every rule was converted and otherwise the batch of the faults in order, one
side for each rule, and a fault that is unsupported exactly when one rule's fault is, or
wraps, an unsupported token or feature. -/
theorem batch_outcome :
    outputs cs = (cs.filter (·.error.isNone)).map (·.output) ∧
      (fault? cs = none ↔ ∀ c ∈ cs, c.error = none) ∧
      (fault? cs = none ∨ fault? cs = some (.batch (cs.filterMap (·.error)))) ∧
      (outputs cs).length + (cs.filterMap (·.error)).length = cs.length ∧
      ((fault? cs).any RuleError.isUnsupported = true ↔
        ∃ c ∈ cs, ∃ e, c.error = some e ∧ ∃ u, e.Wraps u ∧ u.IsUnsupportedKind) :=
  ⟨outputs_eq cs, fault?_eq_none cs, fault?_eq_batch cs, outputs_length_add cs,
    fault?_unsupported cs⟩

end Conversion

end SigmaQuery
