import SigmaQuery.Proofs.Rule.WellFormed
import SigmaQuery.Proofs.Text.Decoding
import SigmaQuery.Query.Compile

/-!
# What compiling a rule can fail with

The compiler refuses a tree in two ways. A tree of the wrong shape (an empty group, a negation
without operand, a selection without values) is malformed; a selection the query language
cannot write (a regular expression, or a network that is not an IPv4 prefix of whole octets)
is unsupported. A well-formed tree has none of the first kind, so compiling it either succeeds
or stops at a selection of the second kind. Since every rule's tree is well formed, this is
all a rule can fail with, whatever the field mapping.

The proof follows the compiler's recursion with `Settles x sels`: the step `x` succeeds, or
fails as unsupported because of one of the selections `sels`.
-/

namespace SigmaQuery

namespace Query

/-- A network value reaches its term as written: escaping keeps it byte for byte. -/
theorem term_cidr (value : String) : term .cidr value = networkTerm value := by
  rw [term, escapeValue, if_pos (show (Modifier.cidr == Modifier.cidr) = true from rfl),
    Text.lossy_utf8]
  rfl

/-- Whether a value names an IPv4 network by a whole number of octets, one at least: the
networks a query term can match. -/
def OctetAligned (value : String) : Prop :=
  ∃ p octets, Net.parsePrefix (Text.trimBlank value) = .ok p ∧ p.address = .v4 octets ∧
    p.bits ≠ 0 ∧ p.bits % 8 = 0

/-- A network has a term exactly when it is an IPv4 prefix of whole octets. -/
theorem networkTerm_ok_iff {value : String} :
    (∃ t, networkTerm value = .ok t) ↔ OctetAligned value := by
  unfold networkTerm OctetAligned
  split
  · next e he => simp [he]
  · next p hp =>
    split
    · next octets zone haddr => simp [hp, haddr]
    · next octets haddr =>
      split
      · next hbits =>
        simp only [Bool.or_eq_true, beq_iff_eq, bne_iff_ne, ne_eq] at hbits
        simp only [reduceCtorEq, exists_false, false_iff, not_exists, not_and]
        intro p' octets' hp' _ hne hmod
        cases hp.symm.trans hp'
        omega
      · next hbits =>
        simp only [Bool.or_eq_true, beq_iff_eq, bne_iff_ne, ne_eq, not_or, Decidable.not_not] at hbits
        simp [hp, haddr, hbits]

/-- A network without a term is refused as an unsupported `cidr` feature. -/
theorem networkTerm_error {value : String} {e : RuleError} (h : networkTerm value = .error e) :
    ∃ detail, e = .unsupportedFeature "" "cidr" detail := by
  unfold networkTerm at h
  split at h
  · cases h
    exact ⟨_, rfl⟩
  · split at h
    · cases h
      exact ⟨_, rfl⟩
    · split at h
      · cases h
        exact ⟨_, rfl⟩
      · cases h

end Query

/-- Whether a selection holds what no query term can express: a regular expression, or a
network value that is not an IPv4 prefix of whole octets. -/
def Selection.Inexpressible (s : Selection) : Prop :=
  s.modifier = .regex ∨ s.modifier = .cidr ∧ ∃ v ∈ s.values, ¬ Query.OctetAligned v

namespace Query

/-- A step of compilation succeeds, or is refused as unsupported because of one of the
selections `sels`. -/
def Settles {α : Type} (x : Except RuleError α) (sels : List Selection) : Prop :=
  (∃ a, x = .ok a) ∨
    ∃ id feature detail, x = .error (.unsupportedFeature id feature detail) ∧
      ∃ s ∈ sels, s.Inexpressible

namespace Settles

variable {α β : Type} {sels : List Selection}

theorem pure (a : α) : Settles (Pure.pure a : Except RuleError α) sels := .inl ⟨a, rfl⟩

/-- A chain of settled steps is settled: it stops at the first refusal. -/
theorem bind {x : Except RuleError α} {f : α → Except RuleError β} (hx : Settles x sels)
    (hf : ∀ a, Settles (f a) sels) : Settles (x >>= f) sels := by
  rcases hx with ⟨a, rfl⟩ | ⟨id, feature, detail, rfl, hs⟩
  · exact hf a
  · exact .inr ⟨id, feature, detail, rfl, hs⟩

theorem mono {x : Except RuleError α} (h : Settles x sels) {sels' : List Selection}
    (hsub : ∀ s ∈ sels, s ∈ sels') : Settles x sels' := by
  rcases h with hok | ⟨id, feature, detail, he, s, hs, hinex⟩
  · exact .inl hok
  · exact .inr ⟨id, feature, detail, he, s, hsub s hs, hinex⟩

theorem map {x : Except RuleError α} (h : Settles x sels) (f : α → β) :
    Settles (f <$> x) sels := by
  rcases h with ⟨a, rfl⟩ | ⟨id, feature, detail, rfl, hs⟩
  · exact .inl ⟨f a, rfl⟩
  · exact .inr ⟨id, feature, detail, rfl, hs⟩

end Settles

/-- A value under a named modifier has a term, unless the selection is inexpressible. -/
theorem term_settles {s : Selection} (hm : s.modifier ∈ Condition.namedModifiers) {v : String}
    (hv : v ∈ s.values) : Settles (term s.modifier v) [s] := by
  simp only [Condition.namedModifiers, List.mem_cons, List.not_mem_nil, or_false] at hm
  rcases hm with hm | hm | hm | hm | hm | hm
  -- equality, containment and the two anchored matches write the value with wildcards
  · rw [hm]
    exact .inl ⟨_, rfl⟩
  · rw [hm]
    exact .inl ⟨_, rfl⟩
  · rw [hm]
    exact .inl ⟨_, rfl⟩
  · rw [hm]
    exact .inl ⟨_, rfl⟩
  · -- a network value is kept as it is and becomes the term of its prefix, if it has one
    rw [hm, term_cidr]
    cases hn : networkTerm v with
    | ok t => exact .inl ⟨t, rfl⟩
    | error e =>
      obtain ⟨detail, rfl⟩ := networkTerm_error hn
      refine .inr ⟨"", "cidr", detail, rfl, s, List.mem_singleton_self s, .inr ⟨hm, v, hv, ?_⟩⟩
      intro haligned
      obtain ⟨t, ht⟩ := networkTerm_ok_iff.mpr haligned
      rw [hn] at ht
      cases ht
  · -- a regular expression has no term at all
    rw [hm]
    exact .inr ⟨_, _, _, rfl, s, List.mem_singleton_self s, .inl hm⟩

namespace Compiler

/-- The terms of some of a selection's values. -/
theorem terms_settles {s : Selection} (hm : s.modifier ∈ Condition.namedModifiers)
    (pfx : Text.Bytes) :
    ∀ vs : List String, (∀ v ∈ vs, v ∈ s.values) → Settles (terms pfx s.modifier vs) [s]
  | [], _ => .inl ⟨[], rfl⟩
  | v :: rest, hvs => by
    rw [terms]
    refine (term_settles hm (hvs v List.mem_cons_self)).bind fun t => ?_
    refine (terms_settles hm pfx rest fun v hv => hvs v (List.mem_cons_of_mem _ hv)).bind
      fun ts => Settles.pure _

/-- A well-formed selection has a query part, unless it is inexpressible. -/
theorem selection_settles (c : Compiler) {s : Selection} (hs : (Condition.select s).WellFormed) :
    Settles (c.selection s) [s] := by
  obtain ⟨hne, hm⟩ := hs
  rw [selection, if_neg (by simpa using hne)]
  refine (terms_settles hm _ s.values fun v hv => hv).bind fun ts => ?_
  split
  · exact Settles.pure _
  · exact Settles.pure _

mutual

/-- A well-formed tree has a query part, unless one of its selections is inexpressible. -/
theorem lower_settles (c : Compiler) :
    ∀ C : Condition, C.WellFormed → Settles (c.lower C) C.selections
  | .select s, h => by
    rw [lower]
    exact selection_settles c h
  | .and [], h | .and [_], h | .or [], h | .or [_], h => absurd h.1 (by simp)
  | .and (x :: y :: rest), h => by
    rw [lower, group]
    · exact (parts_settles c .conjunction _ h.2).bind fun ps => Settles.pure _
    all_goals simp
  | .or (x :: y :: rest), h => by
    rw [lower, group]
    · exact (parts_settles c .disjunction _ h.2).bind fun ps => Settles.pure _
    all_goals simp
  | .not operand, h => by
    have hop : operand.WellFormed := h
    rw [lower]
    · exact (lower_settles c operand hop).bind fun ⟨inner, st⟩ => Settles.pure _
    · -- a well-formed negation has an operand, so `lower` takes its second branch
      rintro rfl
      exact hop
  | .missing, h => h.elim

/-- Well-formed branches have query parts, unless one of their selections is inexpressible. -/
theorem parts_settles (c : Compiler) (outer : Strength) :
    ∀ items : List Condition, Condition.AllWellFormed items →
      Settles (c.parts outer items) (Condition.selectionsAll items)
  | [], _ => .inl ⟨[], by rw [parts]⟩
  | C :: rest, h => by
    rw [parts]
    refine ((lower_settles c C h.1).mono fun s hs => ?_).bind fun ⟨text, st⟩ => ?_
    · simp [Condition.selectionsAll, hs]
    refine ((parts_settles c outer rest h.2).mono fun s hs => ?_).bind fun more => Settles.pure _
    simp [Condition.selectionsAll, hs]

end

end Compiler

end Query

namespace Rule

/-- Every rule's tree is well formed, and compiling it under any field mapping either succeeds
or is refused as unsupported because one of its selections is inexpressible; a rule never
compiles to a malformed query. -/
theorem root_wellFormed_compiles {raw : RawRule} {multipart : Bool} {path : String}
    {ph : Option Placeholders} {r : Rule} (h : ofRaw raw multipart path ph = .ok r) :
    r.root.WellFormed ∧ ∀ c : Query.Compiler,
      (∃ q, c.compile r.root = .ok q) ∨
        ∃ id feature detail, c.compile r.root = .error (.unsupportedFeature id feature detail) ∧
          ∃ s ∈ r.root.selections, s.Inexpressible := by
  have hwf := ofRaw_wellFormed h
  refine ⟨hwf, fun c => ?_⟩
  exact (c.lower_settles r.root hwf).map _

/-- A rule negating a selection of a twelve-bit network builds; its tree is well formed, and
compiling it succeeds or is refused as unsupported. -/
theorem root_wellFormed_compiles_network :
    ∃ r, ofRaw { detection := some [(Text.utf8 "sel",
          .map [(Text.utf8 "src|cidr", .text "10.0.0.0/12")]),
        (Text.utf8 "condition", .text "not sel")] } false "" none = .ok r ∧
      r.root.WellFormed ∧ ∀ c : Query.Compiler,
        (∃ q, c.compile r.root = .ok q) ∨
          ∃ id feature detail, c.compile r.root = .error (.unsupportedFeature id feature detail) ∧
            ∃ s ∈ r.root.selections, s.Inexpressible :=
  have h := ofRaw_of_build (by cbv) rfl (by cbv) (by cbv) (by cbv)
  ⟨_, h, root_wellFormed_compiles h⟩

end Rule

end SigmaQuery
