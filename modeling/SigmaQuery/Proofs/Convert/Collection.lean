import SigmaQuery.Convert.Pool

/-!
# A collection converted by workers

Whatever the schedule, a pool of workers converts a collection as the plain loop does, provided
no worker is left in the middle of a conversion when the pool returns.

The invariant `Pool.Owes` carries the proof: every slot written holds its own rule's result,
and each index is, exactly once, written, held by a worker, or still in the channel. A step of
any worker keeps it (`owes_step`), so every schedule does (`owes_run`); once no worker holds an
index, the drain writes what is left in the channel, after which every index has been written
exactly once (`written_drain_perm`) and every slot holds its result (`slots_drain`). So the
pooled conversion is the sequential one (`convertPooled_eq_convertAll`).
-/

namespace SigmaQuery

namespace Pool

variable {convert : Nat → Conversion} {n : Nat} {p : Pool}

/-! ### Indices in hand -/

/-- The indices the workers hold. -/
def held (p : Pool) : List Nat := p.holding.filterMap id

/-- Replacing what one worker holds: the indices held before and after differ by exactly what
was replaced. -/
theorem filterMap_set_perm {l : List (Option Nat)} {w : Nat} {a : Option Nat} (b : Option Nat)
    (h : l[w]? = some a) :
    (a.toList ++ (l.set w b).filterMap id).Perm (b.toList ++ l.filterMap id) := by
  induction l generalizing w with
  | nil => simp at h
  | cons x xs ih =>
    cases w with
    | zero =>
      simp only [List.getElem?_cons_zero, Option.some.injEq] at h
      subst h
      cases x <;> cases b <;> simp [List.Perm.swap]
    | succ w =>
      simp only [List.getElem?_cons_succ] at h
      cases x with
      | none => simpa using ih h
      | some y =>
        simp only [List.set_cons_succ]
        exact List.perm_middle.trans (((ih h).cons y).trans List.perm_middle.symm)

theorem held_eq_nil (h : p.Idle) : p.held = [] :=
  List.filterMap_eq_nil_iff.mpr h

/-! ### The invariant -/

/-- There are `n` slots, and the slot of every index written holds that index's result. -/
structure Filled (convert : Nat → Conversion) (n : Nat) (p : Pool) : Prop where
  length_slots : p.slots.length = n
  slot_written : ∀ i ∈ p.written, p.slots[i]? = some (convert i)

/-- The pool's invariant: the slots are filled as far as written, and every index below `n`
is, exactly once, written, held by a worker, or still in the channel. -/
structure Owes (convert : Nat → Conversion) (n : Nat) (p : Pool) : Prop
    extends Filled convert n p where
  perm : (p.written ++ p.held ++ p.pending).Perm (List.range n)

theorem Owes.lt (h : p.Owes convert n) {i : Nat} (hi : i ∈ p.written ++ p.held ++ p.pending) :
    i < n := by
  simpa using h.perm.subset hi

/-- Writing an index's result keeps every written slot right, the earlier ones included: an
index written again gets the same result. -/
theorem Filled.write (h : p.Filled convert n) {i : Nat} (hi : i < n) :
    (p.write convert i).Filled convert n where
  length_slots := by simp [Pool.write, h.length_slots]
  slot_written := by
    intro j hj
    simp only [Pool.write, List.mem_append, List.mem_singleton] at hj ⊢
    rw [List.getElem?_set]
    by_cases hij : i = j
    · subst hij
      simp [h.length_slots, hi]
    · rcases hj with hj | rfl
      · simpa [hij] using h.slot_written j hj
      · exact absurd rfl hij

theorem owes_start (k : Nat) : (start n k).Owes convert n where
  length_slots := by simp [start]
  slot_written := by simp [start]
  perm := by simp [start, held]

/-- A worker taking the next index moves it from the channel into its hand. -/
theorem Owes.take (h : p.Owes convert n) {w i : Nat} {rest : List Nat}
    (hw : p.holding[w]? = some none) (hp : p.pending = i :: rest) :
    Owes convert n { p with pending := rest, holding := p.holding.set w (some i) } where
  toFilled := ⟨h.length_slots, h.slot_written⟩
  perm := by
    have hheld : ((p.holding.set w (some i)).filterMap id).Perm (i :: p.held) := by
      simpa [held] using filterMap_set_perm (some i) hw
    have hmoved : (p.written ++ (i :: p.held) ++ rest).Perm (p.written ++ p.held ++ p.pending) := by
      rw [hp]
      simp only [List.append_assoc, List.cons_append]
      exact (List.perm_middle.append_left _).symm
    exact ((hheld.append_left _).append_right _).trans (hmoved.trans h.perm)

/-- A worker finishing its index moves it from its hand to the written indices. -/
theorem Owes.finish (h : p.Owes convert n) {w i : Nat} (hw : p.holding[w]? = some (some i)) :
    Owes convert n { p.write convert i with holding := p.holding.set w none } := by
  have hheld : (i :: (p.holding.set w none).filterMap id).Perm p.held := by
    simpa [held] using filterMap_set_perm none hw
  have hi : i < n := h.lt (by simp [hheld.symm.mem_iff])
  have hfilled := h.toFilled.write hi
  refine ⟨⟨hfilled.length_slots, hfilled.slot_written⟩, ?_⟩
  have hmoved : (p.written ++ [i] ++ (p.holding.set w none).filterMap id ++ p.pending).Perm
      (p.written ++ p.held ++ p.pending) := by
    simp only [List.append_assoc, List.singleton_append]
    exact (hheld.append_right _).append_left _
  exact hmoved.trans h.perm

/-- Every step of every worker keeps the invariant. -/
theorem owes_step (h : p.Owes convert n) (w : Nat) : (p.step convert w).Owes convert n := by
  unfold step
  split
  case h_1 hw =>
    split
    case h_1 i rest hp => exact h.take hw hp
    case h_2 => exact h
  case h_2 i hw => exact h.finish hw
  case h_3 => exact h

/-- Every schedule keeps the invariant. -/
theorem owes_run (h : p.Owes convert n) (schedule : List Nat) :
    (p.run convert schedule).Owes convert n := by
  induction schedule generalizing p with
  | nil => exact h
  | cons w ws ih => exact ih (owes_step h w)

/-! ### The drain -/

theorem written_foldl_write (l : List Nat) (p : Pool) :
    (l.foldl (Pool.write convert) p).written = p.written ++ l := by
  induction l generalizing p with
  | nil => simp
  | cons i l ih => simp [ih, Pool.write]

theorem Filled.foldl_write (h : p.Filled convert n) {l : List Nat} (hl : ∀ i ∈ l, i < n) :
    (l.foldl (Pool.write convert) p).Filled convert n := by
  induction l generalizing p with
  | nil => exact h
  | cons i l ih =>
    exact ih (h.write (hl i (by simp))) fun j hj => hl j (by simp [hj])

theorem written_drain (p : Pool) : (p.drain convert).written = p.written ++ p.pending :=
  written_foldl_write p.pending _

/-- Once no worker holds an index, the pool and its drain have written each index exactly
once. -/
theorem written_drain_perm (h : p.Owes convert n) (hidle : p.Idle) :
    (p.drain convert).written.Perm (List.range n) := by
  have hperm := h.perm
  rw [held_eq_nil hidle, List.append_nil] at hperm
  rwa [written_drain]

-- The first of two workers converts two indices and the second never starts; the drain
-- converts the third.
example : (drain (fun _ => default) (run (fun _ => default) (start 3 2) [0, 0, 0, 0])).written =
    [0, 1, 2] := by decide

-- A worker stopped with an index in hand: nothing converts that index.
example : (drain (fun _ => default) (run (fun _ => default) (start 2 2) [0])).written = [1] := by
  decide

theorem filled_drain (h : p.Owes convert n) : (p.drain convert).Filled convert n := by
  have hstart : Filled convert n { p with pending := [] } := ⟨h.length_slots, h.slot_written⟩
  have hpending : ∀ i ∈ p.pending, i < n := fun i hi => h.lt (by simp [hi])
  exact hstart.foldl_write hpending

/-- Slots filled as far as written, once every index is written, hold every result in
order. -/
theorem Filled.slots_eq (h : p.Filled convert n) (hw : p.written.Perm (List.range n)) :
    p.slots = (List.range n).map convert := by
  apply List.ext_getElem?
  intro i
  by_cases hi : i < n
  · have hmem : i ∈ p.written := hw.symm.subset (List.mem_range.mpr hi)
    simp [h.slot_written i hmem, hi]
  · have hlen : p.slots.length ≤ i := by rw [h.length_slots]; omega
    simp [List.getElem?_eq_none hlen, hi]

theorem slots_drain (h : p.Owes convert n) (hidle : p.Idle) :
    (p.drain convert).slots = (List.range n).map convert :=
  (filled_drain h).slots_eq (written_drain_perm h hidle)

end Pool

namespace Backend

variable {b : Backend} {rules : List (Option Rule)} {mode : OutputMode} {schedule : List Nat}

theorem convertAll_eq_map_range :
    b.convertAll rules mode = (List.range rules.length).map (b.conversionAt rules mode) := by
  apply List.ext_getElem
  · simp [convertAll]
  · intro i h₁ h₂
    have hi : i < rules.length := by simpa using h₂
    simp [convertAll, conversionAt, List.getElem_zipIdx, List.getElem?_eq_getElem hi]

@[simp] theorem length_convertAll : (b.convertAll rules mode).length = rules.length := by
  simp [convertAll]

theorem getElem?_convertAll {i : Nat} (hi : i < rules.length) :
    (b.convertAll rules mode)[i]? = some (b.conversion mode rules[i] i) := by
  simp [convertAll_eq_map_range, conversionAt, hi]

/-- The result for a position carries the position, the rule's identifier, and the outcome of
converting the rule, with an empty output beside a fault. -/
theorem conversion_fields (rule : Option Rule) (i : Nat) :
    (b.conversion mode rule i).index = i ∧
    (b.conversion mode rule i).ruleId = (rule.map fun r => Text.lossy r.metadata.id).getD "" ∧
    ((b.conversion mode rule i).output, (b.conversion mode rule i).error) =
      (match b.convert rule mode with
        | .ok o => ((o, none) : Output × Option RuleError)
        | .error e => ({}, some e)) := by
  cases h : b.convert rule mode <;> simp [conversion, h]

theorem owes_poolAfter :
    (b.poolAfter rules mode schedule).Owes (b.conversionAt rules mode) rules.length :=
  Pool.owes_run (Pool.owes_start _) schedule

/-- Under every schedule after which no worker is in the middle of a conversion, the pooled
conversion of a collection is the sequential one. -/
theorem convertPooled_eq_convertAll (hidle : (b.poolAfter rules mode schedule).Idle) :
    b.convertPooled rules mode schedule = b.convertAll rules mode := by
  unfold convertPooled
  split
  case isTrue => rfl
  case isFalse =>
    rw [Pool.slots_drain owes_poolAfter hidle, convertAll_eq_map_range]

/-- Whatever the number of workers and however they interleave, converting a collection gives
one result per rule, in the rules' order, each with its position, its rule's identifier and the
outcome of converting that rule alone; it is what the plain loop gives, and the pool and its
drain convert every position exactly once. The one assumption is that the pool returns with no
worker in the middle of a conversion. -/
theorem pooled_conversion_is_sequential (hidle : (b.poolAfter rules mode schedule).Idle) :
    b.convertPooled rules mode schedule = b.convertAll rules mode ∧
    (Pool.drain (b.conversionAt rules mode) (b.poolAfter rules mode schedule)).written.Perm
      (List.range rules.length) ∧
    (b.convertPooled rules mode schedule).length = rules.length ∧
    ∀ (i : Nat) (hi : i < rules.length), ∃ c, (b.convertPooled rules mode schedule)[i]? = some c ∧
      c.index = i ∧ c.ruleId = (rules[i].map fun r => Text.lossy r.metadata.id).getD "" ∧
      (c.output, c.error) = (match b.convert rules[i] mode with
        | .ok o => ((o, none) : Output × Option RuleError)
        | .error e => ({}, some e)) := by
  have heq := convertPooled_eq_convertAll hidle
  refine ⟨heq, Pool.written_drain_perm owes_poolAfter hidle, by simp [heq], ?_⟩
  intro i hi
  exact ⟨_, heq ▸ getElem?_convertAll hi, conversion_fields _ i⟩

/-- Two workers over three rules, where the first worker converts two rules and the second
never starts: the drain converts the third. -/
theorem pooled_conversion_is_sequential_second_worker_idle :
    (Backend.poolAfter { compiler := {}, workers := 2, checked := false } [none, none, none]
      .query [0, 0, 0, 0]).Idle ∧
    Backend.convertPooled { compiler := {}, workers := 2, checked := false } [none, none, none]
      .query [0, 0, 0, 0] =
      Backend.convertAll { compiler := {}, workers := 2, checked := false } [none, none, none]
        .query := by
  have hidle : (Backend.poolAfter { compiler := {}, workers := 2, checked := false }
      [none, none, none] .query [0, 0, 0, 0]).Idle := by decide
  exact ⟨hidle, (pooled_conversion_is_sequential hidle).1⟩

end Backend

end SigmaQuery
