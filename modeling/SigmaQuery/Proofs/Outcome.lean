/-!
# Outcomes of steps that can fail

The model's functions that can fail return `Except`: a chain of steps succeeds exactly when each
step does, and then with what the last step gives. These lemmas let a proof take a successful
chain apart one step at a time instead of unfolding the monad.
-/

namespace SigmaQuery

variable {ε α β : Type}

/-- A chain succeeds when its first step does and the rest succeeds on that result. -/
theorem bind_eq_ok {x : Except ε α} {f : α → Except ε β} {b : β} :
    x >>= f = .ok b ↔ ∃ a, x = .ok a ∧ f a = .ok b := by
  cases x <;> simp [bind, Except.bind]

/-- A chain whose first step is taken in either branch of a choice, with the same rest after
both, succeeds when the chosen step does and the rest succeeds on its result. -/
theorem bind_ite_eq_ok {p : Prop} [Decidable p] {x y : Except ε α} {k : α → Except ε β} {b : β}
    (h : (if p then x >>= k else y >>= k) = .ok b) :
    ∃ a, (if p then x else y) = .ok a ∧ k a = .ok b := by
  by_cases hp : p
  · rw [if_pos hp] at h ⊢
    exact bind_eq_ok.mp h
  · rw [if_neg hp] at h ⊢
    exact bind_eq_ok.mp h

/-- A mapped step succeeds when the step does. -/
theorem map_eq_ok {x : Except ε α} {f : α → β} {b : β} :
    f <$> x = .ok b ↔ ∃ a, x = .ok a ∧ f a = b := by
  cases x <;> simp [Functor.map, Except.map]

/-- A chain fails with the first failure of its steps. -/
theorem bind_eq_error {x : Except ε α} {f : α → Except ε β} {e : ε} :
    x >>= f = .error e ↔ x = .error e ∨ ∃ a, x = .ok a ∧ f a = .error e := by
  cases x <;> simp [bind, Except.bind]

/-- Every result of a successful map over a list is the result of one of its items. -/
theorem mem_of_mapM_eq_ok {f : α → Except ε β} {xs : List α} {ys : List β}
    (h : xs.mapM f = .ok ys) : ∀ y ∈ ys, ∃ x ∈ xs, f x = .ok y := by
  induction xs generalizing ys with
  | nil =>
    cases h
    simp
  | cons x rest ih =>
    rw [List.mapM_cons, bind_eq_ok] at h
    obtain ⟨y', hy', h⟩ := h
    rw [bind_eq_ok] at h
    obtain ⟨ys', hys', h⟩ := h
    cases h
    intro y hy
    rcases List.mem_cons.mp hy with rfl | hy
    · exact ⟨x, List.mem_cons_self, hy'⟩
    · obtain ⟨x', hx', hfx⟩ := ih hys' y hy
      exact ⟨x', List.mem_cons_of_mem _ hx', hfx⟩

/-- A chain whose result is some value succeeded with it. -/
theorem eq_ok_of_toOption {x : Except ε α} {a : α} (h : x.toOption = some a) : x = .ok a := by
  cases x <;> simp_all [Except.toOption]

end SigmaQuery
