import SigmaQuery.Proofs.Outcome
import SigmaQuery.Proofs.Query.Reading
import SigmaQuery.Proofs.Rule.WellFormed

/-!
# Compiled queries read back as their conditions

The compiler writes parentheses only where a part binds less tightly than the operator it
stands under. That is exactly enough for a reader that knows how `NOT`, `AND` and `OR` bind:
reading a compiled query gives back `normalize` of its tree, in which a group nested in a
group of the same connective is flattened into it, a group of one branch is that branch, and a
selection is its one term, or the disjunction of its terms. This holds whenever every term the
selections are written as reads as one term (`IsTerm`).

The proof follows the compiler's recursion. `ReadsBack q s t` says how a part `q` of strength
`s` reads back as `t` at each level of binding that its strength allows: as a factor, as
operands of a conjunction, and as operands of a disjunction. A part written in parentheses
reads as a factor whatever its strength, which is why the compiler's rule for parentheses is
enough.
-/

namespace SigmaQuery

namespace Query

open QueryTree

namespace Compiler

/-- The terms a selection is written as, each after the field prefix; none when some value has
no term. -/
def selectionTerms (c : Compiler) (s : Selection) : List Text.Bytes :=
  match terms (c.fieldPrefix s) s.modifier s.values with
  | .ok ts => ts
  | .error _ => []

mutual

/-- What a condition means to a reader of queries: nested groups of one connective flattened,
groups of one branch replaced by the branch, and a selection read as its term or as the
disjunction of its terms. -/
def normalize (c : Compiler) : Condition → QueryTree
  | .and items => join .and (normalizeAll c items)
  | .or items => join .or (normalizeAll c items)
  | .not operand => .not (normalize c operand)
  | .select s => join .or ((c.selectionTerms s).map .term)
  | .missing => .term (Text.utf8 "<nil>")

/-- What branches mean to a reader of queries, in order. -/
def normalizeAll (c : Compiler) : List Condition → List QueryTree
  | [] => []
  | x :: rest => normalize c x :: normalizeAll c rest

end

end Compiler

/-! ### What a compiled part reads as -/

/-- How the words of a part `q` of strength `s` read back as `t`: as one factor when `s` binds
at least as tightly as a negation, as operands of a conjunction when it binds at least as
tightly as a conjunction, and always as operands of a disjunction, before any words but `AND`. -/
structure ReadsBack (q : Text.Bytes) (s : Strength) (t : QueryTree) : Prop where
  strength : t.strength = s
  joined : Joined t
  asFactor : 3 ≤ s.rank → ∀ rest, factor (words q ++ rest) = some (t, rest)
  inConj : 2 ≤ s.rank → ChainsAs .and (fun _ => True) (words q) (t.operands .and)
  inDisj : ChainsAs .or (fun r => r.head? ≠ some (Text.utf8 "AND")) (words q) (t.operands .or)

/-- A chain whose operands give those of a joined tree joins back into the tree. -/
theorem join_eq_of_operands {op : Connective} {xs : List QueryTree} {t : QueryTree}
    (hxs : xs.flatMap (operands op) = t.operands op) (ht : Joined t) : join op xs = t := by
  calc join op xs = join op (t.operands op) :=
        join_congr (by rw [hxs, flatMap_operands_operands ht])
    _ = t := join_operands ht

/-- A part that chains as a conjunction's operands reads as a disjunction's operand too. -/
theorem readsBack_of_conj {q : Text.Bytes} {s : Strength} {t : QueryTree}
    (hs : t.strength = s) (ht : Joined t) (h2 : 2 ≤ s.rank)
    (hf : 3 ≤ s.rank → ∀ rest, factor (words q ++ rest) = some (t, rest))
    (hc : ChainsAs .and (fun _ => True) (words q) (t.operands .and)) : ReadsBack q s t := by
  refine ⟨hs, ht, hf, fun _ => hc, ?_⟩
  obtain ⟨xs, hxs, hstep⟩ := hc
  have hor : t.operands .or = [t] := by
    apply operands_of_strength
    rw [hs]
    intro he
    simp [he, Connective.strength, Strength.rank] at h2
  refine ⟨[t], by simp [hor], ?_⟩
  intro acc rest hr
  -- the conjunction ends before any word but `AND`, and joins back into `t`
  rw [step, operand_or, chain_eq_step, hstep [] rest trivial, List.nil_append,
    more_end .and xs hr, join_eq_of_operands hxs ht]
  rfl

/-- A part that reads as one factor reads at every level. -/
theorem readsBack_of_factor {q : Text.Bytes} {s : Strength} {t : QueryTree}
    (hs : t.strength = s) (ht : Joined t) (h3 : 3 ≤ s.rank)
    (hf : ∀ rest, factor (words q ++ rest) = some (t, rest)) : ReadsBack q s t := by
  have hand : t.operands .and = [t] := by
    apply operands_of_strength
    rw [hs]
    intro he
    simp [he, Connective.strength, Strength.rank] at h3
  refine readsBack_of_conj hs ht (by omega) (fun _ => hf) ⟨[t], by simp [hand], ?_⟩
  intro acc rest _
  rw [step, operand_and, hf]
  rfl

/-- A term reads as itself. -/
theorem readsBack_term {w : Text.Bytes} (hw : IsTerm w) : ReadsBack w .term (.term w) :=
  readsBack_of_factor rfl trivial (by decide) fun rest => by
    rw [words_of_isTerm hw]
    exact factor_term hw rest

namespace ReadsBack

variable {q : Text.Bytes} {s : Strength} {t : QueryTree}

/-- In parentheses, any part reads as one factor. -/
theorem parens (h : ReadsBack q s t) (rest : List Text.Bytes) :
    factor (words (Text.utf8 "(" ++ q ++ Text.utf8 ")") ++ rest) = some (t, rest) := by
  obtain ⟨xs, hxs, hstep⟩ := h.inDisj
  have hclose : (Text.utf8 ")" :: rest).head? ≠ some Connective.or.word := by
    simp [Connective.word, utf8_close, utf8_or]
  have hwords : words (Text.utf8 "(" ++ q ++ Text.utf8 ")") ++ rest =
      Text.utf8 "(" :: (words q ++ Text.utf8 ")" :: rest) := by
    rw [words_parens]
    simp
  rw [hwords]
  apply factor_parens
  rw [chain_eq_step, hstep [] _ (by simp [utf8_close, utf8_and]), List.nil_append,
    more_end .or xs hclose, join_eq_of_operands hxs h.joined]

/-- The operand of a negation reads as one factor. -/
theorem wrap_negation (h : ReadsBack q s t) (rest : List Text.Bytes) :
    factor (words (wrap q s .negation) ++ rest) = some (t, rest) := by
  unfold wrap
  split
  · exact h.parens rest
  · next hs => exact h.asFactor (Nat.not_lt.mp hs) rest

/-- An operand of a conjunction reads as operands of it. -/
theorem wrap_conjunction (h : ReadsBack q s t) :
    ChainsAs .and (fun _ => True) (words (wrap q s .conjunction)) (t.operands .and) := by
  unfold wrap
  split
  · next hs =>
    -- only a disjunction binds less tightly; in parentheses it is one operand
    have hand : t.operands .and = [t] := by
      apply operands_of_strength
      rw [h.strength]
      intro he
      simp [he, Connective.strength, Strength.rank] at hs
    refine ⟨[t], by simp [hand], ?_⟩
    intro acc rest _
    rw [step, operand_and, h.parens rest]
    rfl
  · next hs => exact h.inConj (Nat.not_lt.mp hs)

/-- Nothing binds less tightly than a disjunction, so its operands are written bare. -/
theorem wrap_disjunction (q : Text.Bytes) (s : Strength) : wrap q s .disjunction = q := by
  unfold wrap
  rw [if_neg]
  cases s <;> simp [Strength.rank]

/-- A part read on its own reads back whole. -/
theorem read_eq (h : ReadsBack q s t) : read q = some t := by
  obtain ⟨xs, hxs, hstep⟩ := h.inDisj
  have hall := hstep [] [] (by simp)
  rw [List.append_nil, List.nil_append, more_nil, join_eq_of_operands hxs h.joined] at hall
  rw [read, chain_eq_step, hall]

end ReadsBack

/-- Parts of a group of two branches or more, each read back, read back as the group: their
words joined by the connective, each wrapped as its strength needs, read as the operands of all
of them in turn. -/
theorem readsBack_group (op : Connective) (items : List (Text.Bytes × Strength × QueryTree))
    (hlen : 2 ≤ items.length) (h : ∀ x ∈ items, ReadsBack x.1 x.2.1 x.2.2) :
    ReadsBack (op.separator.intercalate (items.map fun x => wrap x.1 x.2.1 op.strength))
      op.strength (join op (items.map fun x => x.2.2)) := by
  have hj : ∀ t ∈ items.map (fun x => x.2.2), Joined t :=
    List.forall_mem_map.mpr fun x hx => (h x hx).joined
  have hflat : 2 ≤ ((items.map fun x => x.2.2).flatMap (operands op)).length :=
    Nat.le_trans (by simpa using hlen) (length_le_flatMap_operands hj)
  obtain ⟨hjoined, hops, hstrength⟩ := join_joined hj hflat
  have hne : items ≠ [] := by rintro rfl; simp at hlen
  cases op with
  | and =>
    refine readsBack_of_conj hstrength hjoined (by decide) (fun h3 => absurd h3 (by decide)) ?_
    rw [hops, Connective.words_intercalate, List.map_map]
    have hchain := @ChainsAs.intercalate .and (fun _ => True) (fun _ => trivial)
      (items.map fun x => (words (wrap x.1 x.2.1 .conjunction), x.2.2.operands .and))
      (by simpa using hne) (by
        intro p hp
        obtain ⟨x, hx, rfl⟩ := List.mem_map.mp hp
        exact (h x hx).wrap_conjunction)
    simpa [List.map_map, List.flatMap_map, Function.comp_def, Connective.strength] using hchain
  | or =>
    refine ⟨hstrength, hjoined, fun h3 => absurd h3 (by decide),
      fun h2 => absurd h2 (by decide), ?_⟩
    rw [hops, Connective.words_intercalate, List.map_map]
    have hchain := @ChainsAs.intercalate .or (fun r => r.head? ≠ some (Text.utf8 "AND"))
      (fun r => by simp [Connective.word, utf8_or, utf8_and])
      (items.map fun x => (words x.1, x.2.2.operands .or)) (by simpa using hne) (by
        intro p hp
        obtain ⟨x, hx, rfl⟩ := List.mem_map.mp hp
        exact (h x hx).inDisj)
    simpa [List.map_map, List.flatMap_map, Function.comp_def, Connective.strength,
      ReadsBack.wrap_disjunction] using hchain

/-! ### The compiler's steps -/

namespace Compiler

variable (c : Compiler)

/-- Every value of a selection gives one term. -/
theorem terms_length {pfx : Text.Bytes} {m : Modifier} :
    ∀ {vs : List String} {ts : List Text.Bytes}, terms pfx m vs = .ok ts → ts.length = vs.length
  | [], ts, h => by rw [terms] at h; cases h; rfl
  | v :: rest, ts, h => by
    rw [terms, bind_eq_ok] at h
    obtain ⟨t, -, h⟩ := h
    rw [bind_eq_ok] at h
    obtain ⟨more, hmore, h⟩ := h
    cases h
    simp [terms_length hmore]

/-- A selection is written as its one term, or as its terms joined by `OR`. -/
theorem selection_ok {sel : Selection} {q : Text.Bytes} {s : Strength}
    (h : c.selection sel = .ok (q, s)) :
    (c.selectionTerms sel = [q] ∧ s = .term) ∨
      (2 ≤ (c.selectionTerms sel).length ∧
        q = Connective.or.separator.intercalate (c.selectionTerms sel) ∧ s = .disjunction) := by
  have hsep : Text.utf8 " OR " = Connective.or.separator := by decide +kernel
  unfold selection at h
  split at h
  · cases h
  · next hvalues =>
    rw [bind_eq_ok] at h
    obtain ⟨ts, hts, h⟩ := h
    have hlen := terms_length hts
    have hterms : c.selectionTerms sel = ts := by rw [selectionTerms, hts]
    rw [hterms]
    split at h
    · cases h
      exact .inl ⟨rfl, rfl⟩
    · next hnot =>
      cases h
      refine .inr ⟨?_, by rw [hsep], rfl⟩
      match ts, hnot with
      | [], _ => exact absurd (List.length_eq_zero_iff.mp hlen.symm) (by simpa using hvalues)
      | [_], hnot => exact absurd rfl (hnot _)
      | _ :: _ :: _, _ => simp

/-- A group of two branches or more is its parts joined by its operator's word. -/
theorem group_ok {st : Strength} {name : String} {x y : Condition} {rest : List Condition}
    {q : Text.Bytes} {s : Strength} (h : c.group st name (x :: y :: rest) = .ok (q, s)) :
    ∃ ps, c.parts st (x :: y :: rest) = .ok ps ∧
      q = (Text.utf8 (" " ++ String.map Char.toUpper name ++ " ")).intercalate ps ∧ s = st := by
  rw [group] at h
  · rw [bind_eq_ok] at h
    obtain ⟨ps, hps, h⟩ := h
    cases h
    exact ⟨ps, hps, rfl, rfl⟩
  all_goals simp

theorem separator_and :
    Text.utf8 (" " ++ String.map Char.toUpper "and" ++ " ") = Connective.and.separator := by
  decide +kernel

theorem separator_or :
    Text.utf8 (" " ++ String.map Char.toUpper "or" ++ " ") = Connective.or.separator := by
  decide +kernel

/-- A negation is `NOT ` before its operand's part, wrapped as a negation needs. -/
theorem lower_not_ok {operand : Condition} {q : Text.Bytes} {s : Strength}
    (h : c.lower (.not operand) = .ok (q, s)) :
    ∃ inner st, c.lower operand = .ok (inner, st) ∧
      q = Text.utf8 "NOT " ++ wrap inner st .negation ∧ s = .negation := by
  cases operand with
  | missing => simp [lower] at h
  -- every other operand takes the second branch of `lower`, once it is known not to be missing
  | _ =>
    rw [lower, bind_eq_ok] at h
    · obtain ⟨⟨inner, st⟩, hinner, h⟩ := h
      cases h
      exact ⟨inner, st, hinner, rfl, rfl⟩
    · simp

end Compiler

/-- A group of one branch reads as the branch. -/
theorem join_singleton {op : Connective} {t : QueryTree} (ht : Joined t) : join op [t] = t :=
  join_eq_of_operands (by simp) ht

/-- A selection reads back as its one term, or as the disjunction of its terms. -/
theorem selection_readsBack (c : Compiler) {sel : Selection} {q : Text.Bytes} {s : Strength}
    (h : c.selection sel = .ok (q, s)) (hterms : ∀ w ∈ c.selectionTerms sel, IsTerm w) :
    ReadsBack q s (c.normalize (.select sel)) := by
  rw [Compiler.normalize]
  rcases c.selection_ok h with ⟨hts, rfl⟩ | ⟨hlen, rfl, rfl⟩
  · rw [hts, List.map_singleton, join_singleton (by simp [QueryTree.Joined])]
    exact readsBack_term (hterms q (by simp [hts]))
  · have hgroup := readsBack_group .or
      ((c.selectionTerms sel).map fun w => (w, Strength.term, QueryTree.term w))
      (by simpa using hlen) (List.forall_mem_map.mpr fun w hw => readsBack_term (hterms w hw))
    simpa [List.map_map, Function.comp_def, ReadsBack.wrap_disjunction, Connective.strength]
      using hgroup

/-! ### Compiled conditions read back -/

mutual

/-- Every part the compiler writes reads back as what its condition means. -/
theorem lower_readsBack (c : Compiler) :
    ∀ (C : Condition) {q : Text.Bytes} {s : Strength}, c.lower C = .ok (q, s) →
      (∀ sel ∈ C.selections, ∀ w ∈ c.selectionTerms sel, IsTerm w) →
      ReadsBack q s (c.normalize C)
  | .select sel, _, _, h, hterms => by
    rw [Compiler.lower] at h
    exact selection_readsBack c h (hterms sel (by simp [Condition.selections]))
  | .and [], _, _, h, _ => by simp [Compiler.lower, Compiler.group] at h
  | .and [child], _, _, h, hterms => by
    rw [Compiler.lower, Compiler.group] at h
    have hchild := lower_readsBack c child h
      (by simpa [Condition.selections, Condition.selectionsAll] using hterms)
    rw [Compiler.normalize, Compiler.normalizeAll, Compiler.normalizeAll,
      join_singleton hchild.joined]
    exact hchild
  | .and (x :: y :: rest), _, _, h, hterms => by
    rw [Compiler.lower] at h
    obtain ⟨ps, hps, rfl, rfl⟩ := c.group_ok h
    obtain ⟨xs, rfl, hnorm, hall⟩ := parts_readsBack c .conjunction (x :: y :: rest) hps
      (by simpa [Condition.selections] using hterms)
    have hlen : 2 ≤ xs.length := by
      have := congrArg List.length hnorm
      simp only [List.length_map, Compiler.normalizeAll, List.length_cons] at this
      omega
    rw [Compiler.separator_and, Compiler.normalize, ← hnorm]
    exact readsBack_group .and xs hlen hall
  | .or [], _, _, h, _ => by simp [Compiler.lower, Compiler.group] at h
  | .or [child], _, _, h, hterms => by
    rw [Compiler.lower, Compiler.group] at h
    have hchild := lower_readsBack c child h
      (by simpa [Condition.selections, Condition.selectionsAll] using hterms)
    rw [Compiler.normalize, Compiler.normalizeAll, Compiler.normalizeAll,
      join_singleton hchild.joined]
    exact hchild
  | .or (x :: y :: rest), _, _, h, hterms => by
    rw [Compiler.lower] at h
    obtain ⟨ps, hps, rfl, rfl⟩ := c.group_ok h
    obtain ⟨xs, rfl, hnorm, hall⟩ := parts_readsBack c .disjunction (x :: y :: rest) hps
      (by simpa [Condition.selections] using hterms)
    have hlen : 2 ≤ xs.length := by
      have := congrArg List.length hnorm
      simp only [List.length_map, Compiler.normalizeAll, List.length_cons] at this
      omega
    rw [Compiler.separator_or, Compiler.normalize, ← hnorm]
    exact readsBack_group .or xs hlen hall
  | .not operand, _, _, h, hterms => by
    obtain ⟨inner, st, hinner, rfl, rfl⟩ := c.lower_not_ok h
    have hop := lower_readsBack c operand hinner (by simpa [Condition.selections] using hterms)
    rw [Compiler.normalize]
    refine readsBack_of_factor rfl trivial (by decide) fun rest => ?_
    rw [words_not, List.cons_append, factor_not, hop.wrap_negation rest]
    rfl
  | .missing, _, _, h, _ => by simp [Compiler.lower] at h

/-- The parts the compiler writes for branches read back as what the branches mean, each
wrapped as its strength needs under the operator above. -/
theorem parts_readsBack (c : Compiler) (outer : Strength) :
    ∀ (items : List Condition) {ps : List Text.Bytes}, c.parts outer items = .ok ps →
      (∀ sel ∈ Condition.selectionsAll items, ∀ w ∈ c.selectionTerms sel, IsTerm w) →
      ∃ xs : List (Text.Bytes × Strength × QueryTree),
        ps = xs.map (fun x => wrap x.1 x.2.1 outer) ∧
        xs.map (fun x => x.2.2) = c.normalizeAll items ∧ ∀ x ∈ xs, ReadsBack x.1 x.2.1 x.2.2
  | [], _, h, _ => by
    rw [Compiler.parts] at h
    cases h
    exact ⟨[], rfl, by rw [Compiler.normalizeAll]; rfl, by simp⟩
  | C :: rest, _, h, hterms => by
    rw [Compiler.parts, bind_eq_ok] at h
    obtain ⟨⟨text, st⟩, hC, h⟩ := h
    dsimp only at h
    rw [bind_eq_ok] at h
    obtain ⟨more, hmore, h⟩ := h
    cases h
    have hsplit := fun sel (hs : sel ∈ C.selections) => hterms sel
      (by simp [Condition.selectionsAll, hs])
    obtain ⟨xs, rfl, hnorm, hall⟩ := parts_readsBack c outer rest hmore
      (fun sel hs => hterms sel (by simp [Condition.selectionsAll, hs]))
    refine ⟨(text, st, c.normalize C) :: xs, rfl,
      by rw [Compiler.normalizeAll, List.map_cons, hnorm], ?_⟩
    intro x hx
    rcases List.mem_cons.mp hx with rfl | hx
    · exact lower_readsBack c C hC hsplit
    · exact hall x hx

end

/-- A compiled query reads back as what its condition means, when every term its selections
are written as reads as one term: parentheses stand exactly where the reader needs them. -/
theorem read_compile {c : Compiler} {C : Condition} {q : Text.Bytes}
    (h : c.compile C = .ok q)
    (hterms : ∀ sel ∈ C.selections, ∀ w ∈ c.selectionTerms sel, IsTerm w) :
    read q = some (c.normalize C) := by
  rw [Compiler.compile, map_eq_ok] at h
  obtain ⟨⟨q', s⟩, hlow, rfl⟩ := h
  exact (lower_readsBack c C hlow hterms).read_eq

/-- A negated selection of two values compiles to `NOT (@user:alice OR @user:bob)`, which reads
back as the negation of the two terms' disjunction. -/
theorem read_compile_negated_selection :
    read (Text.utf8 "NOT (@user:alice OR @user:bob)") =
      some (Compiler.normalize {} (.not (.select ⟨Text.utf8 "user", .equals, ["alice", "bob"]⟩))) :=
  read_compile (by
    simp only [Compiler.compile, Compiler.lower]
    exact eq_ok_of_toOption (by decide +kernel)) (by
    intro sel hsel w hw
    simp only [Condition.selections, List.mem_singleton] at hsel
    subst hsel
    have hterms : Compiler.selectionTerms {} ⟨Text.utf8 "user", .equals, ["alice", "bob"]⟩ =
        [Text.utf8 "@user:alice", Text.utf8 "@user:bob"] := by decide +kernel
    simp only [hterms, List.mem_cons, List.not_mem_nil, or_false] at hw
    rcases hw with rfl | rfl
    all_goals exact isTerm_of_ascii (by decide +kernel) (by decide +kernel) (by decide +kernel))

end Query

end SigmaQuery
