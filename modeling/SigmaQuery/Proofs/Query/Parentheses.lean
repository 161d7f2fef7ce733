import SigmaQuery.Proofs.Query.RoundTrip

/-!
# The parentheses of a compiled query are all needed

A query read as a tree needs parentheses in two places only: around a disjunction that is an
operand of a conjunction, and around a group that is the operand of a negation
(`QueryTree.brackets` counts them). No query that reads as a tree has fewer opening
parentheses than that (`brackets_le_of_read`): the reader makes a group an operand of a
conjunction or of a negation only from a group in parentheses.

The compiler writes exactly that many pairs for the tree its query reads as, whatever words
the selections' terms are, as long as they hold no parenthesis (`compile_parentheses_necessary`).
So no pair can be left out: deleting an opening and a closing parenthesis from a compiled query
leaves a query that does not read as the compiled tree.
-/

namespace SigmaQuery.Query

namespace QueryTree

/-- Whether a tree is a group of operands. -/
def isGroup : QueryTree → Bool
  | group .. => true
  | _ => false

/-- Whether a tree must stand in parentheses as an operand of a group of `op`: a disjunction
must under a conjunction. -/
def bracketedIn (op : Connective) : QueryTree → Bool
  | group .or _ => op == .and
  | _ => false

mutual

/-- The pairs of parentheses a query must have to read as a tree: one around each disjunction
that is an operand of a conjunction, and one around each group that is the operand of a
negation. -/
def brackets : QueryTree → Nat
  | term _ => 0
  | not t => brackets t + if t.isGroup then 1 else 0
  | group op ts => bracketsAll op ts

/-- The pairs of parentheses operands of a group of `op` need, inside them and around them. -/
def bracketsAll (op : Connective) : List QueryTree → Nat
  | [] => 0
  | t :: ts => brackets t + (if t.bracketedIn op then 1 else 0) + bracketsAll op ts

end

/-- Only a group stands in parentheses as an operand. -/
theorem bracketedIn_le_isGroup (op : Connective) (t : QueryTree) :
    (if t.bracketedIn op then 1 else 0) ≤ if t.isGroup then 1 else 0 := by
  cases t with
  | group o ts => split <;> simp [isGroup]
  | _ => simp [bracketedIn]

/-- Nothing stands in parentheses as an operand of a disjunction. -/
@[simp] theorem bracketedIn_or (t : QueryTree) : t.bracketedIn .or = false := by
  cases t with
  | group o ts => cases o <;> rfl
  | _ => rfl

theorem bracketsAll_append (op : Connective) (xs ys : List QueryTree) :
    bracketsAll op (xs ++ ys) = bracketsAll op xs + bracketsAll op ys := by
  induction xs with
  | nil => simp [bracketsAll]
  | cons t xs ih =>
    rw [List.cons_append, bracketsAll, bracketsAll, ih]
    omega

/-- What a tree gives to a group of `op` needs the parentheses the tree needs as its operand. -/
theorem bracketsAll_operands (op : Connective) (t : QueryTree) :
    bracketsAll op (t.operands op) = t.brackets + if t.bracketedIn op then 1 else 0 := by
  cases t with
  | group o ts =>
    by_cases ho : o = op
    · -- a group of the same connective gives its operands, and needs no parentheses in it
      subst ho
      have hnot : (group o ts).bracketedIn o = false := by cases o <;> rfl
      simp [operands, hnot, brackets]
    · simp [operands, ho, bracketsAll]
  | _ => simp [operands, bracketsAll]

theorem bracketsAll_flatMap_operands (op : Connective) (xs : List QueryTree) :
    bracketsAll op (xs.flatMap (operands op)) = bracketsAll op xs := by
  induction xs with
  | nil => rfl
  | cons t xs ih =>
    rw [List.flatMap_cons, bracketsAll_append, ih, bracketsAll_operands, bracketsAll]

/-- Joining operands needs at most the parentheses they need as operands. -/
theorem brackets_join_le (op : Connective) (xs : List QueryTree) :
    (join op xs).brackets ≤ bracketsAll op xs := by
  rw [← bracketsAll_flatMap_operands op xs]
  unfold join
  split
  · next t ht =>
    rw [ht, bracketsAll, bracketsAll]
    omega
  · rfl

/-- Joining two operands or more needs exactly the parentheses they need as operands. -/
theorem brackets_join_of_two_le {op : Connective} {xs : List QueryTree}
    (h : 2 ≤ (xs.flatMap (operands op)).length) : (join op xs).brackets = bracketsAll op xs := by
  rw [join_of_two_le h, brackets, bracketsAll_flatMap_operands]

end QueryTree

open QueryTree

/-! ### No reading needs fewer -/

/-- The opening parentheses among the words of a query. -/
def opens (ts : List Text.Bytes) : Nat := ts.count (Text.utf8 "(")

@[simp] theorem opens_nil : opens [] = 0 := rfl

theorem opens_cons (w : Text.Bytes) (ts : List Text.Bytes) :
    opens (w :: ts) = opens ts + if w = Text.utf8 "(" then 1 else 0 := by
  simp [opens, List.count_cons]

/-- A factor is a negated factor, a disjunction in parentheses, or a term. -/
theorem factor_cons_eq_some {w : Text.Bytes} {rest r : List Text.Bytes} {t : QueryTree}
    (h : factor (w :: rest) = some (t, r)) :
    (w = Text.utf8 "NOT" ∧ ∃ n, factor rest = some (n, r) ∧ t = .not n) ∨
      (w = Text.utf8 "(" ∧ chain .or rest = some (t, Text.utf8 ")" :: r)) ∨
      (t = .term w ∧ r = rest) := by
  by_cases hnot : w = Text.utf8 "NOT"
  · subst hnot
    rw [factor_not] at h
    obtain ⟨⟨n, r'⟩, hn, heq⟩ := Option.map_eq_some_iff.mp h
    cases heq
    exact .inl ⟨rfl, n, hn, rfl⟩
  by_cases hopen : w = Text.utf8 "("
  · subst hopen
    refine .inr (.inl ⟨rfl, ?_⟩)
    unfold factor at h
    rw [readFactor, if_neg hnot, if_pos rfl] at h
    unfold chain
    rcases hc : readChain .or rest with _ | ⟨m, ⟨_ | ⟨close, r'⟩, hr⟩⟩
    · simp [hc] at h
    · simp [hc] at h
    · simp only [hc] at h ⊢
      split at h
      · next hclose =>
        simp only [Option.map_some, Option.some.injEq, Prod.mk.injEq] at h
        obtain ⟨rfl, rfl⟩ := h
        rw [hclose]
        rfl
      · simp at h
  · unfold factor at h
    rw [readFactor, if_neg hnot, if_neg hopen] at h
    split at h
    · simp at h
    · simp only [Option.map_some, Option.some.injEq, Prod.mk.injEq] at h
      exact .inr (.inr ⟨h.1.symm, h.2.symm⟩)

/-- An operand leaves fewer words than it was read from. -/
theorem operand_length {op : Connective} {ts r : List Text.Bytes} {t : QueryTree}
    (h : operand op ts = some (t, r)) : r.length < ts.length := by
  unfold operand at h
  obtain ⟨⟨t', ⟨r', hr'⟩⟩, _, heq⟩ := Option.map_eq_some_iff.mp h
  cases heq
  exact hr'

theorem step_eq_some {op : Connective} {acc : List QueryTree} {ts r : List Text.Bytes}
    {t : QueryTree} (h : step op acc ts = some (t, r)) :
    ∃ n r', operand op ts = some (n, r') ∧ more op (acc ++ [n]) r' = some (t, r) := by
  unfold step at h
  obtain ⟨⟨n, r'⟩, hn, hm⟩ := Option.bind_eq_some_iff.mp h
  exact ⟨n, r', hn, hm⟩

mutual

/-- A factor read from words took an opening parenthesis for each pair it needs, and one more
when it is a group. -/
theorem factor_opens : ∀ (ts : List Text.Bytes) {r : List Text.Bytes} {t : QueryTree},
    factor ts = some (t, r) → t.brackets + (if t.isGroup then 1 else 0) + opens r ≤ opens ts
  | [], _, _, h => by
    rw [factor_nil] at h
    cases h
  | w :: rest, r, t, h => by
    rcases factor_cons_eq_some h with ⟨rfl, n, hn, rfl⟩ | ⟨rfl, hc⟩ | ⟨rfl, rfl⟩
    · have hfactor := factor_opens rest hn
      have hnot : (QueryTree.not n).isGroup = false := rfl
      have hword : Text.utf8 "NOT" ≠ Text.utf8 "(" := by rw [utf8_not, utf8_open]; decide
      simp only [brackets, hnot, opens_cons, hword, Bool.false_eq_true, if_false]
      omega
    · -- a group in parentheses: the opening parenthesis pays for the pair around it
      have hchain := chain_opens .or rest hc
      have hgroup : (if t.isGroup then 1 else 0) ≤ 1 := by split <;> omega
      rw [opens_cons, if_neg (by rw [utf8_open, utf8_close]; decide)] at hchain
      rw [opens_cons, if_pos rfl]
      omega
    · have hterm : (QueryTree.term w).isGroup = false := rfl
      rw [brackets, hterm, opens_cons]
      simp only [Bool.false_eq_true, if_false]
      omega
termination_by ts _ _ _ => (ts.length, 0)
decreasing_by
  all_goals exact Prod.Lex.left _ _ (by simp)

/-- An operand of a group of `op` took an opening parenthesis for each pair it needs as such
an operand. -/
theorem operand_opens : ∀ (op : Connective) (ts : List Text.Bytes) {r : List Text.Bytes}
    {t : QueryTree}, operand op ts = some (t, r) →
      t.brackets + (if t.bracketedIn op then 1 else 0) + opens r ≤ opens ts
  | .and, ts, r, t, h => by
    rw [operand_and] at h
    have hfactor := factor_opens ts h
    have hle := bracketedIn_le_isGroup .and t
    omega
  | .or, ts, r, t, h => by
    rw [operand_or] at h
    have hchain := chain_opens .and ts h
    simp only [bracketedIn_or, Bool.false_eq_true, if_false]
    omega
termination_by op ts _ _ _ => (ts.length, 2 * op.rank + 1)
decreasing_by
  all_goals exact Prod.Lex.right _ (by simp [Connective.rank])

/-- A chain read from words took an opening parenthesis for each pair it needs. -/
theorem chain_opens : ∀ (op : Connective) (ts : List Text.Bytes) {r : List Text.Bytes}
    {t : QueryTree}, chain op ts = some (t, r) → t.brackets + opens r ≤ opens ts
  | op, ts, r, t, h => by
    rw [chain_eq_step] at h
    obtain ⟨n, r', hn, hm⟩ := step_eq_some h
    have hlen := operand_length hn
    have hfirst := operand_opens op ts hn
    have hrest := more_opens op [n] r' hm
    simp only [bracketsAll] at hrest
    omega
termination_by op ts _ _ _ => (ts.length, 2 * op.rank + 2)
decreasing_by
  · exact Prod.Lex.right _ (by omega)
  · exact Prod.Lex.left _ _ hlen

/-- The rest of a chain after operands `acc` took an opening parenthesis for each pair the
chain needs beyond those the operands need. -/
theorem more_opens : ∀ (op : Connective) (acc : List QueryTree) (ts : List Text.Bytes)
    {r : List Text.Bytes} {t : QueryTree}, more op acc ts = some (t, r) →
      t.brackets + opens r ≤ opens ts + bracketsAll op acc
  | op, acc, [], r, t, h => by
    rw [more_nil] at h
    cases h
    have := brackets_join_le op acc
    rw [opens_nil]
    omega
  | op, acc, w :: rest, r, t, h => by
    by_cases hw : w = op.word
    · -- the connective's word, then one more operand
      subst hw
      rw [more_word] at h
      obtain ⟨n, r', hn, hm⟩ := step_eq_some h
      have hlen := operand_length hn
      have hnext := operand_opens op rest hn
      have hrest := more_opens op (acc ++ [n]) r' hm
      rw [bracketsAll_append, bracketsAll, bracketsAll] at hrest
      rw [opens_cons]
      omega
    · rw [more_other op acc hw] at h
      cases h
      have := brackets_join_le op acc
      omega
termination_by _ _ ts _ _ _ => (ts.length, 0)
decreasing_by
  all_goals exact Prod.Lex.left _ _ (by simp only [List.length_cons]; omega)

end

/-- Each word `(` holds a parenthesis of the bytes the words are cut from. -/
theorem count_singleton_le_count_flatten (x : UInt8) :
    ∀ ws : List (List UInt8), ws.count [x] ≤ ws.flatten.count x
  | [] => by simp
  | w :: ws => by
    have hrest := count_singleton_le_count_flatten x ws
    rw [List.count_cons, List.flatten_cons, List.count_append]
    split
    · next hw =>
      rw [beq_iff_eq.mp hw]
      simp only [List.count_singleton_self]
      omega
    · omega

/-- The words of bytes are made of their bytes, blanks left out. -/
theorem flatten_fieldsFrom_sublist (cur : Text.Bytes) :
    ∀ rs : List (Char × Text.Bytes),
      List.Sublist (Text.fieldsFrom cur rs).flatten (cur ++ rs.flatMap Prod.snd)
  | [] => by
    rw [Text.fieldsFrom]
    split <;> simp
  | (c, bytes) :: rs => by
    rw [Text.fieldsFrom, List.flatMap_cons]
    split
    · -- a blank closes the open word and is left out
      have hrest := flatten_fieldsFrom_sublist [] rs
      rw [List.nil_append] at hrest
      rw [List.flatten_append]
      refine List.Sublist.append ?_ (hrest.trans (List.sublist_append_right _ _))
      split <;> simp
    · simpa [List.append_assoc] using flatten_fieldsFrom_sublist (cur ++ bytes) rs

/-- Spacing parentheses out adds none. -/
theorem count_open_spaceParen (b : UInt8) : (spaceParen b).count 0x28 = [b].count 0x28 := by
  unfold spaceParen
  split
  · next hb => rcases hb with rfl | rfl <;> decide
  · rfl

theorem count_open_flatMap_spaceParen (q : Text.Bytes) :
    (q.flatMap spaceParen).count 0x28 = q.count 0x28 := by
  induction q with
  | nil => rfl
  | cons b q ih =>
    rw [List.flatMap_cons, List.count_append, ih, count_open_spaceParen, ← List.count_append,
      List.singleton_append]

/-- A query has at least as many opening parentheses as its words have. -/
theorem opens_words_le (q : Text.Bytes) : opens (words q) ≤ q.count 0x28 := by
  have hsub : List.Sublist (words q).flatten (q.flatMap spaceParen) := by
    have h := flatten_fieldsFrom_sublist [] (Text.runes (q.flatMap spaceParen))
    rwa [List.nil_append, Text.flatMap_runes] at h
  calc opens (words q) = (words q).count [0x28] := by rw [opens, utf8_open]
    _ ≤ (words q).flatten.count 0x28 := count_singleton_le_count_flatten _ _
    _ ≤ (q.flatMap spaceParen).count 0x28 := hsub.count_le _
    _ = q.count 0x28 := count_open_flatMap_spaceParen q

/-- A query that reads as a tree has at least one opening parenthesis for each pair the tree
needs. -/
theorem brackets_le_of_read {q : Text.Bytes} {t : QueryTree} (h : read q = some t) :
    t.brackets ≤ q.count 0x28 := by
  unfold read at h
  split at h
  · next t' hchain =>
    cases h
    have hchain := chain_opens .or (words q) hchain
    have hwords := opens_words_le q
    rw [opens_nil] at hchain
    omega
  · cases h

/-! ### The compiler writes no more -/

/-- A part in parentheses has one more of each. -/
theorem count_wrap {b : UInt8} (hb : b = 0x28 ∨ b = 0x29) (q : Text.Bytes) (s outer : Strength) :
    (wrap q s outer).count b = q.count b + if s.rank < outer.rank then 1 else 0 := by
  unfold wrap
  split
  · rw [utf8_open, utf8_close]
    rcases hb with rfl | rfl <;> simp
  · simp

/-- No connective is written with a parenthesis. -/
theorem not_mem_separator {b : UInt8} (hb : b = 0x28 ∨ b = 0x29) (op : Connective) :
    b ∉ op.separator := by
  cases op <;> rcases hb with rfl | rfl <;> decide +kernel

/-- Parts joined by words without a given byte hold the bytes the parts hold. -/
theorem count_intercalate {b : UInt8} {sep : Text.Bytes} (hsep : b ∉ sep) :
    ∀ parts : List Text.Bytes, (sep.intercalate parts).count b = (parts.map (List.count b)).sum
  | [] => rfl
  | [p] => by simp
  | p :: p' :: ps => by
    rw [List.intercalate_cons_cons, List.count_append, List.count_append,
      count_intercalate hsep (p' :: ps), List.count_eq_zero_of_not_mem hsep]
    simp only [List.map_cons, List.sum_cons]
    omega

/-- A part is parenthesised under a connective exactly when the tree it reads as must be. -/
theorem ite_rank_lt_connective {t : QueryTree} {s : Strength} (hs : t.strength = s)
    (op : Connective) :
    (if s.rank < op.strength.rank then 1 else 0) = if t.bracketedIn op then 1 else 0 := by
  subst hs
  cases t with
  | group o ts => cases o <;> cases op <;> rfl
  | _ => cases op <;> rfl

/-- A part is parenthesised under a negation exactly when the tree it reads as is a group. -/
theorem ite_rank_lt_negation {t : QueryTree} {s : Strength} (hs : t.strength = s) :
    (if s.rank < Strength.negation.rank then 1 else 0) = if t.isGroup then 1 else 0 := by
  subst hs
  cases t with
  | group o ts => cases o <;> rfl
  | _ => rfl

/-- How a compiled part `q` of strength `s` stands to the tree `t` it reads as: the tree has
the part's strength and is joined, and the part has one pair of parentheses for each pair the
tree needs. -/
structure Counted (q : Text.Bytes) (s : Strength) (t : QueryTree) : Prop where
  strength : t.strength = s
  joined : Joined t
  openings : q.count 0x28 = t.brackets
  closings : q.count 0x29 = t.brackets

theorem Counted.count {q : Text.Bytes} {s : Strength} {t : QueryTree} (h : Counted q s t)
    {b : UInt8} (hb : b = 0x28 ∨ b = 0x29) : q.count b = t.brackets := by
  rcases hb with rfl | rfl
  · exact h.openings
  · exact h.closings

/-- A term without parentheses needs none. -/
theorem counted_term {w : Text.Bytes} (h1 : (0x28 : UInt8) ∉ w) (h2 : (0x29 : UInt8) ∉ w) :
    Counted w .term (.term w) :=
  ⟨rfl, trivial, by rw [List.count_eq_zero_of_not_mem h1, brackets],
    by rw [List.count_eq_zero_of_not_mem h2, brackets]⟩

/-- Operands, each wrapped as its strength needs under a connective, hold the parentheses they
need as its operands. -/
theorem sum_count_wrap (op : Connective) {b : UInt8} (hb : b = 0x28 ∨ b = 0x29) :
    ∀ xs : List (Text.Bytes × Strength × QueryTree), (∀ x ∈ xs, Counted x.1 x.2.1 x.2.2) →
      ((xs.map fun x => wrap x.1 x.2.1 op.strength).map (List.count b)).sum =
        bracketsAll op (xs.map fun x => x.2.2)
  | [], _ => rfl
  | x :: xs, h => by
    have hx := h x List.mem_cons_self
    rw [List.map_cons, List.map_cons, List.sum_cons, count_wrap hb, hx.count hb,
      ite_rank_lt_connective hx.strength, sum_count_wrap op hb xs
        fun y hy => h y (List.mem_cons_of_mem _ hy), List.map_cons, bracketsAll]

/-- A group of two parts or more has the parentheses the group needs. -/
theorem counted_group (op : Connective) (xs : List (Text.Bytes × Strength × QueryTree))
    (hlen : 2 ≤ xs.length) (h : ∀ x ∈ xs, Counted x.1 x.2.1 x.2.2) :
    Counted (op.separator.intercalate (xs.map fun x => wrap x.1 x.2.1 op.strength))
      op.strength (join op (xs.map fun x => x.2.2)) := by
  have hj : ∀ t ∈ xs.map (fun x => x.2.2), Joined t :=
    List.forall_mem_map.mpr fun x hx => (h x hx).joined
  have hflat : 2 ≤ ((xs.map fun x => x.2.2).flatMap (operands op)).length :=
    Nat.le_trans (by simpa using hlen) (length_le_flatMap_operands hj)
  obtain ⟨hjoined, -, hstrength⟩ := join_joined hj hflat
  have hcount : ∀ {b : UInt8}, b = 0x28 ∨ b = 0x29 →
      (op.separator.intercalate (xs.map fun x => wrap x.1 x.2.1 op.strength)).count b =
        (join op (xs.map fun x => x.2.2)).brackets := fun hb => by
    rw [count_intercalate (not_mem_separator hb op), sum_count_wrap op hb xs h,
      brackets_join_of_two_le hflat]
  exact ⟨hstrength, hjoined, hcount (.inl rfl), hcount (.inr rfl)⟩

theorem count_utf8_not {b : UInt8} (hb : b = 0x28 ∨ b = 0x29) :
    (Text.utf8 "NOT ").count b = 0 := by
  rcases hb with rfl | rfl <;> decide +kernel

/-- A selection has the parentheses of what it means: none, its terms being written without. -/
theorem selection_counted (c : Compiler) {sel : Selection} {q : Text.Bytes} {s : Strength}
    (h : c.selection sel = .ok (q, s))
    (hterms : ∀ w ∈ c.selectionTerms sel, 0x28 ∉ w ∧ 0x29 ∉ w) :
    Counted q s (c.normalize (.select sel)) := by
  rw [Compiler.normalize]
  rcases c.selection_ok h with ⟨hts, rfl⟩ | ⟨hlen, rfl, rfl⟩
  · rw [hts, List.map_singleton, join_singleton (by simp [QueryTree.Joined])]
    obtain ⟨h1, h2⟩ := hterms q (by simp [hts])
    exact counted_term h1 h2
  · have hgroup := counted_group .or
      ((c.selectionTerms sel).map fun w => (w, Strength.term, QueryTree.term w))
      (by simpa using hlen)
      (List.forall_mem_map.mpr fun w hw => counted_term (hterms w hw).1 (hterms w hw).2)
    simpa [List.map_map, Function.comp_def, ReadsBack.wrap_disjunction, Connective.strength]
      using hgroup

mutual

/-- Every part the compiler writes has exactly the parentheses of what its condition means. -/
theorem lower_counted (c : Compiler) :
    ∀ (C : Condition) {q : Text.Bytes} {s : Strength}, c.lower C = .ok (q, s) →
      (∀ sel ∈ C.selections, ∀ w ∈ c.selectionTerms sel, 0x28 ∉ w ∧ 0x29 ∉ w) →
      Counted q s (c.normalize C)
  | .select sel, _, _, h, hterms => by
    rw [Compiler.lower] at h
    exact selection_counted c h (hterms sel (by simp [Condition.selections]))
  | .and [], _, _, h, _ => by simp [Compiler.lower, Compiler.group] at h
  | .and [child], _, _, h, hterms => by
    rw [Compiler.lower, Compiler.group] at h
    have hchild := lower_counted c child h
      (by simpa [Condition.selections, Condition.selectionsAll] using hterms)
    rw [Compiler.normalize, Compiler.normalizeAll, Compiler.normalizeAll,
      join_singleton hchild.joined]
    exact hchild
  | .and (x :: y :: rest), _, _, h, hterms => by
    rw [Compiler.lower] at h
    obtain ⟨ps, hps, rfl, rfl⟩ := c.group_ok h
    obtain ⟨xs, rfl, hnorm, hall⟩ := parts_counted c .conjunction (x :: y :: rest) hps
      (by simpa [Condition.selections] using hterms)
    have hlen : 2 ≤ xs.length := by
      have := congrArg List.length hnorm
      simp only [List.length_map, Compiler.normalizeAll, List.length_cons] at this
      omega
    rw [Compiler.separator_and, Compiler.normalize, ← hnorm]
    exact counted_group .and xs hlen hall
  | .or [], _, _, h, _ => by simp [Compiler.lower, Compiler.group] at h
  | .or [child], _, _, h, hterms => by
    rw [Compiler.lower, Compiler.group] at h
    have hchild := lower_counted c child h
      (by simpa [Condition.selections, Condition.selectionsAll] using hterms)
    rw [Compiler.normalize, Compiler.normalizeAll, Compiler.normalizeAll,
      join_singleton hchild.joined]
    exact hchild
  | .or (x :: y :: rest), _, _, h, hterms => by
    rw [Compiler.lower] at h
    obtain ⟨ps, hps, rfl, rfl⟩ := c.group_ok h
    obtain ⟨xs, rfl, hnorm, hall⟩ := parts_counted c .disjunction (x :: y :: rest) hps
      (by simpa [Condition.selections] using hterms)
    have hlen : 2 ≤ xs.length := by
      have := congrArg List.length hnorm
      simp only [List.length_map, Compiler.normalizeAll, List.length_cons] at this
      omega
    rw [Compiler.separator_or, Compiler.normalize, ← hnorm]
    exact counted_group .or xs hlen hall
  | .not operand, _, _, h, hterms => by
    obtain ⟨inner, st, hinner, rfl, rfl⟩ := c.lower_not_ok h
    have hop := lower_counted c operand hinner (by simpa [Condition.selections] using hterms)
    -- the operand is wrapped exactly when it reads as a group
    have hcount : ∀ {b : UInt8}, b = 0x28 ∨ b = 0x29 →
        (Text.utf8 "NOT " ++ wrap inner st .negation).count b =
          (QueryTree.not (c.normalize operand)).brackets := fun hb => by
      rw [List.count_append, count_utf8_not hb, count_wrap hb, hop.count hb,
        ite_rank_lt_negation hop.strength, brackets, Nat.zero_add]
    rw [Compiler.normalize]
    exact ⟨rfl, trivial, hcount (.inl rfl), hcount (.inr rfl)⟩
  | .missing, _, _, h, _ => by simp [Compiler.lower] at h

/-- The parts the compiler writes for branches have exactly the parentheses of what the
branches mean, before each is wrapped under the operator above. -/
theorem parts_counted (c : Compiler) (outer : Strength) :
    ∀ (items : List Condition) {ps : List Text.Bytes}, c.parts outer items = .ok ps →
      (∀ sel ∈ Condition.selectionsAll items, ∀ w ∈ c.selectionTerms sel,
        0x28 ∉ w ∧ 0x29 ∉ w) →
      ∃ xs : List (Text.Bytes × Strength × QueryTree),
        ps = xs.map (fun x => wrap x.1 x.2.1 outer) ∧
        xs.map (fun x => x.2.2) = c.normalizeAll items ∧ ∀ x ∈ xs, Counted x.1 x.2.1 x.2.2
  | [], _, h, _ => by
    rw [Compiler.parts] at h
    cases h
    exact ⟨[], rfl, by rw [Compiler.normalizeAll]; rfl, by simp⟩
  | C :: rest, _, h, hterms => by
    rw [Compiler.parts, bind_eq_ok] at h
    obtain ⟨⟨text, st⟩, hC, h⟩ := h
    dsimp only at h
    rw [bind_eq_ok] at h
    obtain ⟨more, hmore, h⟩ := h
    cases h
    obtain ⟨xs, rfl, hnorm, hall⟩ := parts_counted c outer rest hmore
      (fun sel hs => hterms sel (by simp [Condition.selectionsAll, hs]))
    refine ⟨(text, st, c.normalize C) :: xs, rfl,
      by rw [Compiler.normalizeAll, List.map_cons, hnorm], ?_⟩
    intro x hx
    rcases List.mem_cons.mp hx with rfl | hx
    · exact lower_counted c C hC fun sel hs => hterms sel (by simp [Condition.selectionsAll, hs])
    · exact hall x hx

end

/-- Deleting a byte removes one of it and keeps every other. -/
theorem count_eq_count_eraseIdx {l : Text.Bytes} {n : Nat} {y : UInt8} (h : l[n]? = some y)
    (x : UInt8) : l.count x = (l.eraseIdx n).count x + if y == x then 1 else 0 := by
  obtain ⟨hn, rfl⟩ := List.getElem?_eq_some_iff.mp h
  rw [← (List.getElem_cons_eraseIdx_perm hn).count_eq, List.count_cons]

/-- Every parenthesis of a compiled query is needed: it has one pair for each disjunction that
is an operand of a conjunction and each group that is negated in what the condition means, and
no more, so deleting an opening and a later closing parenthesis leaves a query that does not read
as what the condition means. -/
theorem compile_parentheses_necessary {c : Compiler} {C : Condition} {q : Text.Bytes}
    (h : c.compile C = .ok q)
    (hterms : ∀ sel ∈ C.selections, ∀ w ∈ c.selectionTerms sel, 0x28 ∉ w ∧ 0x29 ∉ w) :
    q.count 0x28 = (c.normalize C).brackets ∧ q.count 0x29 = (c.normalize C).brackets ∧
      ∀ i j, i < j → q[i]? = some 0x28 → q[j]? = some 0x29 →
        read ((q.eraseIdx j).eraseIdx i) ≠ some (c.normalize C) := by
  rw [Compiler.compile, map_eq_ok] at h
  obtain ⟨⟨q', s⟩, hlow, rfl⟩ := h
  have hc := lower_counted c C hlow hterms
  dsimp only
  refine ⟨hc.openings, hc.closings, fun i j hij hi hj hread => ?_⟩
  -- the query without the pair has one opening parenthesis fewer than the tree needs
  have hi' : (q'.eraseIdx j)[i]? = some 0x28 := by
    rw [List.getElem?_eraseIdx_of_lt hij, hi]
  have hclose := count_eq_count_eraseIdx hj 0x28
  have hopen := count_eq_count_eraseIdx hi' 0x28
  rw [if_neg (by decide)] at hclose
  rw [if_pos (by decide)] at hopen
  have hle := brackets_le_of_read hread
  have hcount := hc.openings
  omega

/-- A selection of two values under a conjunction and a negated disjunction compile to a query
with two pairs of parentheses, both needed. -/
theorem compile_parentheses_necessary_negated_disjunction :
    let C : Condition := .and [.select ⟨Text.utf8 "user", .equals, ["alice", "bob"]⟩,
      .not (.or [.select ⟨Text.utf8 "host", .equals, ["web"]⟩,
        .select ⟨Text.utf8 "status", .equals, ["error"]⟩])]
    let q := Text.utf8 "(@user:alice OR @user:bob) AND NOT (@host:web OR @status:error)"
    q.count 0x28 = (Compiler.normalize {} C).brackets ∧
      q.count 0x29 = (Compiler.normalize {} C).brackets ∧
      ∀ i j, i < j → q[i]? = some 0x28 → q[j]? = some 0x29 →
        read ((q.eraseIdx j).eraseIdx i) ≠ some (Compiler.normalize {} C) :=
  compile_parentheses_necessary (by
    simp only [Compiler.compile, Compiler.lower, Compiler.group, Compiler.parts]
    exact eq_ok_of_toOption (by decide +kernel)) (by decide +kernel)

end SigmaQuery.Query
