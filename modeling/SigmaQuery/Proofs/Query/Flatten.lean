import SigmaQuery.Proofs.Query.RoundTrip

/-!
# Compiling a flattened tree

Flattening a condition tree (`Condition.flatten`) drops groups of one branch, splices a group
into a parent of the same connective, and turns a selection of several values into the
disjunction of its values. The compiler writes a tree as its flattened form is written, so the
flattened tree compiles to the same query, or fails the same way, when every group has a
branch and every selection a value, and no negation stands over a group of one missing branch.
The proof reads each branch as the text it adds to a group after the connective's separator.
-/

namespace SigmaQuery

namespace Query.Connective

/-- The group of branches joined by a connective. -/
def node : Connective → List Condition → Condition
  | .and, items => .and items
  | .or, items => .or items

/-- The name the compiler's messages give a connective. -/
def name : Connective → String
  | .and => "and"
  | .or => "or"

/-- The branches of a tree that is a group of the connective. -/
def branches? : Connective → Condition → Option (List Condition)
  | .and, .and items => some items
  | .or, .or items => some items
  | _, _ => none

/-- A group of the connective; one branch stands for itself. -/
def collapse (op : Connective) : List Condition → Condition
  | [c] => c
  | cs => op.node cs

theorem branches?_eq_some {op : Connective} {t : Condition} {ys : List Condition}
    (h : op.branches? t = some ys) : t = op.node ys := by
  cases op <;> cases t <;> simp_all [branches?, node]

@[simp] theorem branches?_node (op : Connective) (ys : List Condition) :
    op.branches? (op.node ys) = some ys := by
  cases op <;> rfl

theorem node_ne_missing (op : Connective) (ys : List Condition) : op.node ys ≠ .missing := by
  cases op <;> simp [node]

theorem collapse_of_two_le {op : Connective} {cs : List Condition} (h : 2 ≤ cs.length) :
    op.collapse cs = op.node cs := by
  match cs, h with
  | _ :: _ :: _, _ => rfl

/-- The separator the compiler writes between the parts of a group of the connective. -/
theorem separator_name (op : Connective) :
    Text.utf8 (" " ++ String.map Char.toUpper op.name ++ " ") = op.separator := by
  cases op
  · exact Compiler.separator_and
  · exact Compiler.separator_or

end Query.Connective

open Query

/-! ### Flattening -/

/-- A selection as one selection per value: with several values, the disjunction of the
selections of each value, in order. -/
def Selection.split (s : Selection) : Condition :=
  if s.values.length < 2 then .select s
  else .or (s.values.map fun v => .select { s with values := [v] })

namespace Condition

/-- Branches of a group of `op`, each branch that is itself a group of `op` replaced in place by
its own branches. -/
def splice (op : Connective) : List Condition → List Condition
  | [] => []
  | c :: rest => (op.branches? c).getD [c] ++ splice op rest

mutual

/-- A tree with its groups of one branch collapsed, groups nested in a group of the same
connective spliced into it, and selections of several values split into disjunctions. -/
def flatten : Condition → Condition
  | .and items => Connective.and.collapse (splice .and (flattenAll items))
  | .or items => Connective.or.collapse (splice .or (flattenAll items))
  | .not operand => .not (flatten operand)
  | .select s => s.split
  | .missing => .missing

/-- Trees, each flattened. -/
def flattenAll : List Condition → List Condition
  | [] => []
  | c :: rest => flatten c :: flattenAll rest

end

theorem flattenAll_eq_map (items : List Condition) : flattenAll items = items.map flatten := by
  induction items with
  | nil => rfl
  | cons c rest ih => rw [flattenAll, ih, List.map_cons]

/-- A group flattens to the collapse of its flattened branches, spliced. -/
theorem flatten_node (op : Connective) (items : List Condition) :
    (op.node items).flatten = op.collapse (splice op (items.map flatten)) := by
  cases op <;> rw [Connective.node, flatten, flattenAll_eq_map]

mutual

/-- Whether every group of a tree has `n` branches at least and every selection a value. -/
def Branching (n : Nat) : Condition → Prop
  | .and items => n ≤ items.length ∧ AllBranching n items
  | .or items => n ≤ items.length ∧ AllBranching n items
  | .not operand => Branching n operand
  | .select s => s.values ≠ []
  | .missing => True

/-- Whether every group of each tree has `n` branches at least and every selection a value. -/
def AllBranching (n : Nat) : List Condition → Prop
  | [] => True
  | c :: rest => Branching n c ∧ AllBranching n rest

end

theorem allBranching_iff {n : Nat} {cs : List Condition} :
    AllBranching n cs ↔ ∀ c ∈ cs, c.Branching n := by
  induction cs with
  | nil => simp [AllBranching]
  | cons c rest ih => simp [AllBranching, ih]

theorem branching_node {n : Nat} {op : Connective} {items : List Condition} :
    (op.node items).Branching n ↔ n ≤ items.length ∧ ∀ c ∈ items, c.Branching n := by
  cases op <;> simp [Connective.node, Branching, allBranching_iff]

/-- A tree whose groups have a branch each adds a branch at least to a group it is spliced
into. -/
theorem getD_ne_nil {n : Nat} (hn : 0 < n) (op : Connective) {t : Condition}
    (ht : t.Branching n) : (op.branches? t).getD [t] ≠ [] := by
  cases h : op.branches? t with
  | none => simp
  | some ys =>
    rw [Connective.branches?_eq_some h, branching_node] at ht
    intro hys
    simp only [Option.getD_some] at hys
    subst hys
    simp at ht
    omega

/-- Splicing keeps every branch, so it keeps or raises the number of branches. -/
theorem length_le_splice {n : Nat} (hn : 0 < n) (op : Connective) {cs : List Condition}
    (h : ∀ c ∈ cs, c.Branching n) : cs.length ≤ (splice op cs).length := by
  induction cs with
  | nil => simp
  | cons c rest ih =>
    have hc := List.length_pos_of_ne_nil (getD_ne_nil hn op (h c List.mem_cons_self))
    have hr := ih fun d hd => h d (List.mem_cons_of_mem _ hd)
    rw [splice, List.length_append, List.length_cons]
    omega

/-- The branches of a splice are the trees spliced, or branches of them. -/
theorem branching_splice {n : Nat} (op : Connective) {cs : List Condition}
    (h : ∀ c ∈ cs, c.Branching n) : ∀ u ∈ splice op cs, u.Branching n := by
  induction cs with
  | nil => simp [splice]
  | cons c rest ih =>
    intro u hu
    rw [splice, List.mem_append] at hu
    rcases hu with hu | hu
    · cases hb : op.branches? c with
      | none =>
        rw [hb, Option.getD_none, List.mem_singleton] at hu
        exact hu ▸ h c List.mem_cons_self
      | some ys =>
        rw [hb, Option.getD_some] at hu
        have hc := h c List.mem_cons_self
        rw [Connective.branches?_eq_some hb, branching_node] at hc
        exact hc.2 u hu
    · exact ih (fun d hd => h d (List.mem_cons_of_mem _ hd)) u hu

theorem branching_collapse {op : Connective} {cs : List Condition} (hne : cs ≠ [])
    (h : ∀ c ∈ cs, c.Branching 2) : (op.collapse cs).Branching 2 := by
  match cs, hne with
  | [c], _ => exact h c List.mem_cons_self
  | c :: d :: rest, _ =>
    rw [Connective.collapse_of_two_le (by simp), branching_node]
    exact ⟨by simp, h⟩

theorem branching_split {s : Selection} (h : s.values ≠ []) : s.split.Branching 2 := by
  unfold Selection.split
  split
  · exact h
  · next hlen =>
    refine ⟨by simp only [List.length_map]; omega, allBranching_iff.mpr ?_⟩
    simp [Branching]

/-- A group of branches that flatten to groups of two branches at least flattens to such a
tree itself. -/
theorem branchingNode_flatten (op : Connective) (items : List Condition) (hne : 1 ≤ items.length)
    (h : ∀ x ∈ items, x.flatten.Branching 2) :
    (op.collapse (splice op (items.map flatten))).Branching 2 := by
  have hall : ∀ u ∈ items.map flatten, u.Branching 2 := by simpa using h
  refine branching_collapse ?_ (branching_splice op hall)
  have := length_le_splice (by decide) op hall
  simp only [List.length_map] at this
  exact List.ne_nil_of_length_pos (by omega)

mutual

/-- Flattening a tree whose groups have a branch each leaves groups of two branches at least. -/
theorem branching_flatten : ∀ x : Condition, x.Branching 1 → x.flatten.Branching 2
  | .and items, ⟨hne, h⟩ => by
    show (Connective.and.node items).flatten.Branching 2
    rw [flatten_node]
    exact branchingNode_flatten .and items hne (branchingAll_flatten items h)
  | .or items, ⟨hne, h⟩ => by
    show (Connective.or.node items).flatten.Branching 2
    rw [flatten_node]
    exact branchingNode_flatten .or items hne (branchingAll_flatten items h)
  | .not operand, h => branching_flatten operand h
  | .select _, h => branching_split h
  | .missing, _ => trivial

theorem branchingAll_flatten : ∀ items : List Condition, AllBranching 1 items →
    ∀ x ∈ items, x.flatten.Branching 2
  | [], _ => by simp
  | x :: rest, ⟨hx, hrest⟩ => by
    intro y hy
    rcases List.mem_cons.mp hy with hy | hy
    · exact hy ▸ branching_flatten x hx
    · exact branchingAll_flatten rest hrest y hy

end

/-- Whether a tree is a group of one branch that is missing, or a group of one branch that is
such a tree in turn. -/
def CollapsesToMissing : Condition → Prop
  | .and [c] => c = .missing ∨ CollapsesToMissing c
  | .or [c] => c = .missing ∨ CollapsesToMissing c
  | _ => False

mutual

/-- Whether no negation of a tree has for operand a tree that collapses to a missing branch. -/
def NegationsClear : Condition → Prop
  | .and items => AllNegationsClear items
  | .or items => AllNegationsClear items
  | .not operand => ¬ operand.CollapsesToMissing ∧ NegationsClear operand
  | .select _ => True
  | .missing => True

/-- Whether no negation of the trees has for operand a tree that collapses to a missing
branch. -/
def AllNegationsClear : List Condition → Prop
  | [] => True
  | c :: rest => NegationsClear c ∧ AllNegationsClear rest

end

/-- A group whose branches flatten to groups of two branches at least flattens to a missing
branch only when it has one branch, which flattens to a missing branch. -/
theorem flatten_node_eq_missing (op : Connective) {items : List Condition} (hne : items ≠ [])
    (hb : ∀ x ∈ items, x.flatten.Branching 2) (h : (op.node items).flatten = .missing) :
    ∃ y, items = [y] ∧ y.flatten = .missing := by
  have hall : ∀ u ∈ items.map flatten, u.Branching 2 := by simpa using hb
  rw [flatten_node] at h
  -- only a collapse of one branch can be missing, and every branch adds one at least
  have hone : splice op (items.map flatten) = [.missing] := by
    match hs : splice op (items.map flatten), h with
    | [c], h =>
      rw [Connective.collapse] at h
      rw [h]
    | [], h => exact absurd h (Connective.node_ne_missing op [])
    | _ :: _ :: _, h =>
      rw [Connective.collapse_of_two_le (by simp)] at h
      exact absurd h (Connective.node_ne_missing op _)
  have hlen := length_le_splice (by decide) op hall
  rw [hone, List.length_map] at hlen
  match items, hne, hlen with
  | [y], _, _ =>
    refine ⟨y, rfl, ?_⟩
    rw [List.map_singleton, splice, splice, List.append_nil] at hone
    cases hy : op.branches? y.flatten with
    | none => simpa [hy] using hone
    | some ys =>
      have hy2 := hb y List.mem_cons_self
      rw [Connective.branches?_eq_some hy, branching_node] at hy2
      rw [hy, Option.getD_some] at hone
      simp [hone] at hy2

/-- A tree whose groups have a branch each flattens to a missing branch only when it is one, or
collapses to one. -/
theorem flatten_eq_missing : ∀ x : Condition, x.Branching 1 → x.flatten = .missing →
    x = .missing ∨ x.CollapsesToMissing
  | .and [y], hb, h => by
    obtain ⟨y', hy', hflat⟩ := flatten_node_eq_missing .and (by simp)
      (branchingAll_flatten _ hb.2) h
    have hy : y.flatten = .missing := by rw [List.singleton_inj.mp hy']; exact hflat
    -- the one branch is missing itself, or collapses to a missing branch
    exact .inr (flatten_eq_missing y hb.2.1 hy)
  | .or [y], hb, h => by
    obtain ⟨y', hy', hflat⟩ := flatten_node_eq_missing .or (by simp)
      (branchingAll_flatten _ hb.2) h
    have hy : y.flatten = .missing := by rw [List.singleton_inj.mp hy']; exact hflat
    exact .inr (flatten_eq_missing y hb.2.1 hy)
  | .and [], hb, _ | .or [], hb, _ => absurd hb.1 (by simp)
  | .and (y :: z :: rest), hb, h => by
    obtain ⟨_, hy', _⟩ := flatten_node_eq_missing .and (by simp)
      (branchingAll_flatten _ hb.2) h
    simp at hy'
  | .or (y :: z :: rest), hb, h => by
    obtain ⟨_, hy', _⟩ := flatten_node_eq_missing .or (by simp)
      (branchingAll_flatten _ hb.2) h
    simp at hy'
  | .not _, _, h => by simp [flatten] at h
  | .select s, _, h => by
    unfold flatten Selection.split at h
    split at h <;> cases h
  | .missing, _, _ => .inl rfl

end Condition

/-! ### What a branch adds to a group -/

namespace Query.Compiler

variable (c : Compiler)

/-- The text a tree adds to a group of `op`: the separator, then its part, parenthesised as
the group needs. -/
def branchText (op : Connective) (x : Condition) : Except RuleError Text.Bytes :=
  (fun p => op.separator ++ wrap p.1 p.2 op.strength) <$> c.lower x

/-- The text branches add to a group of `op`: each part after the separator. -/
def chainText (op : Connective) (items : List Condition) : Except RuleError Text.Bytes :=
  (fun ps => ps.flatMap (op.separator ++ ·)) <$> c.parts op.strength items

theorem lower_node (op : Connective) (items : List Condition) :
    c.lower (op.node items) = c.group op.strength op.name items := by
  cases op <;> rw [Connective.node, lower] <;> rfl

/-- A group of one branch is written as its branch. -/
theorem group_singleton (st : Strength) (name : String) (x : Condition) :
    c.group st name [x] = c.lower x := by
  rw [group]

/-- A group of two branches or more is its parts joined by its operator. -/
theorem group_of_two_le {st : Strength} {name : String} {items : List Condition}
    (h : 2 ≤ items.length) :
    c.group st name items =
      (fun ps => ((Text.utf8 (" " ++ String.map Char.toUpper name ++ " ")).intercalate ps, st)) <$>
        c.parts st items := by
  match items, h with
  | x :: y :: rest, _ =>
    rw [group]
    · simp only [bind_pure_comp]
    all_goals simp

theorem parts_length {st : Strength} :
    ∀ {items : List Condition} {ps : List Text.Bytes}, c.parts st items = .ok ps →
      ps.length = items.length
  | [], ps, h => by rw [parts] at h; cases h; rfl
  | x :: rest, ps, h => by
    rw [parts, bind_eq_ok] at h
    obtain ⟨_, -, h⟩ := h
    rw [bind_eq_ok] at h
    obtain ⟨more, hmore, h⟩ := h
    cases h
    simp [parts_length hmore]

/-- Two readings of the parts of branches agree when they agree on every list of as many
parts. -/
theorem map_parts_congr {α : Type} {f g : List Text.Bytes → α} {st : Strength}
    {items : List Condition} (h : ∀ ps : List Text.Bytes, ps.length = items.length → f ps = g ps) :
    f <$> c.parts st items = g <$> c.parts st items := by
  cases hp : c.parts st items with
  | error e => rfl
  | ok ps => simp [h ps (c.parts_length hp), Functor.map, Except.map]

theorem parts_append (st : Strength) (xs ys : List Condition) :
    c.parts st (xs ++ ys) = (do let a ← c.parts st xs; let b ← c.parts st ys; pure (a ++ b)) := by
  induction xs with
  | nil =>
    rw [List.nil_append, parts]
    cases c.parts st ys <;> rfl
  | cons x rest ih =>
    rw [List.cons_append, parts, parts, ih]
    simp [bind_assoc]

/-- Parts written each after a separator are the separator, then the parts joined by it. -/
theorem flatMap_separator (sep p : Text.Bytes) (ps : List Text.Bytes) :
    (p :: ps).flatMap (sep ++ ·) = sep ++ sep.intercalate (p :: ps) := by
  induction ps generalizing p with
  | nil => simp
  | cons q ps ih =>
    rw [List.flatMap_cons, ih, List.intercalate_cons_cons]
    simp

/-- A part binds as tightly as a group of its own strength needs. -/
theorem wrap_self (t : Text.Bytes) (st : Strength) : wrap t st st = t := by
  simp [wrap]

/-- A single term is never parenthesised. -/
theorem wrap_term (t : Text.Bytes) (st : Strength) : wrap t .term st = t := by
  cases st <;> simp [wrap, Strength.rank]

theorem chainText_nil (op : Connective) : c.chainText op [] = .ok [] := by
  rw [chainText, parts]
  rfl

theorem chainText_cons (op : Connective) (x : Condition) (rest : List Condition) :
    c.chainText op (x :: rest) =
      (do let s ← c.branchText op x; let t ← c.chainText op rest; pure (s ++ t)) := by
  rw [chainText, branchText, parts, chainText]
  cases c.lower x with
  | error e => rfl
  | ok p => cases c.parts op.strength rest <;> rfl

theorem chainText_singleton (op : Connective) (x : Condition) :
    c.chainText op [x] = c.branchText op x := by
  rw [chainText_cons, chainText_nil]
  cases c.branchText op x <;> simp [bind, Except.bind, pure, Except.pure]

/-- The texts of two runs of branches add up. -/
theorem chainText_append (op : Connective) (xs ys : List Condition) :
    c.chainText op (xs ++ ys) =
      (do let s ← c.chainText op xs; let t ← c.chainText op ys; pure (s ++ t)) := by
  rw [chainText, chainText, chainText, parts_append]
  simp [List.flatMap_append]

/-- A group of two branches or more is written as the text its branches add, less the first
separator. -/
theorem lower_node_eq {op : Connective} {items : List Condition} (h : 2 ≤ items.length) :
    c.lower (op.node items) =
      (fun t => (t.drop op.separator.length, op.strength)) <$> c.chainText op items := by
  rw [lower_node, group_of_two_le c h, Connective.separator_name, chainText, Functor.map_map]
  apply map_parts_congr
  intro ps hps
  obtain ⟨p, ps', rfl⟩ := List.exists_cons_of_ne_nil (List.ne_nil_of_length_pos (show 0 < ps.length by omega))
  rw [flatMap_separator, List.drop_left]

/-- A group of branches, as a branch of a group of the same connective, adds the text its own
branches add. -/
theorem branchText_node {op : Connective} {ys : List Condition} (hys : ys ≠ []) :
    c.branchText op (op.node ys) = c.chainText op ys := by
  match ys, hys with
  | [y], _ => rw [branchText, lower_node, group_singleton, chainText_singleton, branchText]
  | y :: z :: rest, _ =>
    rw [branchText, lower_node_eq c (by simp), Functor.map_map, chainText, Functor.map_map]
    apply map_parts_congr
    intro ps hps
    obtain ⟨p, ps', rfl⟩ :=
      List.exists_cons_of_ne_nil (List.ne_nil_of_length_pos (show 0 < ps.length by simp [hps]))
    simp only [flatMap_separator, List.drop_left, wrap_self]

theorem branchText_congr (op : Connective) {x y : Condition} (h : c.lower x = c.lower y) :
    c.branchText op x = c.branchText op y := by
  rw [branchText, branchText, h]

/-- What a tree adds to a group of `op` when its branches are spliced in, if it is a group of
`op`, is what it adds as one branch. -/
theorem chainText_getD (op : Connective) {t : Condition} (ht : (op.branches? t).getD [t] ≠ []) :
    c.chainText op ((op.branches? t).getD [t]) = c.branchText op t := by
  cases h : op.branches? t with
  | none => rw [Option.getD_none, chainText_singleton]
  | some ys =>
    rw [h, Option.getD_some] at ht
    rw [Option.getD_some, Connective.branches?_eq_some h, branchText_node c ht]

/-- Splicing groups of the same connective into a group keeps the text its branches add. -/
theorem chainText_splice (op : Connective) {items : List Condition}
    (h : ∀ t ∈ items, (op.branches? t).getD [t] ≠ []) :
    c.chainText op (Condition.splice op items) = c.chainText op items := by
  induction items with
  | nil => rfl
  | cons t rest ih =>
    rw [Condition.splice, chainText_append, chainText_getD c op (h t List.mem_cons_self),
      ih fun u hu => h u (List.mem_cons_of_mem _ hu), chainText_cons]

/-! ### Groups -/

/-- A group collapsed to its one branch is written as the group would be. -/
theorem lower_collapse (op : Connective) {cs : List Condition} (hne : cs ≠ []) :
    c.lower (op.collapse cs) = c.lower (op.node cs) := by
  match cs, hne with
  | [x], _ => rw [Connective.collapse, lower_node, group_singleton]
  | _ :: _ :: _, _ => rw [Connective.collapse_of_two_le (by simp)]

/-- A tree alone in a group of its own connective, its branches spliced in, is written as
before. -/
theorem lower_collapse_splice_singleton (op : Connective) {t : Condition}
    (ht : (op.branches? t).getD [t] ≠ []) :
    c.lower (op.collapse (Condition.splice op [t])) = c.lower t := by
  rw [Condition.splice, Condition.splice, List.append_nil, lower_collapse c op ht]
  cases h : op.branches? t with
  | none => rw [Option.getD_none, lower_node, group_singleton]
  | some ys => rw [Option.getD_some, ← Connective.branches?_eq_some h]

/-- Branches written as before add the same text. -/
theorem chainText_map_flatten (op : Connective) {items : List Condition}
    (h : ∀ x ∈ items, c.lower x.flatten = c.lower x) :
    c.chainText op (items.map Condition.flatten) = c.chainText op items := by
  induction items with
  | nil => rfl
  | cons x rest ih =>
    rw [List.map_cons, chainText_cons, chainText_cons, branchText_congr c op (h x List.mem_cons_self),
      ih fun y hy => h y (List.mem_cons_of_mem _ hy)]

/-- A group whose branches each flatten to trees written as they are flattens to a tree
written as the group is. -/
theorem lower_flatten_node (op : Connective) {items : List Condition} (hne : items ≠ [])
    (hb : ∀ x ∈ items, x.Branching 1) (h : ∀ x ∈ items, c.lower x.flatten = c.lower x) :
    c.lower (op.node items).flatten = c.lower (op.node items) := by
  have hflat : ∀ u ∈ items.map Condition.flatten, u.Branching 2 := by
    simpa using Condition.branchingAll_flatten items (Condition.allBranching_iff.mpr hb)
  have hadd : ∀ u ∈ items.map Condition.flatten, (op.branches? u).getD [u] ≠ [] :=
    fun u hu => Condition.getD_ne_nil (by decide) op (hflat u hu)
  rw [Condition.flatten_node]
  match items, hne with
  | [x], _ =>
    -- one branch: the group is written as the branch, and so is its flattened form
    rw [List.map_singleton, lower_collapse_splice_singleton c op (hadd _ List.mem_cons_self),
      h x List.mem_cons_self, lower_node, group_singleton]
  | x :: y :: rest, _ =>
    -- two branches or more: the flattened branches, spliced, add the text the branches add
    have hlen := Condition.length_le_splice (by decide) op hflat
    simp only [List.length_map, List.length_cons] at hlen
    rw [Connective.collapse_of_two_le (by omega), lower_node_eq c (by omega),
      lower_node_eq c (by simp), chainText_splice c op hadd, chainText_map_flatten c op h]

/-! ### Selections and negations -/

/-- A selection of one value is its term after the field prefix. -/
theorem selection_single (s : Selection) (v : String) :
    c.selection { s with values := [v] } =
      (fun t => (c.fieldPrefix s ++ Text.utf8 t, Strength.term)) <$> term s.modifier v := by
  have hpfx : c.fieldPrefix { s with values := [v] } = c.fieldPrefix s := rfl
  rw [selection, if_neg (by simp), hpfx, terms]
  cases term s.modifier v <;> rfl

/-- A selection of two values or more is its terms joined by `OR`. -/
theorem selection_of_two_le {s : Selection} (h : 2 ≤ s.values.length) :
    c.selection s = (fun ts => (Connective.or.separator.intercalate ts, Strength.disjunction)) <$>
      terms (c.fieldPrefix s) s.modifier s.values := by
  have hsep : Text.utf8 " OR " = Connective.or.separator := by decide +kernel
  have hne : s.values.isEmpty = false := by
    cases hv : s.values <;> simp_all
  rw [selection, if_neg (by simp [hne])]
  cases ht : terms (c.fieldPrefix s) s.modifier s.values with
  | error e => rfl
  | ok ts =>
    have hlen := terms_length ht
    match ts, hlen with
    | _ :: _ :: _, _ => simp [hsep, bind, Except.bind, pure, Except.pure, Functor.map, Except.map]
    | [], hlen | [_], hlen => simp at hlen; omega

/-- The selections of single values are written as the terms of the values. -/
theorem parts_singles (st : Strength) (s : Selection) :
    ∀ vs : List String, c.parts st (vs.map fun v => Condition.select { s with values := [v] }) =
      terms (c.fieldPrefix s) s.modifier vs
  | [] => by rw [List.map_nil, parts, terms]
  | v :: rest => by
    rw [List.map_cons, parts, terms, lower, selection_single, parts_singles st s rest]
    cases term s.modifier v with
    | error e => rfl
    | ok t => simp [wrap_term, bind, Except.bind, pure, Except.pure, Functor.map, Except.map]

/-- A selection split into the selections of its values is written as the selection is. -/
theorem lower_split (s : Selection) :
    c.lower s.split = c.lower (.select s) := by
  unfold Selection.split
  split
  · rfl
  · next hlen =>
    have h2 : 2 ≤ s.values.length := by omega
    have hnode : c.lower (.or (s.values.map fun v => .select { s with values := [v] })) =
        c.lower (Connective.or.node (s.values.map fun v => .select { s with values := [v] })) :=
      rfl
    rw [hnode, lower_node, group_of_two_le c (by simpa using h2), Connective.separator_name,
      parts_singles, lower, selection_of_two_le c h2]
    rfl

/-- A negation of a present operand is `NOT ` before the operand's part. -/
theorem lower_not {operand : Condition} (h : operand ≠ .missing) :
    c.lower (.not operand) =
      (fun p => (Text.utf8 "NOT " ++ wrap p.1 p.2 .negation, Strength.negation)) <$>
        c.lower operand := by
  rw [lower]
  · cases c.lower operand <;> rfl
  · exact h

/-! ### Flattened trees -/

mutual

/-- A tree whose groups have a branch each and whose negations have operands that do not
collapse to a missing branch is written as its flattened form is. -/
theorem lower_flatten : ∀ x : Condition, x.Branching 1 → x.NegationsClear →
    c.lower x.flatten = c.lower x
  | .and items, ⟨hne, hb⟩, hn =>
    lower_flatten_node c .and (List.ne_nil_of_length_pos hne)
      (Condition.allBranching_iff.mp hb) (lower_flattenAll items hb hn)
  | .or items, ⟨hne, hb⟩, hn =>
    lower_flatten_node c .or (List.ne_nil_of_length_pos hne)
      (Condition.allBranching_iff.mp hb) (lower_flattenAll items hb hn)
  | .not operand, hb, ⟨hc, hn⟩ => by
    by_cases ho : operand = .missing
    · rw [ho]
      rfl
    · -- the operand stays present once flattened, so both negations write it after `NOT `
      have hf : operand.flatten ≠ .missing := fun h =>
        (Condition.flatten_eq_missing operand hb h).elim ho hc
      rw [Condition.flatten, lower_not c hf, lower_not c ho, lower_flatten operand hb hn]
  | .select s, _, _ => lower_split c s
  | .missing, _, _ => rfl

/-- Trees whose groups have a branch each and whose negations have operands that do not
collapse to a missing branch are written as their flattened forms are. -/
theorem lower_flattenAll : ∀ items : List Condition, Condition.AllBranching 1 items →
    Condition.AllNegationsClear items → ∀ x ∈ items, c.lower x.flatten = c.lower x
  | [], _, _ => by simp
  | x :: rest, ⟨hx, hrest⟩, ⟨nx, nrest⟩ => by
    intro y hy
    rcases List.mem_cons.mp hy with hy | hy
    · exact hy ▸ lower_flatten x hx nx
    · exact lower_flattenAll rest hrest nrest y hy

end

/-- Compiling a flattened tree gives the query the tree compiles to, or the same failure,
whenever every group of the tree has a branch, every selection a value, and no negation has
for operand a group of one branch that is, or collapses to, a missing branch. -/
theorem compile_flatten {C : Condition} (hb : C.Branching 1) (hn : C.NegationsClear) :
    c.compile C.flatten = c.compile C := by
  rw [compile, compile, lower_flatten c C hb hn]

/-- A conjunction of a conjunction (of a selection of two values and a negated disjunction of
one branch) and a disjunction of one disjunction compiles as its flattened form does. -/
theorem compile_flatten_nested :
    ∃ C : Condition, C = .and [.and [.select ⟨Text.utf8 "user", .equals, ["alice", "bob"]⟩,
        .not (.or [.select ⟨Text.utf8 "host", .contains, ["web"]⟩])],
      .or [.or [.select ⟨[], .equals, ["x"]⟩, .select ⟨Text.utf8 "port", .equals, ["22"]⟩]]] ∧
      C.Branching 1 ∧ C.NegationsClear ∧
      ({} : Compiler).compile C.flatten = ({} : Compiler).compile C := by
  have hb : (Condition.and [.and [.select ⟨Text.utf8 "user", .equals, ["alice", "bob"]⟩,
      .not (.or [.select ⟨Text.utf8 "host", .contains, ["web"]⟩])],
      .or [.or [.select ⟨[], .equals, ["x"]⟩,
        .select ⟨Text.utf8 "port", .equals, ["22"]⟩]]]).Branching 1 := by
    simp [Condition.Branching, Condition.AllBranching]
  have hn : (Condition.and [.and [.select ⟨Text.utf8 "user", .equals, ["alice", "bob"]⟩,
      .not (.or [.select ⟨Text.utf8 "host", .contains, ["web"]⟩])],
      .or [.or [.select ⟨[], .equals, ["x"]⟩,
        .select ⟨Text.utf8 "port", .equals, ["22"]⟩]]]).NegationsClear := by
    simp [Condition.NegationsClear, Condition.AllNegationsClear, Condition.CollapsesToMissing]
  exact ⟨_, rfl, hb, hn, compile_flatten {} hb hn⟩

/-- Without the condition on negations the two compilations differ: the negation of a
conjunction whose one branch is missing fails as a missing branch, while its flattened form,
the negation of a missing branch, fails as a negation without operand. -/
theorem compile_flatten_negated_missing :
    (Condition.not (.and [.missing])).Branching 1 ∧
      ({} : Compiler).compile (Condition.not (.and [.missing])).flatten ≠
        ({} : Compiler).compile (.not (.and [.missing])) := by
  have hflat : (Condition.not (.and [.missing])).flatten = .not .missing := by
    simp [Condition.flatten, Condition.flattenAll, Condition.splice, Connective.branches?,
      Connective.collapse]
  refine ⟨by simp [Condition.Branching, Condition.AllBranching], ?_⟩
  rw [hflat]
  simp [compile, lower, group, Functor.map, Except.map]

end Query.Compiler

end SigmaQuery
