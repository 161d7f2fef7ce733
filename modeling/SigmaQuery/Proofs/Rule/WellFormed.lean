import SigmaQuery.Proofs.Rule.Sentences
import SigmaQuery.Rule.Parse

/-!
# Well-formed condition trees

A tree is well formed when no branch is missing, every conjunction and disjunction has two
branches at least, and every selection has a value and compares by one of the named modifiers.
Every way a rule's tree is built keeps to this: a field is a selection of its values, or the
conjunction of one selection per value under `all`; an entry is the conjunction of its fields,
the disjunction of its maps, or a keyword selection; the builder joins operands with `allOf`
and `anyOf`, which leave a single operand as it is, and refuses an empty conjunction, an empty
quantifier and a field without values. So every tree `Rule.parse` gives is well formed.
-/

namespace SigmaQuery

namespace Condition

mutual

/-- The selections of a tree, in the order they are written. -/
def selections : Condition → List Selection
  | .and items => selectionsAll items
  | .or items => selectionsAll items
  | .not operand => selections operand
  | .select s => [s]
  | .missing => []

/-- The selections of trees, in the order they are written. -/
def selectionsAll : List Condition → List Selection
  | [] => []
  | c :: rest => selections c ++ selectionsAll rest

end

/-- The modifiers a selection can compare by. -/
def namedModifiers : List Modifier := [.equals, .contains, .startsWith, .endsWith, .cidr, .regex]

mutual

/-- Whether a tree is well formed: no branch is missing, every conjunction and disjunction has
two branches at least, and every selection has a value and a named modifier. -/
def WellFormed : Condition → Prop
  | .and items => 2 ≤ items.length ∧ AllWellFormed items
  | .or items => 2 ≤ items.length ∧ AllWellFormed items
  | .not operand => WellFormed operand
  | .select s => s.values ≠ [] ∧ s.modifier ∈ namedModifiers
  | .missing => False

/-- Whether trees are all well formed. -/
def AllWellFormed : List Condition → Prop
  | [] => True
  | c :: rest => WellFormed c ∧ AllWellFormed rest

end

theorem allWellFormed_iff {cs : List Condition} : AllWellFormed cs ↔ ∀ c ∈ cs, c.WellFormed := by
  induction cs with
  | nil => simp [AllWellFormed]
  | cons c rest ih => simp [AllWellFormed, ih]

/-- The conjunction of well-formed branches, one at least, is well formed. -/
theorem allOf_wellFormed {cs : List Condition} (hne : cs ≠ []) (h : ∀ c ∈ cs, c.WellFormed) :
    (allOf cs).WellFormed := by
  match cs, hne with
  | [c], _ => exact h c List.mem_cons_self
  | c :: d :: rest, _ =>
    exact ⟨by simp, allWellFormed_iff.mpr h⟩

/-- The disjunction of well-formed branches, one at least, is well formed. -/
theorem anyOf_wellFormed {cs : List Condition} (hne : cs ≠ []) (h : ∀ c ∈ cs, c.WellFormed) :
    (anyOf cs).WellFormed := by
  match cs, hne with
  | [c], _ => exact h c List.mem_cons_self
  | c :: d :: rest, _ =>
    exact ⟨by simp, allWellFormed_iff.mpr h⟩

end Condition

/-! ### Selections and entries -/

namespace FieldKey

/-- Modifiers applied to a key with a named comparison leave a named comparison. -/
theorem applyMods_modifier {key : String} {fk fk' : FieldKey} {n n' : Nat} {ms : List String}
    (h : applyMods key fk n ms = .ok (fk', n')) (hfk : fk.modifier ∈ Condition.namedModifiers) :
    fk'.modifier ∈ Condition.namedModifiers := by
  induction ms generalizing fk n with
  | nil =>
    cases h
    exact hfk
  | cons m rest ih =>
    unfold applyMods at h
    -- each comparison modifier sets a named one; `all` and `expand` keep it
    split at h
    · exact ih h (by simp [Condition.namedModifiers])
    · exact ih h (by simp [Condition.namedModifiers])
    · exact ih h (by simp [Condition.namedModifiers])
    · exact ih h (by simp [Condition.namedModifiers])
    · exact ih h (by simp [Condition.namedModifiers])
    · exact ih h hfk
    · exact ih h hfk
    · cases h

/-- A parsed field key compares by a named modifier. -/
theorem parse_modifier {key : Text.Bytes} {fk : FieldKey} (h : parse key = .ok fk) :
    fk.modifier ∈ Condition.namedModifiers := by
  rw [parse, bind_eq_ok] at h
  obtain ⟨⟨fk', n⟩, hmods, h⟩ := h
  have hnamed := applyMods_modifier hmods (by simp [Condition.namedModifiers])
  dsimp only at h
  split at h
  · cases h
  · cases h
    exact hnamed

end FieldKey

namespace Condition

/-- Every value of a field gives one text. -/
theorem textsOf_length {key : String} {items : List Value} {texts : List String}
    (h : textsOf key items = .ok texts) : texts.length = items.length := by
  induction items generalizing texts with
  | nil =>
    cases h
    rfl
  | cons v rest ih =>
    cases v with
    | text s =>
      obtain ⟨texts', h', rfl⟩ := map_eq_ok.mp h
      simp [ih h']
    | _ => cases h

/-- A field is a selection of its values, or under `all` the conjunction of one selection per
value; either way it has a value at least. -/
theorem ofField_ok {ph : Option Placeholders} {key : Text.Bytes} {v : Value} {c : Condition}
    (h : ofField ph key v = .ok c) :
    ∃ fk values, FieldKey.parse key = .ok fk ∧ values ≠ [] ∧
      c = if fk.all = true ∧ 1 < values.length then
          .and (values.map fun x => .select ⟨fk.field, fk.modifier, [x]⟩)
        else .select ⟨fk.field, fk.modifier, values⟩ := by
  rw [ofField, bind_eq_ok] at h
  obtain ⟨fk, hfk, h⟩ := h
  -- every way through reads the values, expands them when asked to, and refuses none
  cases v <;> simp [bind, Except.bind, pure, Except.pure, throw, throwThe, MonadExceptOf.throw] at h
  all_goals
    repeat' split at h
    all_goals cases h
    all_goals
      rename_i hne hall
      exact ⟨fk, _, hfk, hne, by simp [hall]⟩

theorem ofField_wellFormed {ph : Option Placeholders} {key : Text.Bytes} {v : Value}
    {c : Condition} (h : ofField ph key v = .ok c) : c.WellFormed := by
  obtain ⟨fk, values, hfk, hne, rfl⟩ := ofField_ok h
  have hmod := FieldKey.parse_modifier hfk
  split
  · next hall =>
    refine ⟨by simp; omega, allWellFormed_iff.mpr ?_⟩
    intro c hc
    obtain ⟨x, -, rfl⟩ := List.mem_map.mp hc
    exact ⟨List.cons_ne_nil _ _, hmod⟩
  · exact ⟨hne, hmod⟩

/-- The fields of a map give one well-formed tree each. -/
theorem ofFields_wellFormed {ph : Option Placeholders} {fields : List (Text.Bytes × Value)}
    {cs : List Condition} (h : ofFields ph fields = .ok cs) :
    cs.length = fields.length ∧ ∀ c ∈ cs, c.WellFormed := by
  induction fields generalizing cs with
  | nil =>
    cases h
    simp
  | cons kv rest ih =>
    obtain ⟨k, v⟩ := kv
    rw [ofFields, bind_eq_ok] at h
    obtain ⟨c, hc, h⟩ := h
    rw [bind_eq_ok] at h
    obtain ⟨cs', hcs', h⟩ := h
    cases h
    obtain ⟨hlen, hwf⟩ := ih hcs'
    refine ⟨by simp [hlen], ?_⟩
    intro c' hc'
    rcases List.mem_cons.mp hc' with rfl | hc'
    · exact ofField_wellFormed hc
    · exact hwf c' hc'

/-- A map is the conjunction of its fields, of which it has one at least. -/
theorem ofMap_wellFormed {ph : Option Placeholders} {key : String}
    {fields : List (Text.Bytes × Value)} {c : Condition} (h : ofMap ph key fields = .ok c) :
    c.WellFormed := by
  rw [ofMap] at h
  split at h
  · cases h
  · next hne =>
    obtain ⟨cs, hcs, rfl⟩ := map_eq_ok.mp h
    obtain ⟨hlen, hwf⟩ := ofFields_wellFormed hcs
    refine allOf_wellFormed ?_ hwf
    intro hnil
    rw [hnil] at hlen
    exact hne (by simpa using hlen.symm)

/-- Maps give one well-formed conjunction each, and a list that starts with a map gives one at
least. -/
theorem ofMaps_wellFormed {ph : Option Placeholders} {key : String} {items : List Value}
    {cs : List Condition} (h : ofMaps ph key items = .ok cs) :
    (∀ c ∈ cs, c.WellFormed) ∧ ∀ fields rest, items = .map fields :: rest → cs ≠ [] := by
  induction items generalizing cs with
  | nil =>
    cases h
    simp
  | cons v rest ih =>
    cases v with
    | map fields =>
      rw [ofMaps, bind_eq_ok] at h
      obtain ⟨c, hc, h⟩ := h
      rw [bind_eq_ok] at h
      obtain ⟨cs', hcs', h⟩ := h
      cases h
      refine ⟨?_, fun _ _ _ => List.cons_ne_nil _ _⟩
      intro c' hc'
      rcases List.mem_cons.mp hc' with rfl | hc'
      · exact ofMap_wellFormed hc
      · exact (ih hcs').1 c' hc'
    | _ =>
      -- an item that is not a map is passed over
      rw [ofMaps] at h
      · exact ⟨(ih h).1, by simp⟩
      · intro _ hv
        cases hv

/-- A list whose shape is that of maps holds only maps. -/
theorem eq_map_of_listShape {items : List Value} (h : listShape items = .maps) :
    ∀ v ∈ items, ∃ fields, v = .map fields := by
  intro v hv
  unfold listShape at h
  dsimp only at h
  split at h
  · cases h
  · next hany =>
    split at h
    · next hall =>
      have hmap := List.all_eq_true.mp hall v hv
      cases v with
      | map fields => exact ⟨fields, rfl⟩
      | _ => cases hmap
    · split at h <;> cases h

/-- Every entry that builds gives a well-formed tree. -/
theorem ofEntry_wellFormed {ph : Option Placeholders} {key : String} {v : Value}
    {c : Condition} (h : ofEntry ph key v = .ok c) : c.WellFormed := by
  unfold ofEntry at h
  split at h
  · exact ofMap_wellFormed h
  · cases h
  · next items hne =>
    split at h
    · next hshape =>
      obtain ⟨cs, hcs, rfl⟩ := map_eq_ok.mp h
      obtain ⟨hwf, hne'⟩ := ofMaps_wellFormed hcs
      -- the list is not empty and holds only maps, so it starts with one
      obtain ⟨x, rest, rfl⟩ := List.exists_cons_of_ne_nil (by simpa using hne)
      obtain ⟨fields, rfl⟩ := eq_map_of_listShape hshape x List.mem_cons_self
      exact anyOf_wellFormed (hne' fields rest rfl) hwf
    · rw [bind_eq_ok] at h
      obtain ⟨values, hvalues, h⟩ := h
      cases h
      have hlen := textsOf_length hvalues
      refine ⟨fun hnil => hne ?_, by simp [namedModifiers]⟩
      have hnil' : values = [] := hnil
      rw [hnil'] at hlen
      exact List.length_eq_zero_iff.mp hlen.symm
    · cases h
  · cases h
  · cases h
    exact ⟨List.cons_ne_nil _ _, by simp [namedModifiers]⟩

end Condition

/-! ### The builder -/

namespace Build

open SigmaQuery.Expr Grammar

/-- The entries a quantifier selects give well-formed trees. -/
theorem quantified_wellFormed {ph : Option Placeholders} {pat : Option Wildcard.Matcher}
    {detection : List (Text.Bytes × Value)} {conds : List Condition}
    (h : quantified ph pat detection = .ok conds) : ∀ c ∈ conds, c.WellFormed := by
  rw [quantified_eq_mapM] at h
  intro c hc
  obtain ⟨kv, -, hkv⟩ := mem_of_mapM_eq_ok h c hc
  exact Condition.ofEntry_wellFormed hkv

/-- A quantifier's tree of well-formed trees, one at least, is well formed. -/
theorem combine_wellFormed (q : Quantifier) {cs : List Condition} (hne : cs ≠ [])
    (h : ∀ c ∈ cs, c.WellFormed) : (combine q cs).WellFormed := by
  cases q
  · exact Condition.anyOf_wellFormed hne h
  · exact Condition.allOf_wellFormed hne h

/-- What the builder has gathered is well formed: the operands of the open conjunction and
the closed branches. -/
structure Branch.Invariant (b : Branch) : Prop where
  conj : ∀ c ∈ b.conj, c.WellFormed
  disj : ∀ c ∈ b.disj, c.WellFormed

namespace Branch.Invariant

theorem empty : Branch.Invariant {} := ⟨by simp, by simp⟩

/-- Adding a well-formed operand, negated or not, keeps the invariant. -/
theorem push {b : Branch} (hb : b.Invariant) {c : Condition} (hc : c.WellFormed) :
    (b.push c).Invariant := by
  refine ⟨?_, hb.disj⟩
  intro c' hc'
  rcases List.mem_cons.mp hc' with rfl | hc'
  · split
    · exact hc
    · exact hc
  · exact hb.conj c' hc'

/-- Closing an open conjunction as a branch keeps the invariant. -/
theorem closeBranch {b : Branch} (hb : b.Invariant) (hne : b.conj ≠ []) :
    ({ b with disj := Condition.allOf b.conj.reverse :: b.disj, conj := [] } : Branch).Invariant := by
  refine ⟨by simp, ?_⟩
  intro c hc
  rcases List.mem_cons.mp hc with rfl | hc
  · exact Condition.allOf_wellFormed (by simpa using hne) fun c hc => hb.conj c (by simpa using hc)
  · exact hb.disj c hc

/-- A finished branch is the disjunction of well-formed conjunctions. -/
theorem close {b : Branch} (hb : b.Invariant) {depth : Nat} {c : Condition}
    (h : b.close depth = .ok c) : c.WellFormed := by
  rw [Branch.close] at h
  split at h
  · cases h
  · next hne =>
    cases h
    have hne' : b.conj ≠ [] := by simpa using hne
    refine Condition.anyOf_wellFormed (by simp) ?_
    intro c hc
    rcases List.mem_cons.mp (List.mem_reverse.mp hc) with rfl | hc
    · exact Condition.allOf_wellFormed (by simpa using hne') fun c hc => hb.conj c (by simpa using hc)
    · exact hb.disj c hc

end Branch.Invariant

/-- Every tree the builder gives is well formed, whatever it had gathered, as long as that
was well formed. -/
theorem steps_wellFormed {detection : List (Text.Bytes × Value)} {ph : Option Placeholders} :
    ∀ (depth : Nat) (b : Branch) (ts : List Token) {c : Condition}, b.Invariant →
      steps detection ph depth b ts = .ok c → c.WellFormed
  | depth, b, [], c, hb, h => hb.close (by rwa [steps] at h)
  | depth, b, t :: rest, c, hb, h => by
    -- one token at a time: every step keeps the invariant, and a group is built on its own
    rcases steps_cons_ok h with ⟨v, c', -, -, hc', h⟩ | h | ⟨hne, h⟩ | h | ⟨c', hin, h⟩ |
      ⟨pat, conds, q, hq, hne, -, h⟩ | ⟨q, h⟩
    · refine steps_wellFormed depth _ rest ?_ h
      have hpush := hb.push (Condition.ofEntry_wellFormed hc')
      exact ⟨hpush.conj, hpush.disj⟩
    · exact steps_wellFormed depth b rest hb h
    · exact steps_wellFormed depth _ rest (hb.closeBranch hne) h
    · refine steps_wellFormed depth _ rest ?_ h
      exact ⟨hb.conj, hb.disj⟩
    · have hc' := steps_wellFormed (depth + 1) {} _ Branch.Invariant.empty hin
      exact steps_wellFormed depth _ _ (hb.push hc') h
    · refine steps_wellFormed depth _ rest ?_ h
      have hpush := hb.push (combine_wellFormed q hne (quantified_wellFormed hq))
      exact ⟨hpush.conj, hpush.disj⟩
    · refine steps_wellFormed depth _ rest ?_ h
      exact ⟨hb.conj, hb.disj⟩
termination_by _ _ ts => ts.length
decreasing_by
  all_goals simp only [List.length_cons]
  all_goals try omega
  all_goals
    have := group_length 0 [] rest
    simp only [List.length_nil] at this
    omega

end Build

/-- Every tree a condition builds into is well formed. -/
theorem Condition.build_wellFormed {detection : List (Text.Bytes × Value)}
    {ph : Option Placeholders} {s : String} {c : Condition}
    (h : Condition.build detection ph s = .ok c) : c.WellFormed := by
  rw [Condition.build, bind_eq_ok] at h
  obtain ⟨tokens, -, h⟩ := h
  exact Build.steps_wellFormed 0 {} tokens Build.Branch.Invariant.empty h

namespace Rule

/-- A rule is built from its fields when they give metadata, a detection, and a condition
text that is not blank and builds into a tree over the detection. -/
theorem ofRaw_of_build {raw : RawRule} {path : String} {ph : Option Placeholders}
    {info : Metadata} {detection : List (Text.Bytes × Value)} {expr : String} {root : Condition}
    (hinfo : raw.metadata = .ok info) (hdetection : raw.detection = some detection)
    (hexpr : Build.entry? detection "condition" = some (.text expr))
    (hblank : Text.trimBlank expr ≠ "") (hbuild : Condition.build detection ph expr = .ok root) :
    ofRaw raw false path ph = .ok { root, metadata := info, path } := by
  simp [ofRaw, hinfo, hdetection, hexpr, hblank, hbuild, bind, Except.bind, pure, Except.pure]

/-- A rule's tree is what its condition builds into over its detection. -/
theorem ofRaw_root {raw : RawRule} {multipart : Bool} {path : String}
    {ph : Option Placeholders} {r : Rule} (h : ofRaw raw multipart path ph = .ok r) :
    ∃ detection expr, Condition.build detection ph expr = .ok r.root := by
  unfold ofRaw at h
  cases multipart
  · simp only [Bool.false_eq_true, ↓reduceIte, bind_eq_ok] at h
    obtain ⟨info, -, h⟩ := h
    split at h
    · -- the condition entry is read first; only a text goes on to the builder
      split at h
      all_goals
        rw [bind_eq_ok] at h
        obtain ⟨expr, hexpr, h⟩ := h
      · split at h
        · cases h
        · split at h
          · cases h
            exact ⟨_, _, ‹_›⟩
          · cases h
      all_goals cases hexpr
    · cases h
  · cases h

/-- Reading a rule text decodes its fields and builds the rule from them. -/
theorem parse_eq_ofRaw {text : String} {ph : Option Placeholders} {r : Rule}
    (h : parse text ph = .ok r) : ∃ raw, ofRaw raw (RawRule.isMultipart text) "" ph = .ok r := by
  unfold parse at h
  cases hd : RawRule.decode text with
  | error msg =>
    rw [hd] at h
    cases h
  | ok raw =>
    rw [hd] at h
    exact ⟨raw, h⟩

theorem ofRaw_wellFormed {raw : RawRule} {multipart : Bool} {path : String}
    {ph : Option Placeholders} {r : Rule} (h : ofRaw raw multipart path ph = .ok r) :
    r.root.WellFormed := by
  obtain ⟨detection, expr, hbuild⟩ := ofRaw_root h
  exact Condition.build_wellFormed hbuild

/-- Every rule read from a rule text has a well-formed tree. -/
theorem parse_wellFormed {text : String} {ph : Option Placeholders} {r : Rule}
    (h : parse text ph = .ok r) : r.root.WellFormed := by
  obtain ⟨raw, hraw⟩ := parse_eq_ofRaw h
  exact ofRaw_wellFormed hraw

end Rule

end SigmaQuery
