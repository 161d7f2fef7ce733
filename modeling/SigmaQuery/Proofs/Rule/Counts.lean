import SigmaQuery.Rule.Ruleset
import SigmaQuery.Proofs.Outcome

/-!
# How a rule set counts its files

Loading a rule set reads each rule file in two stages: first as YAML for a rule, then as a rule.
A file fares in exactly one of three ways (`classify`): its rule is built; it is not YAML for a
rule, or its rule cannot be built, and it is counted as failed; or its rule uses what cannot be
converted, and it is counted as unsupported.

A loaded rule set is the tally of these outcomes over the listed files, in their order
(`load_counts`): its rules are the rules built, in file order, and each count is the number of
files that fared so. So the total is the number of files and the sum of the three counts, and
there are as many rules as files counted as built.
-/

namespace SigmaQuery.Ruleset

open Files

/-! ### Outcomes -/

/-- What became of one rule file when a rule set was loaded. -/
inductive FileOutcome where
  /-- Its rule was built. -/
  | built (r : Rule)
  /-- It is not YAML for a rule, or its rule cannot be built. -/
  | failed
  /-- Its rule uses what cannot be converted. -/
  | unsupported

namespace FileOutcome

/-- The rule built, if one was. -/
def rule? : FileOutcome → Option Rule
  | .built r => some r
  | _ => none

def isBuilt : FileOutcome → Bool
  | .built _ => true
  | _ => false

def isFailed : FileOutcome → Bool
  | .failed => true
  | _ => false

def isUnsupported : FileOutcome → Bool
  | .unsupported => true
  | _ => false

/-- The outcomes of files split into the three kinds. -/
theorem length_eq_countP (os : List FileOutcome) :
    os.length = os.countP isBuilt + os.countP isFailed + os.countP isUnsupported := by
  induction os with
  | nil => rfl
  | cons o rest ih =>
    cases o <;> simp [List.countP_cons, isBuilt, isFailed, isUnsupported, ih] <;> omega

/-- One rule is built for each file counted as built. -/
theorem length_filterMap_rule? (os : List FileOutcome) :
    (os.filterMap rule?).length = os.countP isBuilt := by
  induction os with
  | nil => rfl
  | cons o rest ih => cases o <;> simp [List.filterMap_cons, List.countP_cons, rule?, isBuilt, ih]

end FileOutcome

/-! ### The two stages -/

/-- The text a rule file is read with: the text a file's bytes decode to, and nothing for
anything else. -/
def fileText (v : Volume) (path : String) : String :=
  match v.lookup path with
  | .ok (.file c) => Text.lossy c
  | _ => ""

/-- The handle of a rule file, when its text is YAML for a rule. -/
def handleOf (v : Volume) (path : String) : Option Handle :=
  match RawRule.decode (fileText v path) with
  | .ok raw => some { path, raw, multipart := RawRule.isMultipart (fileText v path) }
  | .error _ => none

/-- How the rule of a handle fares. -/
def Handle.outcome (ph : Option Placeholders) (h : Handle) : FileOutcome :=
  match Rule.ofRaw h.raw h.multipart h.path ph with
  | .ok r => .built r
  | .error e => if e.isUnsupported then .unsupported else .failed

/-- How a rule file fares: failed when it is not YAML for a rule, and otherwise as its rule. -/
def classify (v : Volume) (ph : Option Placeholders) (path : String) : FileOutcome :=
  match handleOf v path with
  | some h => h.outcome ph
  | none => .failed

/-- Reading one more file as YAML. -/
theorem readHandles_cons (v : Volume) (strict : Bool) (path : String) (i : Nat)
    (rest : List (String × Nat)) :
    readHandles v strict ((path, i) :: rest) =
      match RawRule.decode (fileText v path) with
      | .error msg =>
        if strict then .error (.yamlFile path 0 msg)
        else (readHandles v strict rest).map fun (hs, n) => (hs, n + 1)
      | .ok raw =>
        (readHandles v strict rest).map fun (hs, n) =>
          ({ path, raw, multipart := RawRule.isMultipart (fileText v path) } :: hs, n) :=
  rfl

/-- Reading files as YAML keeps the handles of those that are YAML for a rule, in order, and
counts the others. -/
theorem readHandles_ok {v : Volume} {strict : Bool} :
    ∀ {ps : List (String × Nat)} {hs : List Handle} {n : Nat},
      readHandles v strict ps = .ok (hs, n) →
        hs = (ps.map Prod.fst).filterMap (handleOf v) ∧
          n = (ps.map Prod.fst).countP fun path => (handleOf v path).isNone
  | [], hs, n, h => by
    cases h
    simp
  | (path, i) :: rest, hs, n, h => by
    rw [readHandles_cons] at h
    cases hd : RawRule.decode (fileText v path) with
    | error msg =>
      have hn : handleOf v path = none := by simp [handleOf, hd]
      rw [hd] at h
      cases strict
      · -- a file that is not YAML for a rule is counted and passed over
        obtain ⟨⟨hs', n'⟩, hrest, heq⟩ := map_eq_ok.mp h
        cases heq
        obtain ⟨rfl, rfl⟩ := readHandles_ok hrest
        simp [hn]
      · cases h
    | ok raw =>
      have hs' : handleOf v path =
          some { path, raw, multipart := RawRule.isMultipart (fileText v path) } := by
        simp [handleOf, hd]
      rw [hd] at h
      obtain ⟨⟨hs', n'⟩, hrest, heq⟩ := map_eq_ok.mp h
      cases heq
      obtain ⟨rfl, rfl⟩ := readHandles_ok hrest
      simp [hs']

/-- Building the rules of handles keeps the rules built, in order, and counts the handles
whose rules failed or are unsupported. -/
theorem buildRules_ok {ph : Option Placeholders} {strict : Bool} :
    ∀ {hs : List Handle} {rules : List Rule} {f u : Nat},
      buildRules ph strict hs = .ok (rules, f, u) →
        rules = (hs.map (Handle.outcome ph)).filterMap FileOutcome.rule? ∧
          f = (hs.map (Handle.outcome ph)).countP FileOutcome.isFailed ∧
          u = (hs.map (Handle.outcome ph)).countP FileOutcome.isUnsupported
  | [], rules, f, u, h => by
    cases h
    simp
  | h :: rest, rules, f, u, hb => by
    rw [buildRules] at hb
    cases hr : Rule.ofRaw h.raw h.multipart h.path ph with
    | ok r =>
      have hout : h.outcome ph = .built r := by simp [Handle.outcome, hr]
      rw [hr] at hb
      obtain ⟨⟨rs', f', u'⟩, hrest, heq⟩ := map_eq_ok.mp hb
      cases heq
      obtain ⟨rfl, rfl, rfl⟩ := buildRules_ok hrest
      simp [hout, FileOutcome.rule?, FileOutcome.isFailed, FileOutcome.isUnsupported]
    | error e =>
      rw [hr] at hb
      cases strict
      · -- a rule that cannot be built is counted by the kind of its fault
        obtain ⟨⟨rs', f', u'⟩, hrest, heq⟩ := map_eq_ok.mp hb
        obtain ⟨rfl, rfl, rfl⟩ := buildRules_ok hrest
        cases hu : e.isUnsupported
        · have hout : h.outcome ph = .failed := by simp [Handle.outcome, hr, hu]
          simp only [hu] at heq
          cases heq
          simp [hout, List.countP_cons, List.filterMap_cons, FileOutcome.rule?, FileOutcome.isFailed,
            FileOutcome.isUnsupported]
        · have hout : h.outcome ph = .unsupported := by simp [Handle.outcome, hr, hu]
          simp only [hu] at heq
          cases heq
          simp [hout, List.countP_cons, List.filterMap_cons, FileOutcome.rule?, FileOutcome.isFailed,
            FileOutcome.isUnsupported]
      · cases hb

/-! ### The files' outcomes through the two stages -/

section Classify

variable (v : Volume) (ph : Option Placeholders)

/-- The rules built from files are those built from the handles of the files that are YAML for
a rule. -/
theorem filterMap_rule?_classify (files : List String) :
    (files.map (classify v ph)).filterMap FileOutcome.rule? =
      ((files.filterMap (handleOf v)).map (Handle.outcome ph)).filterMap FileOutcome.rule? := by
  induction files with
  | nil => rfl
  | cons path rest ih =>
    cases hh : handleOf v path <;>
      simp [classify, hh, List.filterMap_cons, FileOutcome.rule?, ih]

/-- The files of each kind are the files that are not YAML for a rule, when that kind is
failure, and the handles of that kind. -/
theorem countP_classify (p : FileOutcome → Bool) (files : List String) :
    (files.map (classify v ph)).countP p =
      (if p .failed then files.countP fun path => (handleOf v path).isNone else 0) +
        ((files.filterMap (handleOf v)).map (Handle.outcome ph)).countP p := by
  induction files with
  | nil => simp
  | cons path rest ih =>
    cases hh : handleOf v path <;> cases hp : p .failed <;>
      simp [classify, hh, hp, List.countP_cons, ih] <;> omega

end Classify

/-! ### Loading -/

/-- A rule set whose rules and counts are the tally of the outcomes of its files: the rules
built, in order, and the number of files of each kind. -/
structure Counts (rs : Ruleset) (outcomes : List FileOutcome) : Prop where
  rules_eq : rs.rules = outcomes.filterMap FileOutcome.rule?
  total_eq : rs.total = outcomes.length
  ok_eq : rs.ok = outcomes.countP FileOutcome.isBuilt
  failed_eq : rs.failed = outcomes.countP FileOutcome.isFailed
  unsupported_eq : rs.unsupported = outcomes.countP FileOutcome.isUnsupported

namespace Counts

variable {rs : Ruleset} {outcomes : List FileOutcome}

/-- Each file is counted once: the total is the sum of the three counts. -/
theorem total_eq_sum (h : rs.Counts outcomes) : rs.total = rs.ok + rs.failed + rs.unsupported := by
  rw [h.total_eq, h.ok_eq, h.failed_eq, h.unsupported_eq]
  exact FileOutcome.length_eq_countP outcomes

/-- There is one rule for each file counted as built. -/
theorem length_rules (h : rs.Counts outcomes) : rs.rules.length = rs.ok := by
  rw [h.rules_eq, h.ok_eq]
  exact FileOutcome.length_filterMap_rule? outcomes

end Counts

/-- A load that succeeds either listed no rule file and gives the empty rule set, or read the
listed files as YAML, built the rules of those that are, and counted both stages' failures. -/
theorem load_ok {v : Volume} {c : RulesetConfig} {rs : Ruleset} (h : load v c = .ok rs) :
    (ruleFiles v c.directories c.patterns).2 = none ∧
      ∃ ph, (if c.placeholders == "" then pure none
          else some <$> readPlaceholders v c.placeholders) = Except.ok ph ∧
        ((ruleFiles v c.directories c.patterns).1 = [] ∧ rs = {} ∨
          ∃ hs n rules f u,
            readHandles v c.failOnYamlParse (ruleFiles v c.directories c.patterns).1.zipIdx =
              .ok (hs, n) ∧
            buildRules ph c.failOnRuleParse hs = .ok (rules, f, u) ∧
            rs = { rules, total := (ruleFiles v c.directories c.patterns).1.length,
                   ok := rules.length, failed := n + f, unsupported := u }) := by
  unfold load at h
  dsimp only at h
  split at h
  · cases h
  rw [bind_eq_ok] at h
  obtain ⟨_, -, h⟩ := h
  obtain ⟨ph, hph, h⟩ := bind_ite_eq_ok h
  split at h
  · rw [bind_eq_ok] at h
    obtain ⟨_, h, -⟩ := h
    cases h
  next fault hfault =>
    have hnone : (ruleFiles v c.directories c.patterns).2 = none := by
      cases hf : (ruleFiles v c.directories c.patterns).2 with
      | none => rfl
      | some e => exact absurd hf (hfault e)
    refine ⟨hnone, ph, hph, ?_⟩
    split at h
    · -- no rule file: the empty rule set
      next hempty => exact .inl ⟨List.isEmpty_iff.mp hempty, (Except.ok.inj h).symm⟩
    · rw [bind_eq_ok] at h
      obtain ⟨⟨hs, n⟩, hread, h⟩ := h
      rw [bind_eq_ok] at h
      obtain ⟨⟨rules, f, u⟩, hbuild, h⟩ := h
      exact .inr ⟨hs, n, rules, f, u, hread, hbuild, (Except.ok.inj h).symm⟩

/-- A loaded rule set is the tally of how its files fared, in listing order, with the
placeholders the configuration names. -/
theorem load_counts {v : Volume} {c : RulesetConfig} {rs : Ruleset} (h : load v c = .ok rs) :
    ∃ ph, (if c.placeholders == "" then pure none
        else some <$> readPlaceholders v c.placeholders) = Except.ok ph ∧
      rs.Counts ((ruleFiles v c.directories c.patterns).1.map (classify v ph)) := by
  obtain ⟨-, ph, hph, hload⟩ := load_ok h
  refine ⟨ph, hph, ?_⟩
  rcases hload with ⟨hnil, rfl⟩ | ⟨hs, n, rules, f, u, hread, hbuild, rfl⟩
  · rw [hnil]
    exact ⟨rfl, rfl, rfl, rfl, rfl⟩
  · -- the YAML stage gives the handles and the count of files that are not YAML for a rule
    obtain ⟨rfl, rfl⟩ := readHandles_ok hread
    obtain ⟨rfl, rfl, rfl⟩ := buildRules_ok hbuild
    simp only [List.zipIdx_map_fst]
    refine ⟨(filterMap_rule?_classify v ph _).symm, by simp, ?_, ?_, ?_⟩
    · rw [FileOutcome.length_filterMap_rule?, countP_classify]
      simp [FileOutcome.isBuilt]
    · rw [countP_classify]
      simp [FileOutcome.isFailed]
    · rw [countP_classify]
      simp [FileOutcome.isUnsupported]

end SigmaQuery.Ruleset
