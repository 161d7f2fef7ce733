import SigmaQuery.Cli.Report
import SigmaQuery.Cli.Convert
import SigmaQuery.Proofs.Rule.Counts

/-!
# The summary line of the commands

The `convert` and `parse` commands end by logging how many rules made it, failed, and used
what cannot be converted. Each rule file is counted once on the way: a file that is not YAML
for a rule when reading stops, and every other file when its rule is built, converted or
reported on. So when a command finishes without a fatal exit, the last line it writes to
standard error is a summary whose three numbers add up to the number of rule files
(`report_summary`, `convert_summary`).

A run is taken apart one step at a time (`ok_of_bind`): a run that finishes went through
every step of its command, and each step is described by its own lemma.
-/

namespace SigmaQuery.Cli

open Files

/-! ### Runs -/

namespace Run

variable {α β : Type} {s s' : Session}

/-- A run of two steps runs the second from where the first ended, unless the first stopped. -/
theorem run_bind (x : Run α) (f : α → Run β) (s : Session) :
    (x >>= f).run.run s =
      match x.run.run s with
      | (.ok a, s₁) => (f a).run.run s₁
      | (.error e, s₁) => (.error e, s₁) := by
  simp only [ExceptT.run_bind, StateT.run_bind]
  cases x.run.run s with
  | mk r s₁ => cases r <;> rfl

/-- A run of two steps that finishes went through both. -/
theorem ok_of_bind {x : Run α} {f : α → Run β} {b : β} (h : (x >>= f).run.run s = (.ok b, s')) :
    ∃ a s₁, x.run.run s = (.ok a, s₁) ∧ (f a).run.run s₁ = (.ok b, s') := by
  rw [run_bind] at h
  cases hx : x.run.run s with
  | mk r s₁ =>
    rw [hx] at h
    cases r with
    | error e => cases h
    | ok a => exact ⟨a, s₁, rfl, h⟩

theorem run_pure (a : α) (s : Session) : (pure a : Run α).run.run s = (.ok a, s) := rfl

theorem run_volume (s : Session) : volume.run.run s = (.ok s.volume, s) := rfl

/-- Logging appends the entry's line to standard error when the logger's level admits it. -/
theorem run_log (l : Level) (msg : String) (s : Session) :
    (log l msg).run.run s =
      (.ok (), if s.threshold.admits l then
        { s with err := s.err ++ LogEntry.line { level := l, message := msg } } else s) := rfl

/-- A fatal step never finishes. -/
theorem not_ok_fatal (msg : String) {a : α} : (fatal msg : Run α).run.run s ≠ (.ok a, s') := by
  intro h
  cases h

/-- Nor does a run that starts with one. -/
theorem not_ok_fatal_bind (msg : String) {f : α → Run β} {b : β} :
    ((fatal msg : Run α) >>= f).run.run s ≠ (.ok b, s') := by
  intro h
  obtain ⟨_, _, hf, -⟩ := ok_of_bind h
  exact not_ok_fatal msg hf

end Run

open Run

/-! ### Tallies -/

namespace Tally

/-- The rules a tally counts: those that made it, failed, or used what cannot be converted. -/
def total (t : Tally) : Nat := t.ok + t.fail + t.unsupported

/-- Counting a rule counts it once, whatever its outcome. -/
@[simp] theorem total_add (t : Tally) (o : Option RuleError) : (t.add o).total = t.total + 1 := by
  cases o with
  | none => simp only [add, total]; omega
  | some e =>
    cases hu : e.isUnsupported <;> simp [add, total, hu] <;> omega

end Tally

/-- The standard error of a session ends with the summary line of a tally of `n` rules, when
its logger writes info lines. -/
def EndsWithSummary (s : Session) (n : Nat) : Prop :=
  ∃ t : Tally, t.total = n ∧ ∃ pre, s.err = pre ++
    if s.threshold.admits .info then LogEntry.line { level := .info, message := t.summary } else ""

/-- Logging a tally's summary line as the last step ends standard error with it. -/
theorem endsWithSummary_log {t : Tally} {n : Nat} (ht : t.total = n)
    (h : (log .info t.summary).run.run s = (.ok (), s')) : EndsWithSummary s' n := by
  rw [run_log] at h
  cases h
  refine ⟨t, ht, s.err, ?_⟩
  split <;> simp_all

/-! ### The steps the commands share -/

/-- Listing the rule files gives those below the directories of the settings and changes
nothing. -/
theorem listRuleFiles_ok {src : Sources} {files : List String}
    (h : (listRuleFiles src).run.run s = (.ok files, s')) :
    files = (ruleFiles s.volume (src.texts "rules.dir") (src.texts "rules.include")).1 ∧ s' = s := by
  unfold listRuleFiles at h
  obtain ⟨v, s₁, hv, h⟩ := ok_of_bind h
  rw [run_volume] at hv
  cases hv
  dsimp only at h
  split at h
  · exact absurd h (not_ok_fatal _)
  · cases h
    exact ⟨rfl, rfl⟩

/-- Reading rule files as YAML keeps a handle for each file that is YAML for a rule and notes
each other file, so the two together are as many as the files. -/
theorem readRuleFilesFrom_length {v : Volume} {skip : Bool} :
    ∀ {index : Nat} {files : List String} {hs : List Ruleset.Handle}
      {bad : List (String × Nat × String)},
      Ruleset.readRuleFilesFrom v skip index files = .ok (hs, bad) →
        hs.length + bad.length = files.length
  | _, [], hs, bad, h => by
    cases h
    rfl
  | index, path :: rest, hs, bad, h => by
    rw [Ruleset.readRuleFilesFrom] at h
    split at h
    · cases h
    · split at h
      · split at h
        · obtain ⟨⟨hs', bad'⟩, hrest, heq⟩ := map_eq_ok.mp h
          cases heq
          have := readRuleFilesFrom_length hrest
          simp only [List.length_cons]
          omega
        · cases h
      · obtain ⟨⟨hs', bad'⟩, hrest, heq⟩ := map_eq_ok.mp h
        cases heq
        have := readRuleFilesFrom_length hrest
        simp only [List.length_cons]
        omega

/-- Reading the rule files gives a handle or a note for each of them and changes nothing. -/
theorem readRules_ok {files : List String} {skip : Bool} {hs : List Ruleset.Handle}
    {bad : List (String × Nat × String)}
    (h : (readRules files skip).run.run s = (.ok (hs, bad), s')) :
    hs.length + bad.length = files.length ∧ s' = s := by
  unfold readRules at h
  obtain ⟨v, s₁, hv, h⟩ := ok_of_bind h
  rw [run_volume] at hv
  cases hv
  split at h
  · next hread =>
    cases h
    refine ⟨?_, rfl⟩
    unfold Ruleset.readRuleFiles at hread
    split at hread
    · cases hread
    · exact readRuleFilesFrom_length hread
  · exact absurd h (not_ok_fatal _)

/-! ### Counting rules -/

/-- Reporting on handles counts each of them once. -/
theorem reportRules_total {b : Backend} {ph : Option Placeholders} :
    ∀ {hs : List Ruleset.Handle} {t t' : Tally} {s s' : Session},
      (reportRules b ph hs t).run.run s = (.ok t', s') → t'.total = t.total + hs.length
  | [], t, t', s, s', h => by
    cases h
    rfl
  | h :: rest, t, t', s, s', hr => by
    rw [reportRules] at hr
    obtain ⟨_, s₁, -, hr⟩ := ok_of_bind hr
    dsimp only at hr
    -- the outcome is logged by its kind, and each branch goes on with the rest
    have step : ∀ {l : Level} {msg : String} {s₂ : Session},
        (log l msg >>= fun _ => reportRules b ph rest (t.add (checkRule b ph h))).run.run s₂ =
          (.ok t', s') → t'.total = t.total + (h :: rest).length := by
      intro l msg s₂ hs
      obtain ⟨_, s₃, -, hs⟩ := ok_of_bind hs
      rw [reportRules_total hs, Tally.total_add, List.length_cons]
      omega
    split at hr
    · exact step hr
    · split at hr <;> exact step hr

/-- Building the rules of handles keeps one rule or counts one failure for each handle. -/
theorem buildRules_total {ph : Option Placeholders} {failFast : Bool} :
    ∀ {hs : List Ruleset.Handle} {t t' : Tally} {rs : List Rule} {s s' : Session},
      (buildRules ph failFast hs t).run.run s = (.ok (rs, t'), s') →
        t'.total + rs.length = t.total + hs.length
  | [], t, t', rs, s, s', h => by
    cases h
    rfl
  | h :: rest, t, t', rs, s, s', hb => by
    rw [buildRules] at hb
    dsimp only at hb
    split at hb
    · -- the rule is built and kept
      obtain ⟨⟨rs', t''⟩, s₁, hrest, hb⟩ := ok_of_bind hb
      cases hb
      have := buildRules_total hrest
      simp only [List.length_cons]
      omega
    · split at hb
      · exact absurd hb (not_ok_fatal_bind _)
      · -- the rule cannot be built: a warning, and it is counted
        obtain ⟨_, s₁, -, hb⟩ := ok_of_bind hb
        have := buildRules_total hb
        simp only [Tally.total_add, List.length_cons] at this ⊢
        omega

/-- Converting rules counts each of them once. -/
theorem convertRules_total {b : Backend} {mode : OutputMode} :
    ∀ {rs : List (Rule × Nat)} {t t' : Tally} {cs : List Conversion} {s s' : Session},
      (convertRules b mode rs t).run.run s = (.ok (cs, t'), s') → t'.total = t.total + rs.length
  | [], t, t', cs, s, s', h => by
    cases h
    rfl
  | (r, i) :: rest, t, t', cs, s, s', h => by
    rw [convertRules] at h
    dsimp only at h
    -- warnings come first; every branch goes on with the rest and the conversion counted
    have step : ∀ {o : Option RuleError} {c : Conversion} {s₂ : Session},
        (convertRules b mode rest (t.add o) >>= fun x => pure (c :: x.1, x.2)).run.run s₂ =
          (.ok (cs, t'), s') → t'.total = t.total + ((r, i) :: rest).length := by
      intro o c s₂ hs
      obtain ⟨⟨cs', t''⟩, s₃, hrest, hs⟩ := ok_of_bind hs
      cases hs
      rw [convertRules_total hrest, Tally.total_add, List.length_cons]
      omega
    split at h
    · obtain ⟨_, s₁, -, h⟩ := ok_of_bind h
      split at h
      · obtain ⟨_, s₂, -, h⟩ := ok_of_bind h
        exact step h
      · exact step h
    · split at h
      · obtain ⟨_, s₂, -, h⟩ := ok_of_bind h
        exact step h
      · exact step h

/-! ### The commands -/

/-- When the `parse` command finishes, its last line counts every rule file listed below the
rule directories once. -/
theorem report_summary {src : Sources} {st st' : Session}
    (h : (report src).run.run st = (.ok (), st')) :
    EndsWithSummary st'
      (ruleFiles st.volume (src.texts "rules.dir") (src.texts "rules.include")).1.length := by
  unfold report at h
  obtain ⟨files, s₁, hfiles, h⟩ := ok_of_bind h
  obtain ⟨rfl, rfl⟩ := listRuleFiles_ok hfiles
  obtain ⟨_, s₂, -, h⟩ := ok_of_bind h
  obtain ⟨ph, s₃, -, h⟩ := ok_of_bind h
  obtain ⟨_, s₄, -, h⟩ := ok_of_bind h
  obtain ⟨⟨hs, broken⟩, s₅, hread, h⟩ := ok_of_bind h
  have hcount := (readRules_ok hread).1
  dsimp only at h
  -- the files that are not YAML for a rule are logged first, when there are any
  split at h
  case' isTrue =>
    obtain ⟨_, s₆, -, h⟩ := ok_of_bind h
    obtain ⟨_, s₇, -, h⟩ := ok_of_bind h
  all_goals
    obtain ⟨_, s₈, -, h⟩ := ok_of_bind h
    obtain ⟨_, s₉, -, h⟩ := ok_of_bind h
    split at h
    · obtain ⟨backend, s₁₀, -, h⟩ := ok_of_bind h
      obtain ⟨t, s₁₁, hrep, h⟩ := ok_of_bind h
      refine endsWithSummary_log ?_ h
      rw [reportRules_total hrep, ← hcount]
      simp [Tally.total]
      omega
    · exact absurd h (not_ok_fatal_bind _)

/-- When the `convert` command finishes, its last line counts every rule file once: the files
given as arguments, or else those listed below the rule directories. -/
theorem convert_summary {src : Sources} {args : List String} {st st' : Session}
    (h : (convert src args).run.run st = (.ok (), st')) :
    EndsWithSummary st' (if args.isEmpty then
      (ruleFiles st.volume (src.texts "rules.dir") (src.texts "rules.include")).1 else args).length := by
  unfold convert at h
  dsimp only at h
  split at h
  case' h_2 => exact absurd h (not_ok_fatal_bind _)
  obtain ⟨mode, s₁, hmode, h₁⟩ := ok_of_bind h
  rw [run_pure] at hmode
  cases hmode
  -- the rule files: those listed below the rule directories, or the arguments
  split at h₁
  case' isTrue hargs =>
    rw [if_pos hargs]
    obtain ⟨files, s₂, hfiles, h₂⟩ := ok_of_bind h₁
    obtain ⟨hfiles, rfl⟩ := listRuleFiles_ok hfiles
    rw [← hfiles]
  case' isFalse hargs =>
    rw [if_neg hargs]
    obtain ⟨files, s₂, hfiles, h₂⟩ := ok_of_bind h₁
    rw [run_pure] at hfiles
    cases hfiles
  all_goals
    obtain ⟨ph, s₃, -, h₃⟩ := ok_of_bind h₂
    obtain ⟨⟨hs, broken⟩, s₄, hread, h₄⟩ := ok_of_bind h₃
    have hcount := (readRules_ok hread).1
    obtain ⟨_, s₅, -, h₅⟩ := ok_of_bind h₄
    obtain ⟨_, s₆, -, h₆⟩ := ok_of_bind h₅
    obtain ⟨⟨rules, t⟩, s₇, hbuild, h₇⟩ := ok_of_bind h₆
    have hbuilt := buildRules_total hbuild
    split at h₇
    case' h_2 => exact absurd h₇ (not_ok_fatal_bind _)
    obtain ⟨backend, s₈, -, h₈⟩ := ok_of_bind h₇
    obtain ⟨⟨cs, t'⟩, s₉, hconv, h₉⟩ := ok_of_bind h₈
    have hconverted := convertRules_total hconv
    -- with the setting convert.fail, a rule that cannot be converted stops the run
    split at h₉
    case' isTrue =>
      split at h₉
      case' h_1 => exact absurd h₉ (not_ok_fatal_bind _)
    all_goals
      obtain ⟨target, s₁₀, -, h₁₀⟩ := ok_of_bind h₉
      obtain ⟨_, s₁₁, -, h₁₁⟩ := ok_of_bind h₁₀
      refine endsWithSummary_log ?_ h₁₁
      have hfail : ({ fail := broken.length } : Tally).total = broken.length := by
        simp [Tally.total]
      simp only [List.length_zipIdx, hfail] at hconverted hbuilt ⊢
      omega

/-! ### Every rule file is counted once -/

/-- Every rule file is counted exactly once. A loaded rule set is the tally of how its listed
files fared, in order, with the placeholders the configuration names; so its total is the
number of files and the sum of its three counts, and it has a rule for each file counted as
built. And when the `parse` or the `convert` command finishes, the numbers of its summary line
add up to the number of its rule files. -/
theorem rule_files_counted_once :
    (∀ (v : Volume) (c : RulesetConfig) (rs : Ruleset), Ruleset.load v c = .ok rs →
      (∃ ph, (if c.placeholders == "" then pure none
          else some <$> Ruleset.readPlaceholders v c.placeholders) = Except.ok ph ∧
        rs.Counts ((ruleFiles v c.directories c.patterns).1.map (Ruleset.classify v ph))) ∧
      rs.total = (ruleFiles v c.directories c.patterns).1.length ∧
      rs.total = rs.ok + rs.failed + rs.unsupported ∧ rs.rules.length = rs.ok) ∧
    (∀ (src : Sources) (st st' : Session), (report src).run.run st = (.ok (), st') →
      EndsWithSummary st'
        (ruleFiles st.volume (src.texts "rules.dir") (src.texts "rules.include")).1.length) ∧
    (∀ (src : Sources) (args : List String) (st st' : Session),
      (convert src args).run.run st = (.ok (), st') →
        EndsWithSummary st' (if args.isEmpty then
          (ruleFiles st.volume (src.texts "rules.dir") (src.texts "rules.include")).1
          else args).length) := by
  refine ⟨fun v c rs h => ?_, fun _ _ _ => report_summary, fun _ _ _ _ => convert_summary⟩
  obtain ⟨ph, hph, hcounts⟩ := Ruleset.load_counts h
  refine ⟨⟨ph, hph, hcounts⟩, ?_, hcounts.total_eq_sum, hcounts.length_rules⟩
  rw [hcounts.total_eq, List.length_map]

/-- One empty rule file, whose rule has no detection section: the rule set and both commands
count it once. -/
theorem rule_files_counted_once_empty_file :
    (∃ rs, Ruleset.load { files := [("/r/a.yml", [])], dirs := ["/r"] } { directories := ["/r"] } =
        .ok rs ∧ rs.total = 1 ∧ rs.total = rs.ok + rs.failed + rs.unsupported ∧
        rs.rules.length = rs.ok) ∧
    (∃ st', (report { given := [("rules.dir", .texts ["/r"]), ("rules.include", .texts []),
          ("sigma.placeholders", .text "")] }).run.run
          { volume := { files := [("/r/a.yml", [])], dirs := ["/r"] } } = (.ok (), st') ∧
        EndsWithSummary st' 1) ∧
    (∃ st', (convert { given := [("rules.dir", .texts ["/r"]), ("rules.include", .texts []),
          ("sigma.placeholders", .text ""), ("convert.fail", .boolean false),
          ("output.mode", .text "query"), ("convert.workers", .integer 1),
          ("datadog.fieldmap", .texts []), ("output.validate", .boolean false),
          ("output.file", .text "")] } []).run.run
          { volume := { files := [("/r/a.yml", [])], dirs := ["/r"] } } = (.ok (), st') ∧
        EndsWithSummary st' 1) := by
  refine ⟨?_, ?_, ?_⟩
  · have hok : (Ruleset.load { files := [("/r/a.yml", [])], dirs := ["/r"] }
        { directories := ["/r"] }).toBool = true := by decide +kernel
    cases hl : Ruleset.load { files := [("/r/a.yml", [])], dirs := ["/r"] } { directories := ["/r"] } with
    | error e => simp [hl, Except.toBool] at hok
    | ok rs =>
      obtain ⟨-, htotal, hsum, hrules⟩ := rule_files_counted_once.1 _ _ rs hl
      exact ⟨rs, rfl, htotal.trans (by decide +kernel), hsum, hrules⟩
  · have hok : ((report { given := [("rules.dir", .texts ["/r"]), ("rules.include", .texts []),
        ("sigma.placeholders", .text "")] }).run.run
        { volume := { files := [("/r/a.yml", [])], dirs := ["/r"] } }).1.toBool = true := by
      decide +kernel
    cases hr : (report { given := [("rules.dir", .texts ["/r"]), ("rules.include", .texts []),
        ("sigma.placeholders", .text "")] }).run.run
        { volume := { files := [("/r/a.yml", [])], dirs := ["/r"] } } with
    | mk r st' =>
      cases r with
      | error e => simp [hr, Except.toBool] at hok
      | ok u =>
        obtain ⟨t, ht, pre, hpre⟩ := rule_files_counted_once.2.1 _ _ st' hr
        exact ⟨st', rfl, t, ht.trans (by decide +kernel), pre, hpre⟩
  · have hok : ((convert { given := [("rules.dir", .texts ["/r"]), ("rules.include", .texts []),
        ("sigma.placeholders", .text ""), ("convert.fail", .boolean false),
        ("output.mode", .text "query"), ("convert.workers", .integer 1),
        ("datadog.fieldmap", .texts []), ("output.validate", .boolean false),
        ("output.file", .text "")] } []).run.run
        { volume := { files := [("/r/a.yml", [])], dirs := ["/r"] } }).1.toBool = true := by
      decide +kernel
    cases hr : (convert { given := [("rules.dir", .texts ["/r"]), ("rules.include", .texts []),
        ("sigma.placeholders", .text ""), ("convert.fail", .boolean false),
        ("output.mode", .text "query"), ("convert.workers", .integer 1),
        ("datadog.fieldmap", .texts []), ("output.validate", .boolean false),
        ("output.file", .text "")] } []).run.run
        { volume := { files := [("/r/a.yml", [])], dirs := ["/r"] } } with
    | mk r st' =>
      cases r with
      | error e => simp [hr, Except.toBool] at hok
      | ok u =>
        obtain ⟨t, ht, pre, hpre⟩ := rule_files_counted_once.2.2 _ _ _ st' hr
        exact ⟨st', rfl, t, ht.trans (by decide +kernel), pre, hpre⟩

end SigmaQuery.Cli
