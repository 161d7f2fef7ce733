import SigmaQuery.Convert.Backend
import SigmaQuery.Proofs.Document.Conformance
import SigmaQuery.Proofs.Outcome
import SigmaQuery.Proofs.Query.Defects

/-!
# Converting one rule

Converting a rule first compiles its condition tree. A fault of the tree is reported with the
rule's identifier filled in: compiling reports faults without one (`compile_error_anonymous`),
and conversion gives them the identifier of the rule.

After that the mode decides. A query is the result in query mode. In document mode the metadata
must name the rule and give a known level or none; when documents are checked, the identifier
must be a UUID and the document must conform to the import format. Metadata without faults
always gives a known status, so the only way such a document breaks the format is an empty
query (`convert_siemRule_checked`). A number that names no mode is refused with a message that
names the mode alone.
-/

namespace SigmaQuery

namespace RuleError

/-- Whether a cause names a rule by its identifier: a feature, structure or document fault of
that rule. -/
inductive NamesRule (id : String) : RuleError → Prop
  | unsupportedFeature (feature detail : String) :
      NamesRule id (.unsupportedFeature id feature detail)
  | malformed (detail : String) : NamesRule id (.malformed id detail)
  | invalidDocument (reasons : List String) : NamesRule id (.invalidDocument id reasons)

/-- A message with the identifier suffix holds the identifier. -/
theorem withIdSuffix_holds (msg id : String) :
    ∃ pre post, withIdSuffix msg id = pre ++ id ++ post := by
  by_cases h : id = ""
  · subst h
    exact ⟨withIdSuffix msg "", "", by simp⟩
  · exact ⟨msg ++ " [rule ", "]", by simp [withIdSuffix, h, String.append_assoc]⟩

/-- The message of a cause that names a rule holds the rule's identifier. -/
theorem NamesRule.message_holds {id : String} {e : RuleError} (h : NamesRule id e) :
    ∃ pre post, e.message = pre ++ id ++ post := by
  cases h with
  | unsupportedFeature feature detail => exact withIdSuffix_holds _ id
  | malformed detail => exact withIdSuffix_holds _ id
  | invalidDocument reasons =>
    -- the equations of the whole message table are slow to build: unfold the one case
    refine ⟨"invalid rule document for ", ": " ++ "; ".intercalate reasons, ?_⟩
    rw [message.eq_def]
    exact String.append_assoc ..

/-- Filling in the identifier of a feature or structure fault that has none names the rule. -/
theorem namesRule_withRuleId {id : String} {e : RuleError}
    (h : (∃ feature detail, e = .unsupportedFeature "" feature detail) ∨
      ∃ detail, e = .malformed "" detail) :
    NamesRule id (e.withRuleId id) := by
  rcases h with ⟨feature, detail, rfl⟩ | ⟨detail, rfl⟩
  · exact .unsupportedFeature feature detail
  · exact .malformed detail

end RuleError

/-- Every fault is reported without a rule identifier: as an unsupported feature or as a
malformed rule. -/
theorem Defect.error_anonymous {d : Defect} (h : d.Explained) :
    (∃ feature detail, d.error = .unsupportedFeature "" feature detail) ∨
      ∃ detail, d.error = .malformed "" detail := by
  cases d with
  | noTerm m value e => exact .inl h.2
  | _ => exact .inr h

namespace Metadata

/-- Metadata has no faults when it names the rule and gives a known level or none. -/
theorem faults_eq_nil_iff (m : Metadata) :
    m.faults = [] ↔ m.id ≠ [] ∧ (m.level = "" ∨ m.level ∈ knownLevels) := by
  by_cases hl : m.level = "" <;> simp [faults, hl]

/-- A known level, or none, maps to a known status; the known levels are already lower
case. -/
theorem mapLevel_mem_knownLevels {level : String} (h : level = "" ∨ level ∈ knownLevels) :
    Document.mapLevel level ∈ knownLevels := by
  rcases h with rfl | h
  · decide
  · simp only [knownLevels, List.mem_cons, List.not_mem_nil, or_false] at h
    rcases h with rfl | rfl | rfl | rfl | rfl <;> decide +kernel

/-- Metadata without faults gives a known status. -/
theorem mapLevel_mem_of_faults_nil {m : Metadata} (h : m.faults = []) :
    Document.mapLevel m.level ∈ knownLevels :=
  mapLevel_mem_knownLevels ((faults_eq_nil_iff m).mp h).2

end Metadata

namespace Backend

open RuleDocument

variable (b : Backend) (r : Rule)

/-- Compiling reports its faults without a rule identifier. -/
theorem compile_error_anonymous {e : RuleError} (h : b.compile r.root = .error e) :
    (∃ feature detail, e = .unsupportedFeature "" feature detail) ∨
      ∃ detail, e = .malformed "" detail := by
  have hf : Query.FailsAtFirst (b.compile r.root) r.root.defects :=
    (Query.Compiler.lower_failsAtFirst b.compiler r.root).map _
  obtain ⟨d, rest, hds, rfl⟩ := (hf.error_iff e).mp h
  exact Defect.error_anonymous (Condition.explained_of_mem_defects (hds ▸ List.mem_cons_self))

/-! ### The outcome, step by step -/

/-- A tree that does not compile fails the conversion in every mode, with the rule's
identifier filled in. -/
theorem convert_of_compile_error {mode : OutputMode} {e : RuleError}
    (h : b.compile r.root = .error e) :
    b.convert (some r) mode = .error (e.withRuleId (Text.lossy r.metadata.id)) := by
  simp [convert, h, bind, Except.bind, throw, throwThe, MonadExceptOf.throw]

section Compiled

variable {b r} {q : Text.Bytes} (hq : b.compile r.root = .ok q)
include hq

/-- In query mode the query is the result. -/
theorem convert_query : b.convert (some r) .query = .ok { mode := .query, query := q } := by
  simp [convert, hq, bind, Except.bind, pure, Except.pure]

/-- A number that names no mode is refused by its name alone. -/
theorem convert_unknown (n : Int) :
    b.convert (some r) (.unknown n) =
      .error (.plain ("unknown output mode " ++ (OutputMode.unknown n).name)) := by
  simp [convert, hq, bind, Except.bind, pure, Except.pure, throw, throwThe, MonadExceptOf.throw]

/-- A document is refused for metadata with faults, all of them given. -/
theorem convert_siemRule_faults (hf : r.metadata.faults ≠ []) :
    b.convert (some r) .siemRule = .error (.malformed (Text.lossy r.metadata.id)
      ("invalid metadata: " ++ "\n".intercalate r.metadata.faults)) := by
  simp [convert, hq, hf, bind, Except.bind, pure, Except.pure, throw, throwThe, MonadExceptOf.throw]

/-- An unchecked document is the result once the metadata has no faults. -/
theorem convert_siemRule_unchecked (hf : r.metadata.faults = []) (hc : b.checked = false) :
    b.convert (some r) .siemRule =
      .ok { mode := .siemRule, query := q, document := some (assemble r.metadata q) } := by
  simp [convert, hq, hf, hc, bind, Except.bind, pure, Except.pure]

/-- A checked document is refused for an identifier that is not a UUID. -/
theorem convert_siemRule_uuid (hf : r.metadata.faults = []) (hc : b.checked = true)
    {fault : String} (hu : Text.uuidFault? r.metadata.id = some fault) :
    b.convert (some r) .siemRule = .error (.malformed (Text.lossy r.metadata.id)
      ("rule id " ++ Text.quoteBytes r.metadata.id ++ " is not a uuid: " ++ fault)) := by
  simp [convert, hq, hf, hc, hu, bind, Except.bind, pure, Except.pure, throw, throwThe,
    MonadExceptOf.throw]

/-- A checked document with a UUID is the result when it conforms, and refused with the
reasons it does not otherwise. -/
theorem convert_siemRule_validated (hf : r.metadata.faults = []) (hc : b.checked = true)
    (hu : Text.uuidFault? r.metadata.id = none) :
    b.convert (some r) .siemRule =
      (fun _ => { mode := .siemRule, query := q, document := some (assemble r.metadata q) }) <$>
        validate (Text.lossy r.metadata.id) (some (assemble r.metadata q)) := by
  simp only [convert, hq, hf, hc, hu, bind, Except.bind, pure, Except.pure, List.isEmpty_nil,
    Bool.not_true, Bool.false_eq_true, if_false, if_true]
  cases validate (Text.lossy r.metadata.id) (some (assemble r.metadata q)) <;> rfl

/-- Checked metadata without faults always gives a known status, so a checked document with a
UUID breaks the import format only by an empty query. -/
theorem convert_siemRule_checked (hf : r.metadata.faults = []) (hc : b.checked = true)
    (hu : Text.uuidFault? r.metadata.id = none) :
    b.convert (some r) .siemRule =
      if q = [] then .error (.invalidDocument (Text.lossy r.metadata.id) [emptyQueryReason])
      else .ok { mode := .siemRule, query := q, document := some (assemble r.metadata q) } := by
  have hl := Metadata.mapLevel_mem_of_faults_nil hf
  rw [convert_siemRule_validated hq hf hc hu, validate_assemble]
  by_cases hq0 : q = [] <;> simp [hq0, hl, Functor.map, Except.map]

end Compiled

/-- Converting a rule either gives the query of its tree, with the document of its metadata in
document mode, or fails with a cause that names the rule, unless the mode is a number that
names no mode: that is refused by the mode's name alone. -/
theorem convert_outcome (b : Backend) (r : Rule) (mode : OutputMode) :
    (∃ q, b.compile r.root = .ok q ∧
        b.convert (some r) mode =
          .ok { mode := mode, query := q,
                document := if mode = .siemRule then some (assemble r.metadata q) else none }) ∨
      ∃ e, b.convert (some r) mode = .error e ∧
        ((e.NamesRule (Text.lossy r.metadata.id) ∧
            ∃ pre post, e.message = pre ++ Text.lossy r.metadata.id ++ post) ∨
          ∃ n, mode = .unknown n ∧ e = .plain ("unknown output mode " ++ mode.name)) := by
  -- every failure but the unknown mode names the rule, which puts the identifier in its message
  have named : ∀ {e : RuleError}, e.NamesRule (Text.lossy r.metadata.id) →
      b.convert (some r) mode = .error e → ∃ e', b.convert (some r) mode = .error e' ∧
        ((e'.NamesRule (Text.lossy r.metadata.id) ∧
            ∃ pre post, e'.message = pre ++ Text.lossy r.metadata.id ++ post) ∨
          ∃ n, mode = .unknown n ∧ e' = .plain ("unknown output mode " ++ mode.name)) :=
    fun he hc => ⟨_, hc, .inl ⟨he, he.message_holds⟩⟩
  cases hq : b.compile r.root with
  | error e =>
    exact .inr <| named (RuleError.namesRule_withRuleId (compile_error_anonymous b r hq))
      (convert_of_compile_error b r hq)
  | ok q =>
    cases mode with
    | query => exact .inl ⟨q, rfl, convert_query hq⟩
    | unknown n => exact .inr ⟨_, convert_unknown hq n, .inr ⟨n, rfl, rfl⟩⟩
    | siemRule =>
      by_cases hf : r.metadata.faults = []
      · cases hc : b.checked
        · exact .inl ⟨q, rfl, convert_siemRule_unchecked hq hf hc⟩
        cases hu : Text.uuidFault? r.metadata.id with
        | some fault => exact .inr <| named (.malformed _) (convert_siemRule_uuid hq hf hc hu)
        | none =>
          by_cases hq0 : q = []
          · have h := convert_siemRule_checked hq hf hc hu
            rw [if_pos hq0] at h
            exact .inr <| named (.invalidDocument _) h
          · have h := convert_siemRule_checked hq hf hc hu
            rw [if_neg hq0] at h
            exact .inl ⟨q, rfl, h⟩
      · exact .inr <| named (.malformed _) (convert_siemRule_faults hq hf)

/-- A keyword rule converted in the mode numbered 2 is refused with a cause that does not name
the rule. -/
theorem convert_outcome_unknown_mode :
    let b : Backend := { compiler := {}, workers := 0, checked := false }
    let r : Rule := { root := .select ⟨[], .equals, ["a"]⟩, metadata := { id := Text.utf8 "abc" } }
    b.convert (some r) (OutputMode.ofCode 2) = .error (.plain "unknown output mode mode(2)") ∧
      ¬ (RuleError.plain "unknown output mode mode(2)").NamesRule (Text.lossy r.metadata.id) := by
  intro b r
  have hq : b.compile r.root = .ok (Text.utf8 "a") := by
    simp only [b, r, compile, Query.Compiler.compile, Query.Compiler.lower]
    exact eq_ok_of_toOption (by decide +kernel)
  refine ⟨?_, by rintro ⟨⟩⟩
  rw [show OutputMode.ofCode 2 = .unknown 2 from rfl, convert_unknown hq]
  have hname :
      "unknown output mode " ++ (OutputMode.unknown 2).name = "unknown output mode mode(2)" := by
    decide +kernel
  rw [hname]

/-- An assembled document conforms to the import format exactly when its query is not empty
and its status is known, and is refused for the rule's identifier otherwise. Metadata without
faults gives a known status, so a checked conversion of a rule with such metadata and a UUID
breaks the format exactly when the compiled query is empty, and never otherwise. -/
theorem assembled_document_conforms (m : Metadata) (q : Text.Bytes) :
    (validate (Text.lossy m.id) (some (assemble m q)) = .ok () ↔
        q ≠ [] ∧ Document.mapLevel m.level ∈ Metadata.knownLevels) ∧
      (∀ e, validate (Text.lossy m.id) (some (assemble m q)) = .error e →
        ∃ reasons, e = .invalidDocument (Text.lossy m.id) reasons) ∧
      ∀ (b : Backend) (r : Rule) (query : Text.Bytes), b.checked = true →
        r.metadata.faults = [] → b.compile r.root = .ok query →
        ((∃ reasons, b.convert (some r) .siemRule =
            .error (.invalidDocument (Text.lossy r.metadata.id) reasons)) ↔
          query = [] ∧ Text.uuidFault? r.metadata.id = none) := by
  refine ⟨?_, ?_, ?_⟩
  · rw [validate_assemble]
    split <;> simp_all
  · intro e
    rw [validate_assemble]
    split
    · simp
    · rintro ⟨⟩
      exact ⟨_, rfl⟩
  · intro b r query hc hf hq
    cases hu : Text.uuidFault? r.metadata.id with
    | some fault => simp [convert_siemRule_uuid hq hf hc hu]
    | none =>
      rw [convert_siemRule_checked hq hf hc hu]
      by_cases hq0 : query = [] <;> simp [hq0]

/-- A checked conversion of a keyword rule with a UUID conforms: its query is not empty. -/
theorem assembled_document_conforms_keyword :
    let b : Backend := { compiler := {}, workers := 0, checked := true }
    let r : Rule := { root := .select ⟨[], .equals, ["a"]⟩,
                      metadata := { id := Text.utf8 "5d3b4f7e-1c2a-4b6d-8e9f-0a1b2c3d4e5f" } }
    b.compile r.root = .ok (Text.utf8 "a") ∧
      ¬ ∃ reasons, b.convert (some r) .siemRule =
        .error (.invalidDocument (Text.lossy r.metadata.id) reasons) := by
  intro b r
  have hq : b.compile r.root = .ok (Text.utf8 "a") := by
    simp only [b, r, compile, Query.Compiler.compile, Query.Compiler.lower]
    exact eq_ok_of_toOption (by decide +kernel)
  refine ⟨hq, fun h => ?_⟩
  have hempty := (((assembled_document_conforms r.metadata (Text.utf8 "a")).2.2 b r _ rfl
    (by decide +kernel) hq).mp h).1
  exact absurd hempty (by decide +kernel)

end Backend

end SigmaQuery
