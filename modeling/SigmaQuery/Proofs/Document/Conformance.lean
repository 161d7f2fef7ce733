import SigmaQuery.Document.Schema
import SigmaQuery.Proofs.Text.Decoding

/-!
# Assembled documents and the import format

The document of a rule carries fixed parts that the import format pins, and five parts that come
from the rule: the name and the message, each behind a fixed prefix, the tags, the log source,
the query and the status. Only two of them can break the format: an empty query, which is
shorter than the one character the format asks for, and a status outside the five the format
knows, which happens when the rule's level is none of them. `reasons_assemble` lists the
reasons a document breaks the format exactly, and `validate_assemble` turns this into the
outcome of checking it.

The check reads a string given by bytes as the text those bytes read as, so the prefixes are
found in texts that begin with the prefix's ASCII bytes (`lossy_ascii_append`).
-/

namespace SigmaQuery

/-! ### Bytes below 0x80 read as they are -/

namespace Text

/-- A byte below 0x80 reads as its own character. -/
theorem utf8Pieces_ascii_cons {x : UInt8} (hx : x.toNat < 0x80) (fuel : Nat) (r : Bytes) :
    utf8Pieces (fuel + 1) (x :: r) = .inl (Char.ofNat x.toNat) :: utf8Pieces fuel r := by
  simp [utf8Pieces, decodeFirst?, hx]

/-- Bytes below 0x80 in front of others read one character each, before what the others read
as. -/
theorem utf8Pieces_ascii_append {a : Bytes} (ha : ∀ x ∈ a, x.toNat < 0x80) (n : Nat)
    (b : Bytes) :
    utf8Pieces (a.length + n) (a ++ b) = a.map (fun x => .inl (Char.ofNat x.toNat)) ++
      utf8Pieces n b := by
  induction a with
  | nil => simp
  | cons x rest ih =>
    rw [List.length_cons, Nat.add_right_comm, List.cons_append,
      utf8Pieces_ascii_cons (ha x List.mem_cons_self),
      ih fun y hy => ha y (List.mem_cons_of_mem _ hy), List.map_cons, List.cons_append]

/-- Bytes below 0x80 in front of others read as they would alone, and the others as they
would alone. -/
theorem lossy_ascii_append {a : Bytes} (ha : ∀ x ∈ a, x.toNat < 0x80) (b : Bytes) :
    lossy (a ++ b) = lossy a ++ lossy b := by
  have halone := utf8Pieces_ascii_append ha 0 []
  simp only [Nat.add_zero, List.append_nil, utf8Pieces] at halone
  rw [lossy, List.length_append, utf8Pieces_ascii_append ha, lossy, halone, lossy,
    List.map_append, String.ofList_append]

/-- A character stands in a JSON string literal either for itself or behind a backslash. -/
theorem jsonChar_self_or_escape (w : Bool) (c : Char) :
    jsonChar w c = [c] ∨ ∃ rest, jsonChar w c = '\\' :: rest := by
  unfold jsonChar
  dsimp only
  repeat' split
  all_goals simp

/-- A text whose literal holds no backslash is written as itself. -/
theorem flatMap_jsonChar_of_no_backslash {w : Bool} :
    ∀ {s : List Char}, '\\' ∉ s.flatMap (jsonChar w) → s.flatMap (jsonChar w) = s
  | [], _ => rfl
  | c :: rest, h => by
    rw [List.flatMap_cons] at h ⊢
    rcases jsonChar_self_or_escape w c with hc | ⟨e, he⟩
    · rw [hc, flatMap_jsonChar_of_no_backslash fun h' => h (List.mem_append_right _ h')]
      rfl
    · exact absurd (List.mem_append_left _ (he ▸ List.mem_cons_self)) h

/-- A text whose characters are written as those of a text written as itself is that text. -/
theorem eq_of_flatMap_jsonChar_eq {w : Bool} {s a : String}
    (ha : '\\' ∉ a.toList.flatMap (jsonChar w))
    (h : s.toList.flatMap (jsonChar w) = a.toList.flatMap (jsonChar w)) : s = a := by
  have hplain : a.toList.flatMap (jsonChar w) = a.toList := flatMap_jsonChar_of_no_backslash ha
  rw [hplain] at h
  have hs : '\\' ∉ s.toList.flatMap (jsonChar w) := h ▸ hplain ▸ ha
  rw [← String.toList_inj, ← h, flatMap_jsonChar_of_no_backslash hs]

/-- The web-safe literal of a text is the encoding of its characters as the web-safe variant
writes them, between quotes. -/
theorem jsonBytes_utf8 (s : String) :
    jsonBytes true (utf8 s) =
      utf8 (String.ofList ('"' :: (s.toList.flatMap (jsonChar true) ++ ['"']))) := by
  rw [jsonBytes, if_pos rfl, utf8Pieces_utf8, List.flatMap_map]

/-- Bytes read as the empty text only when there are none. -/
theorem lossy_eq_empty {b : Bytes} : lossy b = "" ↔ b = [] := by
  constructor
  · intro h
    cases b with
    | nil => rfl
    | cons x rest =>
      -- the first byte always gives a piece, a character or a lone byte
      rw [lossy, List.length_cons, utf8Pieces] at h
      split at h <;> simp at h
  · rintro rfl
    rfl

end Text

/-! ### Checking values against the parts of the format -/

namespace Schema

open Text

/-- A string given by bytes is checked as the text the bytes read as. -/
theorem check_bytes (place : String) (s : Schema) (b : Bytes) :
    check place s (.bytes b) = check place s (.str (lossy b)) := by
  obtain ⟨c, items, members⟩ := s
  simp [check, hasType, typeName]

/-- An object is checked member by member, in the order of the schema. -/
theorem check_object (place : String) (members : List (String × Schema))
    (ms : List (String × JsonValue)) :
    check place (object members) (.obj ms) = checkMembers place members ms := by
  simp [check, object, hasType, typeName, common]

/-- A member found in the object is checked at its place. -/
theorem checkMembers_cons_of_lookup {place name : String} {s : Schema}
    {rest : List (String × Schema)} {ms : List (String × JsonValue)} {v : JsonValue}
    (h : ms.lookup name = some v) :
    checkMembers place ((name, s) :: rest) ms = check (stepInto place name) s v ++
      checkMembers place rest ms := by
  rw [checkMembers, h]

/-- An array of one item is checked as its item, at place `0`. -/
theorem check_single (place : String) (item : Schema) (x : JsonValue) :
    check place (single item) (.arr [x]) = check (stepInto place "0") item x := by
  simp [check, single, hasType, typeName, checkItems, lengthReasons, common,
    show Nat.repr 0 = "0" from rfl]

/-- Any text is a text. -/
theorem check_text_str (place s : String) : check place text (.str s) = [] := by
  simp [check, text, leaf, hasType, typeName, common, textReasons]

/-- An array of strings given by bytes is an array of texts. -/
theorem check_texts (place : String) (bs : List Bytes) :
    check place (.mk { type? := some "array" } (some text) []) (.arr (bs.map .bytes)) = [] := by
  simp only [check, hasType, typeName, beq_self_eq_true, Bool.true_or, Bool.not_true,
    Bool.false_eq_true, if_false, checkItems, lengthReasons, common, List.append_nil]
  simp [List.zipIdx_map, check_bytes, check_text_str]

/-- A text checked for a prefix is refused only when it does not start with it. -/
theorem check_prefix_str (place p s : String) :
    check place (leaf { type? := some "string", start? := some p }) (.str s) =
      if p.toList <+: s.toList then []
      else [placeName place ++ ": Does not match pattern '^" ++ p ++ "'"] := by
  simp [check, leaf, hasType, typeName, common, textReasons]

/-- A text checked for a least length of one is refused only when it is empty. -/
theorem check_nonempty_str (place s : String) :
    check place (leaf { type? := some "string", minLength? := some 1 }) (.str s) =
      if s = "" then [placeName place ++ ": String length must be greater than or equal to 1"]
      else [] := by
  simp [check, leaf, hasType, typeName, common, textReasons,
    show Nat.repr 1 = "1" from rfl, String.append_assoc]

/-- A text checked against a list of allowed values is checked by that list alone. -/
theorem check_allowed_str (place : String) (allowed : List JsonValue) (s : String) :
    check place (leaf { allowed }) (.str s) = common { allowed } place (.str s) := by
  simp [check, leaf, textReasons]

/-- A text matches a constant that is itself. -/
theorem check_fixed_str (place s : String) : check place (fixed (.str s)) (.str s) = [] := by
  simp [check, fixed, leaf, common, textReasons]

/-- A number matches a constant that is itself. -/
theorem check_fixed_num (place : String) (n : Int) :
    check place (fixed (.num n)) (.num n) = [] := by
  simp [check, fixed, leaf, common]

/-- An array matches a constant array that is itself. -/
theorem check_fixedArray_self (place : String) (xs : List JsonValue) :
    check place (fixedArray (.arr xs)) (.arr xs) = [] := by
  simp [check, fixedArray, leaf, hasType, typeName, common, checkItems, lengthReasons]

/-- The empty array is empty. -/
theorem check_empty_nil (place : String) : check place empty (.arr []) = [] := by
  simp [check, empty, leaf, hasType, typeName, common, checkItems, lengthReasons]

/-- The canonical text of a text is its web-safe literal. -/
theorem canonical_str (s : String) :
    canonical (.str s) = String.ofList ('"' :: (s.toList.flatMap (jsonChar true) ++ ['"'])) := by
  rw [canonical, JsonValue.render, jsonBytes_utf8, lossy_utf8]

/-- The statuses, as the reason that names them writes them. -/
theorem statuses_text :
    ", ".intercalate (statuses.map canonical) =
      "\"informational\", \"low\", \"medium\", \"high\", \"critical\"" := by
  decide +kernel

/-- A status is one of the statuses the format allows exactly when it is one of the five
levels. -/
theorem any_statuses (s : String) :
    (statuses.any fun a => canonical a == canonical (.str s)) = true ↔
      s ∈ Metadata.knownLevels := by
  simp only [statuses, List.any_map, List.any_eq_true, Function.comp_apply, beq_iff_eq,
    canonical_str]
  constructor
  · rintro ⟨a, ha, heq⟩
    -- the five names are written as themselves, so only the name itself has its literal
    have hplain : '\\' ∉ a.toList.flatMap (jsonChar true) := by
      simp only [List.mem_cons, List.not_mem_nil, or_false] at ha
      rcases ha with rfl | rfl | rfl | rfl | rfl <;> decide +kernel
    have hlit : s.toList.flatMap (jsonChar true) = a.toList.flatMap (jsonChar true) := by
      simpa using (congrArg String.toList heq).symm
    rw [← eq_of_flatMap_jsonChar_eq hplain hlit] at ha
    exact ha
  · intro hs
    exact ⟨s, hs, rfl⟩

/-- A status checked against the statuses is refused only when it is none of the five
levels. -/
theorem check_status (place s : String) :
    check place (leaf { allowed := statuses }) (.str s) =
      if s ∈ Metadata.knownLevels then []
      else [placeName place ++ ": " ++ placeName place ++ " must be one of the following: " ++
        "\"informational\", \"low\", \"medium\", \"high\", \"critical\""] := by
  rw [check_allowed_str, common]
  by_cases hs : s ∈ Metadata.knownLevels
  · simp [(any_statuses s).mpr hs, hs]
  · have hne : statuses ≠ [] := by simp [statuses]
    have hnot : (statuses.any fun a => canonical a == canonical (.str s)) = false := by
      simpa using mt (any_statuses s).mp hs
    simp [hs, hnot, hne, statuses_text]

end Schema

end SigmaQuery

namespace SigmaQuery.RuleDocument

open Text Schema

/-- Why the format refuses a document whose query is empty. -/
def emptyQueryReason : String :=
  "queries.0.query: String length must be greater than or equal to 1"

/-- Why the format refuses a document whose status is none of the five. -/
def unknownStatusReason : String :=
  "cases.0.status: cases.0.status must be one of the following: " ++
    "\"informational\", \"low\", \"medium\", \"high\", \"critical\""

/-- A text that starts with a prefix's ASCII bytes reads as the prefix followed by the rest. -/
theorem startsWith_lossy_ascii {p : String} (hp : ∀ x ∈ utf8 p, x.toNat < 0x80)
    (hlossy : lossy (utf8 p) = p) (rest : Bytes) :
    p.toList <+: (lossy (utf8 p ++ rest)).toList := by
  rw [lossy_ascii_append hp, hlossy, String.toList_append]
  exact List.prefix_append _ _

/-- The name of every document starts with the prefix the format asks for. -/
theorem mapName_prefix (title : Bytes) :
    "SIGMA Threshold Detection - ".toList <+: (lossy (Document.mapName title)).toList :=
  startsWith_lossy_ascii (by decide +kernel) (by decide +kernel) title

/-- The message of every document starts with the prefix the format asks for. -/
theorem mapMessage_prefix (id : Bytes) (falsePositives : List Bytes) (description : Bytes) :
    "SIGMA Rule ID: ".toList <+:
      (lossy (Document.mapMessage id falsePositives description)).toList := by
  rw [Document.mapMessage]
  simp only [List.append_assoc]
  exact startsWith_lossy_ascii (by decide +kernel) (by decide +kernel) _

/-- The document of a rule as JSON. -/
theorem toJson_assemble (m : Metadata) (q : Bytes) :
    (assemble m q).toJson = .obj [
      ("product", .strings (some [productName])),
      ("name", .bytes (Document.mapName m.title)),
      ("message", .bytes (Document.mapMessage m.id m.falsePositives m.description)),
      ("tags", .arr ((Document.mapTags m.tags).map .bytes)),
      ("source", .bytes m.logsourceService),
      ("queries", .arr [.obj [("name", .str ""), ("query", .bytes q),
        ("groupByFields", .strings (some [groupBy])), ("distinctFields", .strings (some [])),
        ("aggregation", .str "")]]),
      ("options", .obj [("detectionMethod", .str detectionMethod), ("evaluationWindow", .num hour),
        ("keepAlive", .num hour), ("maxSignalDuration", .num day)]),
      ("cases", .arr [.obj [("status", .str (Document.mapLevel m.level)),
        ("notifications", .strings (some [])), ("name", .str ""),
        ("condition", .str caseCondition)]])] :=
  rfl

/-- The reasons the document of a rule breaks the import format: its query is empty, and its
level gives a status that is none of the five. Every other part is fixed, or is a text behind
the prefix the format asks for. -/
theorem reasons_assemble (m : Metadata) (q : Bytes) :
    (assemble m q).reasons =
      (if q = [] then [emptyQueryReason] else []) ++
        (if Document.mapLevel m.level ∈ Metadata.knownLevels then []
          else [unknownStatusReason]) := by
  -- the members of the document line up with those of the format, each checked at its place
  rw [reasons, toJson_assemble, ruleDocument, check_object]
  repeat rw [checkMembers_cons_of_lookup rfl]
  -- the query and the case are arrays of one object, checked member by member in turn
  repeat rw [check_single]
  repeat rw [check_object]
  repeat rw [checkMembers_cons_of_lookup rfl]
  -- fixed parts match their constants and the name and message carry their prefixes, which
  -- leaves the length of the query and the status
  simp only [checkMembers, JsonValue.strings, List.map, check_fixedArray_self, check_fixed_str,
    check_fixed_num, check_empty_nil, check_text_str, check_texts, check_bytes, check_prefix_str,
    mapName_prefix, mapMessage_prefix, if_true, check_nonempty_str, lossy_eq_empty, check_status,
    List.nil_append, List.append_nil]
  rfl

/-- Checking the document of a rule accepts it exactly when its query is not empty and its
level gives one of the five statuses, and otherwise refuses it as an invalid document of the
rule, for the reasons `reasons_assemble` lists. -/
theorem validate_assemble (ruleId : String) (m : Metadata) (q : Bytes) :
    validate ruleId (some (assemble m q)) =
      if q ≠ [] ∧ Document.mapLevel m.level ∈ Metadata.knownLevels then .ok ()
      else .error (.invalidDocument ruleId ((if q = [] then [emptyQueryReason] else []) ++
        (if Document.mapLevel m.level ∈ Metadata.knownLevels then []
          else [unknownStatusReason]))) := by
  rw [validate, reasons_assemble]
  by_cases hq : q = [] <;> by_cases hs : Document.mapLevel m.level ∈ Metadata.knownLevels <;>
    simp [hq, hs]

end SigmaQuery.RuleDocument
