import SigmaQuery.Rule.Parse
import Mathlib.Data.List.DropRight

/-!
# Which rule texts count as several documents

A rule file holds one YAML document, and a text that holds more is refused before its fields
are read. The check that decides it reads the text as lines, not as YAML. It splits the text at
line feeds (`lines_intercalate`, `newline_not_mem_of_mem_lines`), stops at the first line
longer than `maxLine` bytes (`readLines`), and trims spaces, tabs and carriage returns from
the end of each line. A line is a marker when `---` is what is left (`IsMarkerLine`), and has
content when something is left that starts with no `#` and is no marker (`IsContentLine`).
The text counts as several documents exactly when a marker comes after a line with content
(`isMultipart_iff`).

So a marker line that carries a comment or content, such as `--- # note` or `--- {id: b}`,
has content and is never a marker; a directive such as `%YAML 1.1`, and a comment after a
blank, are content too, so a marker after them counts; and no line after an overlong one is
read. The whole is `multipart_iff_marker_after_content`.
-/

namespace SigmaQuery

namespace RawRule

/-- The characters trimmed from the end of a line: space, tab and carriage return. -/
def isTrailingBlank (c : Char) : Bool := c == ' ' || c == '\t' || c == '\r'

/-- A document marker: `---`, then trailing blanks only. -/
def IsMarkerLine (l : List Char) : Prop :=
  l.take 3 = ['-', '-', '-'] ∧ ∀ c ∈ l.drop 3, isTrailingBlank c = true

/-- A line with content: no marker, something besides trailing blanks, and no `#` first. -/
def IsContentLine (l : List Char) : Prop :=
  ¬ IsMarkerLine l ∧ (∃ c ∈ l, isTrailingBlank c = false) ∧ l.head? ≠ some '#'

instance : DecidablePred IsMarkerLine := fun _ => inferInstanceAs (Decidable (_ ∧ _))

instance : DecidablePred IsContentLine := fun _ => inferInstanceAs (Decidable (_ ∧ _ ∧ _))

/-- The lines the check reads: those before the first one longer than `maxLine` bytes. -/
def readLines (source : String) : List (List Char) :=
  (lines source.toList).takeWhile fun l => Text.byteLength (String.ofList l) ≤ maxLine

/-! ### Lines -/

theorem lines_ne_nil (cs : List Char) : lines cs ≠ [] := by
  cases cs with
  | nil => simp [lines]
  | cons c rest =>
    rw [lines]
    split
    · simp
    · split <;> simp

/-- Joined with line feeds, the lines give the text back. -/
theorem lines_intercalate (cs : List Char) : ['\n'].intercalate (lines cs) = cs := by
  induction cs with
  | nil => rfl
  | cons c rest ih =>
    obtain ⟨l, ls, hl⟩ := List.exists_cons_of_ne_nil (lines_ne_nil rest)
    rw [lines]
    split
    · -- a line feed ends the line before it
      rename_i hc
      rw [hl, List.intercalate_cons_cons, ← hl, ih, (beq_iff_eq.mp hc)]
      rfl
    · rw [hl, List.intercalate_cons_cons_left, ← hl, ih]

/-- No line holds a line feed. -/
theorem newline_not_mem_of_mem_lines {cs l : List Char} (h : l ∈ lines cs) : '\n' ∉ l := by
  induction cs generalizing l with
  | nil =>
    rw [lines, List.mem_singleton] at h
    simp [h]
  | cons c rest ih =>
    obtain ⟨l', ls, hl⟩ := List.exists_cons_of_ne_nil (lines_ne_nil rest)
    rw [lines] at h
    split at h
    · rcases List.mem_cons.mp h with rfl | h
      · simp
      · exact ih h
    · rename_i hc
      rw [hl, List.mem_cons] at h
      rcases h with rfl | h
      · have hl' : '\n' ∉ l' := ih (hl ▸ List.mem_cons_self)
        simp only [List.mem_cons, not_or]
        exact ⟨fun h => hc (beq_iff_eq.mpr h.symm), hl'⟩
      · exact ih (hl ▸ List.mem_cons_of_mem _ h)

/-! ### One line -/

/-- The check trims a line as `List.rdropWhile` does. -/
theorem trimmed_eq (l : List Char) :
    (l.reverse.dropWhile fun c => c == ' ' || c == '\t' || c == '\r').reverse =
      l.rdropWhile isTrailingBlank := rfl

/-- Trailing blanks after a line leave its trimmed form as it was. -/
theorem rdropWhile_append_of_blank {l pad : List Char}
    (h : ∀ c ∈ pad, isTrailingBlank c = true) :
    (l ++ pad).rdropWhile isTrailingBlank = l.rdropWhile isTrailingBlank := by
  unfold List.rdropWhile
  rw [List.reverse_append, List.dropWhile_append_of_pos (by simpa using h)]

/-- A line trims to `---` exactly when it is a marker. -/
theorem rdropWhile_eq_dashes_iff (l : List Char) :
    l.rdropWhile isTrailingBlank = ['-', '-', '-'] ↔ IsMarkerLine l := by
  constructor
  · intro h
    have hl := @List.rdropWhile_append_rtakeWhile _ isTrailingBlank l
    rw [h] at hl
    rw [IsMarkerLine, ← hl]
    exact ⟨rfl, fun c hc => @List.mem_rtakeWhile_imp _ isTrailingBlank l c (by simpa using hc)⟩
  · rintro ⟨htake, hdrop⟩
    rw [← List.take_append_drop 3 l, rdropWhile_append_of_blank hdrop, htake]
    rfl

/-- A trimmed line is empty exactly when the line holds trailing blanks only. -/
theorem rdropWhile_ne_nil_iff (l : List Char) :
    l.rdropWhile isTrailingBlank ≠ [] ↔ ∃ c ∈ l, isTrailingBlank c = false := by
  simp [List.rdropWhile_eq_nil_iff]

/-- A line that trims to something starts as its trimmed form does. -/
theorem head?_rdropWhile {l : List Char} (h : l.rdropWhile isTrailingBlank ≠ []) :
    (l.rdropWhile isTrailingBlank).head? = l.head? := by
  obtain ⟨t, ht⟩ := @List.rdropWhile_prefix _ isTrailingBlank l
  conv_rhs => rw [← ht]
  rw [List.head?_append_of_ne_nil _ h]

/-- Besides markers, the check's test for content holds exactly of the lines with content. -/
theorem content_test_iff {l : List Char} (hm : ¬ IsMarkerLine l) :
    (!(l.rdropWhile isTrailingBlank).isEmpty &&
        (l.rdropWhile isTrailingBlank).head? != some '#') = true ↔ IsContentLine l := by
  rw [IsContentLine, ← rdropWhile_ne_nil_iff]
  by_cases he : l.rdropWhile isTrailingBlank = []
  · simp [he]
  · simp [he, head?_rdropWhile he, hm]

/-- The check's own tests, run on a line, show that it has content. -/
theorem isContentLine_of_test {l : List Char}
    (hm : (l.rdropWhile isTrailingBlank == ['-', '-', '-']) = false)
    (hc : (!(l.rdropWhile isTrailingBlank).isEmpty &&
      (l.rdropWhile isTrailingBlank).head? != some '#') = true) : IsContentLine l := by
  refine (content_test_iff fun hml => ?_).mp hc
  rw [(rdropWhile_eq_dashes_iff l).mpr hml] at hm
  exact absurd hm (by decide)

/-! ### The run over the lines -/

/-- A marker among the lines after a line with content, or after content seen before them. -/
def MarkerAfter (seen : Bool) (ls : List (List Char)) : Prop :=
  ∃ pre m post, ls = pre ++ m :: post ∧ IsMarkerLine m ∧
    (seen = true ∨ ∃ c ∈ pre, IsContentLine c)

theorem not_markerAfter_nil (seen : Bool) : ¬ MarkerAfter seen [] := by
  rintro ⟨pre, m, post, h, -⟩
  simp at h

/-- A marker follows content in a line and the lines after it when the line is a marker after
content, or when a marker follows in the lines after it, with the line now seen. -/
theorem markerAfter_cons (seen : Bool) (l : List Char) (ls : List (List Char)) :
    MarkerAfter seen (l :: ls) ↔
      (IsMarkerLine l ∧ seen = true) ∨ MarkerAfter (seen || decide (IsContentLine l)) ls := by
  constructor
  · rintro ⟨pre, m, post, h, hm, hseen⟩
    cases pre with
    | nil =>
      obtain ⟨rfl, -⟩ := List.cons.inj h
      refine .inl ⟨hm, ?_⟩
      simpa using hseen
    | cons p pre =>
      obtain ⟨rfl, rfl⟩ := List.cons.inj h
      refine .inr ⟨pre, m, post, rfl, hm, ?_⟩
      rcases hseen with hseen | ⟨c, hc, hcontent⟩
      · simp [hseen]
      · rcases List.mem_cons.mp hc with rfl | hc
        · simp [hcontent]
        · exact .inr ⟨c, hc, hcontent⟩
  · rintro (⟨hm, hseen⟩ | ⟨pre, m, post, rfl, hm, hseen⟩)
    · exact ⟨[], l, ls, rfl, hm, .inl hseen⟩
    · refine ⟨l :: pre, m, post, rfl, hm, ?_⟩
      rcases hseen with hseen | ⟨c, hc, hcontent⟩
      · rcases Bool.or_eq_true _ _ ▸ hseen with hseen | hl
        · exact .inl hseen
        · exact .inr ⟨l, List.mem_cons_self, of_decide_eq_true hl⟩
      · exact .inr ⟨c, List.mem_cons_of_mem l hc, hcontent⟩

/-- One line that is not too long: a marker answers for the content seen, and any other line
is seen when it has content. -/
theorem go_cons {raw : List Char} (hlen : Text.byteLength (String.ofList raw) ≤ maxLine)
    (rest : List (List Char)) (seen : Bool) :
    isMultipart.go (raw :: rest) seen =
      if IsMarkerLine raw then seen || isMultipart.go rest seen
      else isMultipart.go rest (seen || decide (IsContentLine raw)) := by
  rw [isMultipart.go, if_neg (Nat.not_lt.mpr hlen), trimmed_eq]
  by_cases hm : IsMarkerLine raw
  · rw [if_pos (beq_iff_eq.mpr ((rdropWhile_eq_dashes_iff raw).mpr hm)), if_pos hm]
  · rw [if_neg (mt beq_iff_eq.mp (mt (rdropWhile_eq_dashes_iff raw).mp hm)), if_neg hm]
    by_cases hc : IsContentLine raw
    · rw [if_pos ((content_test_iff hm).mpr hc), decide_eq_true hc, Bool.or_true]
    · rw [if_neg (mt (content_test_iff hm).mp hc), decide_eq_false hc, Bool.or_false]

/-- The check answers whether a marker follows content among the lines it reads. -/
theorem go_iff (ls : List (List Char)) (seen : Bool) :
    isMultipart.go ls seen = true ↔
      MarkerAfter seen (ls.takeWhile fun l => Text.byteLength (String.ofList l) ≤ maxLine) := by
  induction ls generalizing seen with
  | nil =>
    simp only [isMultipart.go, List.takeWhile_nil, Bool.false_eq_true, false_iff]
    exact not_markerAfter_nil seen
  | cons raw rest ih =>
    by_cases hlen : Text.byteLength (String.ofList raw) ≤ maxLine
    · rw [go_cons hlen, List.takeWhile_cons_of_pos (by simpa using hlen), markerAfter_cons]
      by_cases hm : IsMarkerLine raw
      · -- a marker is no content, so what was seen goes on unchanged
        have hc : ¬ IsContentLine raw := fun hc => hc.1 hm
        rw [if_pos hm, decide_eq_false hc, Bool.or_false, Bool.or_eq_true, ih]
        simp [hm]
      · rw [if_neg hm, ih]
        simp [hm]
    · -- the check stops at an overlong line
      rw [isMultipart.go, if_pos (Nat.lt_of_not_le hlen),
        List.takeWhile_cons_of_neg (by simpa using hlen)]
      simp only [Bool.false_eq_true, false_iff]
      exact not_markerAfter_nil seen

/-- A text counts as several documents exactly when, among the lines the check reads, a
marker comes after a line with content. -/
theorem isMultipart_iff (source : String) :
    isMultipart source = true ↔ ∃ pre m post, readLines source = pre ++ m :: post ∧
      IsMarkerLine m ∧ ∃ c ∈ pre, IsContentLine c := by
  rw [isMultipart, go_iff]
  simp [MarkerAfter, readLines]

end RawRule

namespace Rule

/-- A text that counts as several documents is refused as such, once its first document
reads. -/
theorem parse_of_isMultipart {source : String} (h : RawRule.isMultipart source = true)
    (ph : Option Placeholders) :
    (∃ msg, parse source ph = .error (.plain msg)) ∨
      ∃ id, parse source ph = .error (.unsupportedFeature id "multi-document rule" "") := by
  rw [parse]
  split
  · exact .inl ⟨_, rfl⟩
  · rw [h]
    exact .inr ⟨_, rfl⟩

end Rule

namespace RawRule

/-- What the multi-document check refuses. The lines of a text are its pieces between line
feeds; the check reads them up to the first overlong one, and counts the text as several
documents exactly when a marker line comes after a line with content; such a text is refused
as a multi-document rule once its first document reads. -/
theorem multipart_iff_marker_after_content (source : String) :
    ['\n'].intercalate (lines source.toList) = source.toList ∧
      (∀ l ∈ lines source.toList, '\n' ∉ l) ∧
      (isMultipart source = true ↔ ∃ pre m post, readLines source = pre ++ m :: post ∧
        IsMarkerLine m ∧ ∃ c ∈ pre, IsContentLine c) ∧
      (isMultipart source = true → ∀ ph,
        (∃ msg, Rule.parse source ph = .error (.plain msg)) ∨
          ∃ id, Rule.parse source ph = .error (.unsupportedFeature id "multi-document rule" "")) :=
  ⟨lines_intercalate _, fun _ => newline_not_mem_of_mem_lines, isMultipart_iff source,
    Rule.parse_of_isMultipart⟩

/-- A directive line is content, so one document after `%YAML 1.1` and its marker is refused
as several; a marker line with a comment is content too, so the document after
`--- # second` goes unseen. -/
theorem multipart_iff_marker_after_content_directive :
    IsContentLine "%YAML 1.1".toList ∧ isMultipart "%YAML 1.1\n---\nid: a\n" = true ∧
      (∀ ph, (∃ msg, Rule.parse "%YAML 1.1\n---\nid: a\n" ph = .error (.plain msg)) ∨
        ∃ id, Rule.parse "%YAML 1.1\n---\nid: a\n" ph =
          .error (.unsupportedFeature id "multi-document rule" "")) ∧
      IsContentLine "--- # second".toList ∧
      isMultipart "id: a\ndetection:\n  sel:\n    f: v\n  condition: sel\n--- # second\nid: b\n" =
        false := by
  have hdirective : isMultipart "%YAML 1.1\n---\nid: a\n" = true := by decide +kernel
  exact ⟨isContentLine_of_test (by decide +kernel) (by decide +kernel), hdirective,
    (multipart_iff_marker_after_content _).2.2.2 hdirective,
    isContentLine_of_test (by decide +kernel) (by decide +kernel), by decide +kernel⟩

end RawRule

end SigmaQuery
