import SigmaQuery.Cli.Convert
import SigmaQuery.Proofs.Text.JsonReading

/-!
# The lines `convert` writes

`outputText` writes the output of each converted rule followed by a line feed. Split at line
feeds, the text is one line for each converted rule, in order, and an empty rest after the last
line feed, exactly when no output holds a line feed of its own (`splitOn_flatMap_sep`,
`not_mem_of_mem_splitOn`).

In document mode that always holds: a document is written as plain compact JSON, which escapes
every control byte (`JsonValue.controlFree_render`). Each line reads back as the tree of its
document (`JsonValue.parse?_render`), and that tree determines the document, bytes and all
(`RuleDocument.toJson_tree_inj`).

In query mode a line is the query as it is, and the escaping of values leaves a line feed as it
is: a value holding one gives a query written over two lines (`outputText_lines_line_feed`).
-/

namespace SigmaQuery

namespace Text

section Split

variable {α : Type} [BEq α] [LawfulBEq α] {a : α}

/-- Pieces without the separator, each followed by it, split at it into the pieces and an
empty rest. -/
theorem splitOn_flatMap_sep : ∀ {ls : List (List α)}, (∀ l ∈ ls, a ∉ l) →
    (ls.flatMap (· ++ [a])).splitOn a = ls ++ [[]]
  | [], _ => List.splitOn_nil a
  | l :: ls, h => by
    rw [List.forall_mem_cons] at h
    rw [List.flatMap_cons, List.append_assoc, List.singleton_append,
      List.splitOn_append_cons_self_of_not_mem h.1, splitOn_flatMap_sep h.2, List.cons_append]

/-- No piece of a list split at a separator holds the separator. -/
theorem not_mem_of_mem_splitOn : ∀ {xs l : List α}, l ∈ xs.splitOn a → a ∉ l
  | [], l, h => by
    rw [List.splitOn_nil, List.mem_singleton] at h
    subst h
    exact List.not_mem_nil
  | x :: xs, l, h => by
    rw [List.splitOn_cons_eq_if_modifyHead] at h
    split at h
    · -- the separator closes the first piece and starts a new one
      rcases List.mem_cons.1 h with rfl | h
      · exact List.not_mem_nil
      · exact not_mem_of_mem_splitOn h
    · next hx =>
      -- any other item joins the first piece
      obtain ⟨hd, tl, heq⟩ := List.exists_cons_of_ne_nil (List.splitOn_ne_nil a xs)
      rw [heq, List.modifyHead_cons] at h
      rcases List.mem_cons.1 h with rfl | h
      · have hhd : hd ∈ xs.splitOn a := by
          rw [heq]
          exact List.mem_cons_self
        rw [List.mem_cons, not_or]
        refine ⟨fun he => hx ?_, not_mem_of_mem_splitOn hhd⟩
        subst he
        exact beq_self_eq_true a
      · have htl : l ∈ xs.splitOn a := by
          rw [heq]
          exact List.mem_cons_of_mem hd h
        exact not_mem_of_mem_splitOn htl

end Split

end Text

namespace RuleDocument

open Text JsonValue

/-- A list of records reads back whole when each record does. -/
theorem records_tree_inj {α : Type} {f : α → JsonValue}
    (hf : Function.Injective fun x => (f x).tree false) :
    Function.Injective fun a : Option (List α) => (records f a).tree false
  | none, none, _ => rfl
  | none, some _, h => by
    simp only [records, tree_null, tree_arr] at h
    cases h
  | some _, none, h => by
    simp only [records, tree_null, tree_arr] at h
    cases h
  | some xs, some ys, h => by
    simp only [records, tree_arr, JsonTree.arr.injEq, List.map_map] at h
    exact congrArg some (List.map_injective_iff.mpr hf h)

theorem strings_eq_records (a : Option (List String)) : strings a = records str a := by
  cases a <;> rfl

/-- A list of texts reads back whole. -/
theorem strings_tree_inj {a b : Option (List String)}
    (h : (strings a).tree false = (strings b).tree false) : a = b := by
  rw [strings_eq_records, strings_eq_records] at h
  refine records_tree_inj (fun x y hxy => ?_) h
  simp only [tree_str, JsonTree.str.injEq] at hxy
  exact utf8_inj hxy

/-- A query reads back whole. -/
theorem queryJson_tree_inj : Function.Injective fun q => (queryJson q).tree false := by
  intro q q' h
  simp only [queryJson, tree_obj, tree_str, tree_bytes, readBack_false, List.map_cons,
    List.map_nil, JsonTree.obj.injEq, List.cons.injEq, Prod.mk.injEq, JsonTree.str.injEq,
    true_and, and_true] at h
  obtain ⟨hname, hquery, hgroup, hdistinct, haggregation⟩ := h
  cases q
  cases q'
  rw [SearchQuery.mk.injEq]
  exact ⟨utf8_inj hname, hquery, strings_tree_inj hgroup, strings_tree_inj hdistinct,
    utf8_inj haggregation⟩

/-- A case reads back whole. -/
theorem caseJson_tree_inj : Function.Injective fun c => (caseJson c).tree false := by
  intro c c' h
  simp only [caseJson, tree_obj, tree_str, List.map_cons, List.map_nil, JsonTree.obj.injEq,
    List.cons.injEq, Prod.mk.injEq, JsonTree.str.injEq, true_and, and_true] at h
  obtain ⟨hstatus, hnotifications, hname, hcondition⟩ := h
  cases c
  cases c'
  rw [SignalCase.mk.injEq]
  exact ⟨utf8_inj hstatus, strings_tree_inj hnotifications, utf8_inj hname,
    utf8_inj hcondition⟩

/-- The tree of a document's plain JSON determines the document. -/
theorem toJson_tree_inj : Function.Injective fun d : RuleDocument => d.toJson.tree false := by
  intro d d' h
  simp only [toJson, tree_obj, tree_str, tree_bytes, readBack_false, tree_num, List.map_cons,
    List.map_nil, JsonTree.obj.injEq, List.cons.injEq, Prod.mk.injEq, JsonTree.str.injEq,
    JsonTree.number.injEq, true_and, and_true] at h
  obtain ⟨hproduct, hname, hmessage, htags, hsource, hqueries, ⟨hmethod, hwindow, hkeep, hmax⟩,
    hcases⟩ := h
  obtain ⟨product, name, message, tags, source, queries, ⟨method, window, keep, max⟩, cases⟩ := d
  obtain ⟨product', name', message', tags', source', queries', ⟨method', window', keep', max'⟩,
    cases'⟩ := d'
  simp only [RuleDocument.mk.injEq, Timing.mk.injEq]
  have hbytes : Function.Injective fun b : Bytes => (bytes b).tree false := fun _ _ h => by
    simpa using h
  exact ⟨strings_tree_inj hproduct, hname, hmessage, records_tree_inj hbytes htags, hsource,
    records_tree_inj queryJson_tree_inj hqueries,
    ⟨utf8_inj hmethod, toString_int_injective hwindow, toString_int_injective hkeep,
      toString_int_injective hmax⟩,
    records_tree_inj caseJson_tree_inj hcases⟩

end RuleDocument

namespace Cli

open Text JsonValue Conversion

/-- In document mode each converted rule is written as the JSON of its document. -/
theorem outputText_siemRule (cs : List Conversion) :
    outputText .siemRule cs =
      ((outputs cs).map (·.documentJson false)).flatMap (· ++ [0x0A]) := by
  rw [outputText, List.flatMap_map]
  rfl

/-- In query mode each converted rule is written as its query. -/
theorem outputText_query (cs : List Conversion) :
    outputText .query cs = ((outputs cs).map (·.query)).flatMap (· ++ [0x0A]) := by
  rw [outputText, List.flatMap_map]
  rfl

/-- The JSON of an output's document: `null` when it has none. -/
theorem documentJson_eq (o : Output) (ws : Bool) :
    o.documentJson ws = render ws ((o.document.map RuleDocument.toJson).getD .null) := by
  rw [Output.documentJson]
  cases o.document with
  | none => rw [Option.map_none, Option.getD_none, render]
  | some d => rfl

/-- What `convert` writes, split at line feeds. In document mode: one line for each converted
rule, in order, holding the plain JSON of its document, which reads back as the document's
tree; and that tree determines the document. In query mode the lines are the queries of the
converted rules exactly when no query holds a line feed. Both end with an empty rest after the
last line feed. -/
theorem outputText_lines (cs : List Conversion) :
    (outputText .siemRule cs).splitOn 0x0A = (outputs cs).map (·.documentJson false) ++ [[]] ∧
      (∀ o ∈ outputs cs, JsonTree.parse? (o.documentJson false) =
        some (((o.document.map RuleDocument.toJson).getD .null).tree false)) ∧
      Function.Injective (fun d : RuleDocument => d.toJson.tree false) ∧
      ((outputText .query cs).splitOn 0x0A = (outputs cs).map (·.query) ++ [[]] ↔
        ∀ o ∈ outputs cs, 0x0A ∉ o.query) := by
  refine ⟨?_, fun o _ => ?_, RuleDocument.toJson_tree_inj, fun h o ho => ?_, fun hq => ?_⟩
  · -- a document's JSON holds no control byte, so no line feed
    rw [outputText_siemRule]
    refine splitOn_flatMap_sep (List.forall_mem_map.mpr fun o _ => ?_)
    rw [documentJson_eq]
    exact newline_not_mem_of_controlFree (controlFree_render false _)
  · rw [documentJson_eq]
    exact parse?_render false _
  · -- each query is a piece of the split, and no piece holds a line feed
    have hpiece : o.query ∈ (outputText .query cs).splitOn 0x0A := by
      rw [h]
      exact List.mem_append_left _ (List.mem_map_of_mem ho)
    exact not_mem_of_mem_splitOn hpiece
  · rw [outputText_query]
    exact splitOn_flatMap_sep (List.forall_mem_map.mpr hq)

/-- A query with a line feed, as the value `a`, line feed, `b` gives, is written over two
lines, so the lines are not the queries. -/
theorem outputText_lines_line_feed :
    (outputText .query [⟨0, "r", { query := utf8 "@f:a\nb" }, none⟩]).splitOn 0x0A =
        [utf8 "@f:a", utf8 "b", []] ∧
      (outputText .query [⟨0, "r", { query := utf8 "@f:a\nb" }, none⟩]).splitOn 0x0A ≠
        (outputs [⟨0, "r", { query := utf8 "@f:a\nb" }, none⟩]).map (·.query) ++ [[]] := by
  refine ⟨by decide +kernel, fun h => ?_⟩
  have hlines := (outputText_lines [⟨0, "r", { query := utf8 "@f:a\nb" }, none⟩]).2.2.2.1 h
  exact hlines { query := utf8 "@f:a\nb" } (by simp [outputs]) (by decide +kernel)

end Cli

end SigmaQuery
