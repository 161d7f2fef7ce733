import SigmaQuery.Rule.Selection
import SigmaQuery.Proofs.Outcome
import SigmaQuery.Proofs.Rule.WellFormed

/-!
# What a detection entry reads as

`ofEntry` turns one entry of a detection section into a condition. This module says, for every
entry that builds, which condition that is, in terms of the entry alone.

A field key `F|m1|...|mk` reads as the field `F`, the bytes before the first bar, which may be
empty, and the modifiers after it, without regard to case: the one comparison among them
(equality when there is none), and whether `all` and `expand` are among them
(`FieldKey.Reads`). The value of a field holds texts in order: one text, or a list of texts
(`HoldsTexts`). Expanded when the key asks for it, they are the values of the field, and the
field is the selection of those values, or under `all` with two values or more the
conjunction of one selection per value (`FieldReads`). A map is the conjunction of its fields
in order (`MapReads`), a list of maps the disjunction of those conjunctions, and a text or a
list of texts a keyword selection of those texts (`EntryReads`).

Nothing else is asked of the field: a key that starts with a bar, or is empty, reads as the
empty field, and its entry is a keyword selection like a list of texts.
-/

namespace SigmaQuery

namespace Text

/-- The first piece of bytes cut at a separator is what comes before the separator's first
occurrence. -/
theorem headD_splitOnByte (sep : UInt8) (bs : Bytes) :
    (splitOnByte sep bs).headD [] = bs.takeWhile (· != sep) := by
  induction bs with
  | nil => rfl
  | cons b rest ih =>
    by_cases hb : b = sep
    · simp [splitOnByte, hb]
    · -- the piece before the separator grows by `b`
      have hne : (b != sep) = true := by simpa using hb
      simp only [List.takeWhile, hne, ← ih, splitOnByte, beq_iff_eq, hb, if_false]
      split <;> simp_all

end Text

namespace FieldKey

/-- The comparison a modifier name sets, without regard to case; `none` for `all`, `expand`
and every name that is no comparison. -/
def comparisonOf? (m : String) : Option Modifier :=
  (Modifier.ofName? (Text.lower m)).filter (· != .equals)

/-- Whether a modifier name is one a key accepts: a comparison, `all` or `expand`. -/
def Known (m : String) : Prop :=
  (comparisonOf? m).isSome ∨ Text.lower m = "all" ∨ Text.lower m = "expand"

/-- The modifier names of a key: the texts of the pieces after its first bar. -/
def modsOf (key : Text.Bytes) : List String :=
  ((Text.splitOnByte 0x7C key).drop 1).map Text.lossy

/-- What a key reads as: the field before its first bar, the one comparison among its
modifiers (equality when there is none), and whether `all` and `expand` are among them; every
modifier is known. -/
structure Reads (key : Text.Bytes) (fk : FieldKey) : Prop where
  field : fk.field = key.takeWhile (· != 0x7C)
  modifier : fk.modifier = ((modsOf key).filterMap comparisonOf?).headD .equals
  single : ((modsOf key).filterMap comparisonOf?).length ≤ 1
  all : fk.all = (modsOf key).any (Text.lower · == "all")
  expand : fk.expand = (modsOf key).any (Text.lower · == "expand")
  known : ∀ m ∈ modsOf key, Known m

/-- Applying modifier names keeps the field; each comparison is counted and the last one is
the key's, `all` and `expand` are switched on, and every name applied is known. -/
theorem applyMods_reads {key : String} {fk fk' : FieldKey} {n n' : Nat} {ms : List String}
    (h : applyMods key fk n ms = .ok (fk', n')) :
    fk'.field = fk.field ∧ n' = n + (ms.filterMap comparisonOf?).length ∧
      fk'.modifier = ((ms.filterMap comparisonOf?).getLast?).getD fk.modifier ∧
      fk'.all = (fk.all || ms.any (Text.lower · == "all")) ∧
      fk'.expand = (fk.expand || ms.any (Text.lower · == "expand")) ∧
      ∀ m ∈ ms, Known m := by
  induction ms generalizing fk n with
  | nil =>
    cases h
    simp
  | cons m rest ih =>
    unfold applyMods at h
    -- a name sets a comparison or switches `all` or `expand` on, and the rest follows
    split at h
    case h_8 => cases h
    all_goals
      rename_i heq
      obtain ⟨hfield, hn, hmod, hall, hexp, hknown⟩ := ih h
      -- the name's comparison, read off its lower-case form
      have hc : comparisonOf? m = (Modifier.ofName? (Text.lower m)).filter (· != .equals) := rfl
      rw [heq] at hc
      simp +decide only [Modifier.ofName?, Option.filter, if_true] at hc
      refine ⟨hfield, ?_, ?_, ?_, ?_, List.forall_mem_cons.mpr ⟨?_, hknown⟩⟩ <;>
        simp [List.getLast?_cons, hc, heq, hn, hmod, hall, hexp, Known] <;> omega

/-- The last element of a list of at most one is its first. -/
theorem getLast?_getD_of_length_le_one {α : Type} {l : List α} (d : α) (h : l.length ≤ 1) :
    l.getLast?.getD d = l.headD d := by
  rcases l with _ | ⟨x, _ | ⟨y, l⟩⟩
  · rfl
  · rfl
  · simp at h

/-- A key that parses reads as its field and its modifiers. -/
theorem parse_reads {key : Text.Bytes} {fk : FieldKey} (h : parse key = .ok fk) :
    Reads key fk := by
  rw [parse, bind_eq_ok] at h
  obtain ⟨⟨fk', n⟩, hmods, h⟩ := h
  obtain ⟨hfield, hn, hmod, hall, hexp, hknown⟩ := applyMods_reads hmods
  dsimp only at h
  split at h
  · cases h
  · next hle =>
    cases h
    have hsingle : ((modsOf key).filterMap comparisonOf?).length ≤ 1 := by
      rw [modsOf]
      omega
    -- the pieces of the key are those `parse` applies, and the first of them is the field
    exact { field := hfield.trans (Text.headD_splitOnByte 0x7C key),
            modifier := hmod.trans (getLast?_getD_of_length_le_one _ hsingle),
            single := hsingle
            all := hall.trans (Bool.false_or _)
            expand := hexp.trans (Bool.false_or _)
            known := hknown }

end FieldKey

namespace Condition

/-- A field's value holds texts, in order: a list of texts, or one text. -/
def HoldsTexts (v : Value) (texts : List String) : Prop :=
  v = .list (texts.map .text) ∨ ∃ s, v = .text s ∧ texts = [s]

/-- What a field of a map reads as. Its key reads as `fk` and its value holds texts; expanded
when the key asks for it, they are the values, one at least. The field is the selection of the
values on the key's field by the key's comparison or, under `all` with two values or more, the
conjunction of one selection per value, in order. -/
def FieldReads (ph : Option Placeholders) (key : Text.Bytes) (v : Value) (c : Condition) :
    Prop :=
  ∃ fk texts values, FieldKey.Reads key fk ∧ HoldsTexts v texts ∧
    (if fk.expand then Placeholders.expandAll ph texts = .ok values else values = texts) ∧
    values ≠ [] ∧
    c = if fk.all = true ∧ 1 < values.length then
          .and (values.map fun x => .select ⟨fk.field, fk.modifier, [x]⟩)
        else .select ⟨fk.field, fk.modifier, values⟩

/-- What a map reads as: the conjunction of what its fields read as, in order; it has a field
at least. -/
def MapReads (ph : Option Placeholders) (fields : List (Text.Bytes × Value)) (c : Condition) :
    Prop :=
  fields ≠ [] ∧
    ∃ cs, List.Forall₂ (fun (f : Text.Bytes × Value) c => FieldReads ph f.1 f.2 c) fields cs ∧
      c = allOf cs

/-- What an entry reads as: the keyword selection of the texts it holds, one at least; a map;
or the disjunction of what the maps of a list of maps read as, in order. -/
def EntryReads (ph : Option Placeholders) (v : Value) (c : Condition) : Prop :=
  (∃ texts, texts ≠ [] ∧ HoldsTexts v texts ∧ c = .select ⟨[], .equals, texts⟩) ∨
    (∃ fields, v = .map fields ∧ MapReads ph fields c) ∨
    ∃ maps cs, maps ≠ [] ∧ v = .list (maps.map .map) ∧ List.Forall₂ (MapReads ph) maps cs ∧
      c = anyOf cs

/-- Values read as texts are texts, in order. -/
theorem textsOf_eq_ok {key : String} {items : List Value} {texts : List String}
    (h : textsOf key items = .ok texts) : items = texts.map .text := by
  induction items generalizing texts with
  | nil =>
    cases h
    rfl
  | cons v rest ih =>
    cases v with
    | text s =>
      obtain ⟨texts', h', rfl⟩ := map_eq_ok.mp h
      rw [ih h', List.map_cons]
    | _ => cases h

/-- A field that builds reads as its key and its values. -/
theorem ofField_reads {ph : Option Placeholders} {key : Text.Bytes} {v : Value} {c : Condition}
    (h : ofField ph key v = .ok c) : FieldReads ph key v c := by
  rw [ofField, bind_eq_ok] at h
  obtain ⟨fk, hfk, h⟩ := h
  extract_lets name finish read at h
  -- the items are those of a list or the value alone, and a map is refused
  obtain ⟨raw, hv, h⟩ :
      ∃ raw, (∀ texts, textsOf name raw = .ok texts → HoldsTexts v texts) ∧ read raw = .ok c := by
    split at h
    · next _ items =>
      exact ⟨items, fun texts ht => .inl (congrArg Value.list (textsOf_eq_ok ht)), h⟩
    · cases h
    · next _ hlist hmap =>
      refine ⟨[v], fun texts ht => ?_, h⟩
      cases v with
      | text s =>
        obtain ⟨rest, hrest, rfl⟩ := map_eq_ok.mp ht
        cases hrest
        exact .inr ⟨s, rfl, rfl⟩
      | null => cases ht
      | list items => exact absurd rfl (hlist items)
      | map entries => exact absurd rfl (hmap entries)
  unfold read at h
  rw [bind_eq_ok] at h
  obtain ⟨texts, htexts, h⟩ := h
  have hv := hv texts htexts
  obtain ⟨values, hx, h⟩ := bind_ite_eq_ok h
  unfold finish at h
  dsimp only at h
  split at h
  · cases h
  · next hne =>
    refine ⟨fk, texts, values, FieldKey.parse_reads hfk, hv, ?_, by simpa using hne, ?_⟩
    · -- the values are the texts, expanded when the key asks for it
      split at hx
      · next hexp => rw [if_pos hexp]; exact hx
      · next hexp =>
        cases hx
        rw [if_neg hexp]
    · -- under `all` with two values or more, one selection per value
      split at h
      · next hall =>
        cases h
        rw [if_pos (by simpa using hall)]
      · next hall =>
        cases h
        rw [if_neg (by simpa using hall)]

/-- The fields of a map read one by one, in order. -/
theorem ofFields_reads {ph : Option Placeholders} {fields : List (Text.Bytes × Value)}
    {cs : List Condition} (h : ofFields ph fields = .ok cs) :
    List.Forall₂ (fun (f : Text.Bytes × Value) c => FieldReads ph f.1 f.2 c) fields cs := by
  induction fields generalizing cs with
  | nil =>
    cases h
    exact .nil
  | cons kv rest ih =>
    obtain ⟨k, v⟩ := kv
    rw [ofFields, bind_eq_ok] at h
    obtain ⟨c, hc, h⟩ := h
    rw [bind_eq_ok] at h
    obtain ⟨cs', hcs', h⟩ := h
    cases h
    exact .cons (ofField_reads hc) (ih hcs')

/-- A map that builds reads as the conjunction of its fields. -/
theorem ofMap_reads {ph : Option Placeholders} {key : String}
    {fields : List (Text.Bytes × Value)} {c : Condition} (h : ofMap ph key fields = .ok c) :
    MapReads ph fields c := by
  rw [ofMap] at h
  split at h
  · cases h
  · next hne =>
    obtain ⟨cs, hcs, rfl⟩ := map_eq_ok.mp h
    exact ⟨fun hnil => hne (by simp [hnil]), cs, ofFields_reads hcs, rfl⟩

/-- A list of maps that builds reads map by map, in order. -/
theorem ofMaps_reads {ph : Option Placeholders} {key : String} {items : List Value}
    {cs : List Condition} (hmaps : ∀ v ∈ items, ∃ fields, v = .map fields)
    (h : ofMaps ph key items = .ok cs) :
    ∃ maps, items = maps.map .map ∧ List.Forall₂ (MapReads ph) maps cs := by
  induction items generalizing cs with
  | nil =>
    cases h
    exact ⟨[], rfl, .nil⟩
  | cons v rest ih =>
    obtain ⟨fields, rfl⟩ := hmaps v List.mem_cons_self
    rw [ofMaps, bind_eq_ok] at h
    obtain ⟨c, hc, h⟩ := h
    rw [bind_eq_ok] at h
    obtain ⟨cs', hcs', h⟩ := h
    cases h
    obtain ⟨maps, rfl, hreads⟩ := ih (fun w hw => hmaps w (List.mem_cons_of_mem _ hw)) hcs'
    exact ⟨fields :: maps, rfl, .cons (ofMap_reads hc) hreads⟩

/-- Every entry that builds reads as the entry. A text or a list of texts is the keyword
selection of those texts, in order. A map is the conjunction of its fields, and a list of maps
the disjunction of those conjunctions, in order, one of either standing for itself. Each field
is the selection of the texts of its value, expanded when its key asks for it, on the bytes
of the key before its first bar, by the one comparison among the key's modifiers; under `all`
with two values or more it is the conjunction of one selection per value. That field may be
empty: a key that starts with a bar reads as a keyword selection. -/
theorem ofEntry_reads (ph : Option Placeholders) (key : String) (v : Value) (c : Condition)
    (h : ofEntry ph key v = .ok c) : EntryReads ph v c := by
  unfold ofEntry at h
  split at h
  · exact .inr (.inl ⟨_, rfl, ofMap_reads h⟩)
  · cases h
  · next items hne =>
    -- a list is read by its shape: only maps, or only texts
    split at h
    · next hshape =>
      obtain ⟨cs, hcs, rfl⟩ := map_eq_ok.mp h
      obtain ⟨maps, rfl, hreads⟩ := ofMaps_reads (eq_map_of_listShape hshape) hcs
      refine .inr (.inr ⟨maps, cs, ?_, rfl, hreads, rfl⟩)
      rintro rfl
      exact hne rfl
    · rw [bind_eq_ok] at h
      obtain ⟨texts, htexts, h⟩ := h
      cases h
      have hitems := textsOf_eq_ok htexts
      refine .inl ⟨texts, ?_, .inl (congrArg Value.list hitems), rfl⟩
      rintro rfl
      exact hne hitems
    · cases h
  · cases h
  · next s =>
    cases h
    exact .inl ⟨[s], List.cons_ne_nil _ _, .inr ⟨s, rfl, rfl⟩, rfl⟩

/-- A map whose key starts with a bar builds a keyword selection: its field is empty. -/
theorem ofEntry_reads_bar_key :
    let v : Value := .map [(Text.utf8 "|contains", .text "foo")]
    ofEntry none "sel" v = .ok (.select ⟨[], .contains, ["foo"]⟩) ∧
      EntryReads none v (.select ⟨[], .contains, ["foo"]⟩) := by
  intro v
  have h : ofEntry none "sel" v = .ok (.select ⟨[], .contains, ["foo"]⟩) := by
    cbv
  exact ⟨h, ofEntry_reads none "sel" v _ h⟩

end Condition

end SigmaQuery
