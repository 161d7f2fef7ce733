import Mathlib
import SigmaQuery.Query.Term
import SigmaQuery.Proofs.Text.Decoding

/-!
# Escaped values

A value is escaped for a query as the text its bytes read as, each byte that begins no valid
encoding read as U+FFFD, by doubling each of its backslashes and by a backslash before each `<`
and `>`. Read back from the left, a doubled backslash is one backslash and a backslash before an
angle bracket is the bracket, so the escaped text gives that text again (`unescape_escape`).

In an escaped text the backslashes come in runs whose parity says what they do: a run right
before `<` or `>` is odd, its last backslash escaping the bracket, and every other run, the one
that ends the text included, is even and escapes nothing (`AnglesEscaped`). Texts of this kind
are closed under joining (`AnglesEscaped.append`), so when a term puts wildcards around an
escaped value, those wildcards and the ones the value had stay unescaped, and every angle
bracket of the value stays escaped (`escapeValue_reads_back`).
-/

namespace SigmaQuery.Query

/-! ### Reading an escaped text back -/

/-- Reads an escaped text back from the left: a doubled backslash is one backslash, and a
backslash before `<` or `>` is that bracket. -/
def unescape : List Char → List Char
  | '\\' :: '\\' :: rest => '\\' :: unescape rest
  | '\\' :: '<' :: rest => '<' :: unescape rest
  | '\\' :: '>' :: rest => '>' :: unescape rest
  | c :: rest => c :: unescape rest
  | [] => []

/-- A character other than a backslash is read as itself. -/
theorem unescape_cons {c : Char} (h : c ≠ '\\') (rest : List Char) :
    unescape (c :: rest) = c :: unescape rest := by
  conv_lhs => unfold unescape
  split <;> simp_all

/-- Reading back undoes the escaping of one character. -/
theorem unescape_escapeValueChar (c : Char) (rest : List Char) :
    unescape (escapeValueChar c ++ rest) = c :: unescape rest := by
  by_cases h1 : c = '\\'
  · subst h1
    simp [escapeValueChar, unescape]
  by_cases h2 : c = '<'
  · subst h2
    simp [escapeValueChar, unescape]
  by_cases h3 : c = '>'
  · subst h3
    simp [escapeValueChar, unescape]
  have hc : escapeValueChar c = [c] := by simp [escapeValueChar, h1, h2, h3]
  rw [hc, List.singleton_append, unescape_cons h1]

/-- Reading an escaped text back gives the text that was escaped. -/
theorem unescape_escape (v : List Char) : unescape (v.flatMap escapeValueChar) = v := by
  induction v with
  | nil => simp [unescape]
  | cons c v ih => rw [List.flatMap_cons, unescape_escapeValueChar, ih]

/-- Values other than networks are read as text and escaped character by character. -/
theorem toList_lossy_escapeValue {m : Modifier} (hm : m ≠ .cidr) (v : Text.Bytes) :
    (Text.lossy (escapeValue m v)).toList = (Text.lossy v).toList.flatMap escapeValueChar := by
  rw [escapeValue, if_neg (by simpa using hm), Text.lossy_utf8, String.toList_ofList]

/-! ### Runs of backslashes -/

/-- The number of backslashes that end a text. -/
def trailingBackslashes (s : List Char) : Nat := (s.reverse.takeWhile (· == '\\')).length

/-- The number of backslashes right before position `i` of a text. -/
def backslashesBefore (s : List Char) (i : Nat) : Nat := trailingBackslashes (s.take i)

/-- Whether the backslashes of a text escape exactly its angle brackets: before each position
that holds no backslash, and before the end, the run of backslashes is odd exactly when the
position holds `<` or `>`. So a maximal run of backslashes is odd exactly when `<` or `>`
follows it, and every `<` and `>` follows an odd run. -/
def AnglesEscaped (s : List Char) : Prop :=
  ∀ i ≤ s.length, s[i]? ≠ some '\\' →
    (Odd (backslashesBefore s i) ↔ s[i]? = some '<' ∨ s[i]? = some '>')

/-- Backslashes after a text lengthen the run that ends it. -/
theorem trailingBackslashes_append_of_all (a : List Char) {b : List Char}
    (h : ∀ x ∈ b, x = '\\') :
    trailingBackslashes (a ++ b) = trailingBackslashes a + b.length := by
  have hb : ∀ x ∈ b.reverse, (x == '\\') = true := by simpa using h
  rw [trailingBackslashes, List.reverse_append, List.takeWhile_append_of_pos hb,
    List.length_append, List.length_reverse, trailingBackslashes, Nat.add_comm]

/-- After a character other than a backslash, the run that ends a text is that of what
follows it. -/
theorem trailingBackslashes_append_of_not {a b : List Char} (h : ∃ x ∈ b, x ≠ '\\') :
    trailingBackslashes (a ++ b) = trailingBackslashes b := by
  obtain ⟨x, hx, hne⟩ := h
  have hshort : (b.reverse.takeWhile (· == '\\')).length ≠ b.reverse.length := by
    intro hlen
    have hall := List.takeWhile_eq_self_iff.mp (List.IsPrefix.eq_of_length
      (List.takeWhile_prefix _) hlen)
    exact hne (by simpa using hall x (List.mem_reverse.mpr hx))
  rw [trailingBackslashes, List.reverse_append, List.takeWhile_append, if_neg hshort,
    trailingBackslashes]

/-- A text of backslashes is one run. -/
theorem trailingBackslashes_of_all {b : List Char} (h : ∀ x ∈ b, x = '\\') :
    trailingBackslashes b = b.length := by
  simpa [trailingBackslashes] using trailingBackslashes_append_of_all [] h

/-- A text whose backslashes escape its angle brackets ends with an even run. -/
theorem AnglesEscaped.even_trailing {s : List Char} (h : AnglesEscaped s) :
    Even (trailingBackslashes s) := by
  have hend := h s.length le_rfl (by simp)
  simp only [List.getElem?_eq_none le_rfl, reduceCtorEq, or_self, iff_false] at hend
  rw [backslashesBefore, List.take_length] at hend
  exact Nat.not_odd_iff_even.mp hend

/-- The run before a position of the second of two joined texts has the parity it has in
the second text, when the first ends with an even run. -/
theorem odd_backslashesBefore_append {a b : List Char} (ha : Even (trailingBackslashes a))
    (j : Nat) :
    Odd (backslashesBefore (a ++ b) (a.length + j)) ↔ Odd (backslashesBefore b j) := by
  rw [backslashesBefore, backslashesBefore, List.take_length_add_append]
  by_cases hall : ∀ x ∈ b.take j, x = '\\'
  · -- the run goes on into the first text, whose own run is even
    rw [trailingBackslashes_append_of_all a hall, trailingBackslashes_of_all hall]
    obtain ⟨k, hk⟩ := ha
    rw [hk, Nat.odd_iff, Nat.odd_iff]
    omega
  · push Not at hall
    rw [trailingBackslashes_append_of_not hall]

/-- Joining two texts whose backslashes escape their angle brackets gives such a text. -/
theorem AnglesEscaped.append {a b : List Char} (ha : AnglesEscaped a) (hb : AnglesEscaped b) :
    AnglesEscaped (a ++ b) := by
  intro i hi hne
  rcases Nat.lt_or_ge i a.length with hlt | hge
  · -- a position of the first text sees what comes before it there
    have hget : (a ++ b)[i]? = a[i]? := List.getElem?_append_left hlt
    have hbefore : backslashesBefore (a ++ b) i = backslashesBefore a i := by
      rw [backslashesBefore, backslashesBefore, List.take_append_of_le_length hlt.le]
    rw [hget] at hne ⊢
    rw [hbefore]
    exact ha i hlt.le hne
  · obtain ⟨j, rfl⟩ : ∃ j, i = a.length + j := ⟨i - a.length, by omega⟩
    have hj : j ≤ b.length := by
      simp only [List.length_append] at hi
      omega
    have hget : (a ++ b)[a.length + j]? = b[j]? := by
      rw [List.getElem?_append_right (by omega), Nat.add_sub_cancel_left]
    rw [hget] at hne ⊢
    rw [odd_backslashesBefore_append ha.even_trailing j]
    exact hb j hj hne

theorem anglesEscaped_nil : AnglesEscaped [] := by
  intro i hi _
  simp at hi
  subst hi
  simp [backslashesBefore, trailingBackslashes]

/-- A character that is neither a backslash nor an angle bracket stands alone. -/
theorem anglesEscaped_single {c : Char} (h1 : c ≠ '\\') (h2 : c ≠ '<') (h3 : c ≠ '>') :
    AnglesEscaped [c] := by
  intro i hi _
  simp only [List.length_singleton] at hi
  interval_cases i <;> simp [backslashesBefore, trailingBackslashes, h1, h2, h3]

/-- The escaped form of a character has its angle brackets escaped. -/
theorem anglesEscaped_escapeValueChar (c : Char) : AnglesEscaped (escapeValueChar c) := by
  by_cases h1 : c = '\\'
  · subst h1
    intro i hi hne
    simp only [escapeValueChar, beq_self_eq_true, if_true, List.length_cons,
      List.length_nil] at hi hne ⊢
    interval_cases i <;> simp_all [backslashesBefore, trailingBackslashes]
  by_cases h2 : c = '<' ∨ c = '>'
  · have hc : escapeValueChar c = ['\\', c] := by simp [escapeValueChar, h1, h2]
    rw [hc]
    intro i hi hne
    simp only [List.length_cons, List.length_nil] at hi
    interval_cases i <;> simp_all [backslashesBefore, trailingBackslashes]
  · push Not at h2
    have hc : escapeValueChar c = [c] := by simp [escapeValueChar, h1, h2.1, h2.2]
    rw [hc]
    exact anglesEscaped_single h1 h2.1 h2.2

/-- The backslashes of an escaped text escape exactly its angle brackets. -/
theorem anglesEscaped_escape (v : List Char) : AnglesEscaped (v.flatMap escapeValueChar) := by
  induction v with
  | nil => exact anglesEscaped_nil
  | cons c v ih => exact (anglesEscaped_escapeValueChar c).append ih

/-- In such a text a wildcard follows an even run of backslashes, so it is not escaped. -/
theorem AnglesEscaped.even_of_star {s : List Char} (h : AnglesEscaped s) {i : Nat}
    (hi : s[i]? = some '*') : Even (backslashesBefore s i) := by
  have hlt : i < s.length := (List.getElem?_eq_some_iff.mp hi).1
  have hodd := h i hlt.le (by simp [hi])
  simp only [hi, Option.some.injEq] at hodd
  exact Nat.not_odd_iff_even.mp (fun ho => by simpa using hodd.mp ho)

/-- In such a text an angle bracket follows an odd run of backslashes, so it is escaped. -/
theorem AnglesEscaped.odd_of_angle {s : List Char} (h : AnglesEscaped s) {i : Nat}
    (hi : s[i]? = some '<' ∨ s[i]? = some '>') : Odd (backslashesBefore s i) := by
  have hlt : i < s.length := by
    rcases hi with hi | hi <;> exact (List.getElem?_eq_some_iff.mp hi).1
  exact (h i hlt.le (by rcases hi with hi | hi <;> simp [hi])).mpr hi

/-! ### Terms of escaped values -/

/-- The term of an escaped value under equality or a match by wildcards is the value with its
wildcards, if any, around it. -/
theorem expand_of_wildcards {m : Modifier} (hm : m ∈ [.equals, .contains, .startsWith, .endsWith])
    (e : String) : ∃ pre suf, (pre = [] ∨ pre = ['*']) ∧ (suf = [] ∨ suf = ['*']) ∧
      expand m e = .ok (String.ofList (pre ++ e.toList ++ suf)) := by
  simp only [List.mem_cons, List.not_mem_nil, or_false] at hm
  rcases hm with rfl | rfl | rfl | rfl
  · exact ⟨[], [], .inl rfl, .inl rfl, by simp [expand]⟩
  · exact ⟨['*'], ['*'], .inr rfl, .inr rfl, by simp [expand, wildcard, String.append_assoc]⟩
  · exact ⟨[], ['*'], .inl rfl, .inr rfl, by simp [expand, wildcard]⟩
  · exact ⟨['*'], [], .inr rfl, .inl rfl, by simp [expand, wildcard]⟩

/-- A wildcard, or nothing, has no backslash to escape anything. -/
theorem anglesEscaped_wildcard {w : List Char} (h : w = [] ∨ w = ['*']) : AnglesEscaped w := by
  rcases h with rfl | rfl
  · exact anglesEscaped_nil
  · exact anglesEscaped_single (by decide) (by decide) (by decide)

/-- A value other than a network is escaped as the text it reads as, each byte that begins no
valid encoding read as U+FFFD. The escaped bytes are UTF-8, and reading them back undoes the
escaping and gives that text; so two values have one escaped form exactly when they read as the
same text, and two UTF-8 values never share one. The backslashes of the escaped text escape
exactly its angle brackets, and in its term under equality, containment or either anchored
match, every wildcard, whether the term added it or the value had it, follows an even run of
backslashes and is not escaped, while every `<` and `>` follows an odd run and is. A network
value is kept as it is. -/
theorem escapeValue_reads_back (m : Modifier) (hm : m ≠ .cidr) (v : Text.Bytes) :
    Text.IsUtf8 (escapeValue m v) ∧
      unescape (Text.lossy (escapeValue m v)).toList = (Text.lossy v).toList ∧
      (∀ w, escapeValue m w = escapeValue m v ↔ Text.lossy w = Text.lossy v) ∧
      (∀ w, Text.IsUtf8 w → Text.IsUtf8 v → escapeValue m w = escapeValue m v → w = v) ∧
      AnglesEscaped (Text.lossy (escapeValue m v)).toList ∧
      (m ∈ [.equals, .contains, .startsWith, .endsWith] →
        ∃ t, expand m (Text.lossy (escapeValue m v)) = .ok t ∧
          (∀ i, t.toList[i]? = some '*' → Even (backslashesBefore t.toList i)) ∧
          (∀ i, t.toList[i]? = some '<' ∨ t.toList[i]? = some '>' →
            Odd (backslashesBefore t.toList i))) ∧
      escapeValue .cidr v = v := by
  have hback : ∀ w, unescape (Text.lossy (escapeValue m w)).toList = (Text.lossy w).toList :=
    fun w => by rw [toList_lossy_escapeValue hm, unescape_escape]
  -- the escaped form depends on the value only through the text it reads as
  have hsame : ∀ w, escapeValue m w = escapeValue m v ↔ Text.lossy w = Text.lossy v := by
    intro w
    constructor
    · intro hw
      apply String.ext
      rw [← hback w, hw, hback v]
    · intro hw
      rw [escapeValue, escapeValue, if_neg (by simpa using hm), if_neg (by simpa using hm), hw]
  have hescaped : AnglesEscaped (Text.lossy (escapeValue m v)).toList := by
    rw [toList_lossy_escapeValue hm]
    exact anglesEscaped_escape (Text.lossy v).toList
  refine ⟨⟨_, by rw [escapeValue, if_neg (by simpa using hm)]⟩, hback v, hsame,
    fun w hw hv he => Text.eq_of_lossy_eq hw hv ((hsame w).1 he), hescaped, fun hwild => ?_,
    by simp [escapeValue]⟩
  obtain ⟨pre, suf, hpre, hsuf, hexp⟩ :=
    expand_of_wildcards hwild (Text.lossy (escapeValue m v))
  have hterm : AnglesEscaped (pre ++ (Text.lossy (escapeValue m v)).toList ++ suf) :=
    ((anglesEscaped_wildcard hpre).append hescaped).append (anglesEscaped_wildcard hsuf)
  refine ⟨_, hexp, fun i hi => ?_, fun i hi => ?_⟩
  · rw [String.toList_ofList] at hi ⊢
    exact hterm.even_of_star hi
  · rw [String.toList_ofList] at hi ⊢
    exact hterm.odd_of_angle hi

/-- The value `a\<b*\` under containment: its escaped term `*a\\\<b*\\*` reads back, its three
wildcards follow even runs and its bracket an odd one. -/
theorem escapeValue_reads_back_backslashes :
    Modifier.contains ≠ .cidr ∧
      Text.IsUtf8 (escapeValue .contains (Text.utf8 "a\\<b*\\")) ∧
      unescape (Text.lossy (escapeValue .contains (Text.utf8 "a\\<b*\\"))).toList =
        (Text.lossy (Text.utf8 "a\\<b*\\")).toList ∧
      (∀ w, escapeValue .contains w = escapeValue .contains (Text.utf8 "a\\<b*\\") ↔
        Text.lossy w = Text.lossy (Text.utf8 "a\\<b*\\")) ∧
      (∀ w, Text.IsUtf8 w → Text.IsUtf8 (Text.utf8 "a\\<b*\\") →
        escapeValue .contains w = escapeValue .contains (Text.utf8 "a\\<b*\\") →
          w = Text.utf8 "a\\<b*\\") ∧
      AnglesEscaped (Text.lossy (escapeValue .contains (Text.utf8 "a\\<b*\\"))).toList ∧
      (Modifier.contains ∈ [.equals, .contains, .startsWith, .endsWith] →
        ∃ t, expand .contains (Text.lossy (escapeValue .contains (Text.utf8 "a\\<b*\\"))) = .ok t ∧
          (∀ i, t.toList[i]? = some '*' → Even (backslashesBefore t.toList i)) ∧
          (∀ i, t.toList[i]? = some '<' ∨ t.toList[i]? = some '>' →
            Odd (backslashesBefore t.toList i))) ∧
      escapeValue .cidr (Text.utf8 "a\\<b*\\") = Text.utf8 "a\\<b*\\" :=
  ⟨by decide, escapeValue_reads_back .contains (by decide) (Text.utf8 "a\\<b*\\")⟩

/-- The byte 0x80, which begins no UTF-8 encoding, is escaped as U+FFFD is: the two values have
one escaped form, so the escaped form does not give the byte back. -/
theorem escapeValue_stray_byte :
    escapeValue .equals [0x80] = escapeValue .equals (Text.utf8 "\uFFFD") ∧
      ([0x80] : Text.Bytes) ≠ Text.utf8 "\uFFFD" :=
  ⟨by decide +kernel, by decide +kernel⟩

end SigmaQuery.Query
