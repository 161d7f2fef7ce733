import SigmaQuery.Proofs.Text.Runes
import SigmaQuery.Query.Compile

/-!
# Reading a query back

A query is read back as a tree of its connectives. Its words are the runs of characters that are
not blank, each parenthesis a word of its own. `NOT` binds tighter than `AND`, and `AND` tighter
than `OR`; `NOT` stands before its operand and parentheses group. A chain of one connective
reads as one group of all its operands, and a group that is an operand of the same connective
is flattened into it: the tree keeps what a query means, up to how a connective is grouped
with itself.

The reader descends one level of binding at a time and gives back the words it leaves; each
level returns its remainder together with the proof that it read something, which is what
makes the descent terminate. `factor`, `operand`, `chain` and `more` are the same functions
without that proof, and their equations are all that later proofs use.
-/

namespace SigmaQuery.Query

/-- The connectives a query joins operands with. -/
inductive Connective where
  | and
  | or
  deriving DecidableEq, Repr

namespace Connective

/-- The word a connective is written with. -/
def word : Connective → Text.Bytes
  | .and => Text.utf8 "AND"
  | .or => Text.utf8 "OR"

/-- How tightly a group of the connective binds. -/
def strength : Connective → Strength
  | .and => .conjunction
  | .or => .disjunction

/-- Where the reader of a connective's chain stands among the levels of binding. -/
def rank : Connective → Nat
  | .and => 0
  | .or => 1

end Connective

/-- A query read back: a term, a negation, or a group of operands under one connective. -/
inductive QueryTree where
  | term (text : Text.Bytes)
  | not (operand : QueryTree)
  | group (op : Connective) (operands : List QueryTree)
  deriving Repr

namespace QueryTree

/-- What a tree gives to a group of `op`: the operands of its own group of `op`, or itself. -/
def operands (op : Connective) : QueryTree → List QueryTree
  | group o items => if o = op then items else [group o items]
  | t => [t]

/-- Operands joined by a connective; groups of the same connective among them are flattened
into the result, and a single operand stands for itself. -/
def join (op : Connective) (items : List QueryTree) : QueryTree :=
  match items.flatMap (operands op) with
  | [t] => t
  | flat => group op flat

/-- A tree as `join` leaves it at its root: a group has at least two operands, none of them a
group of the same connective. -/
def Joined : QueryTree → Prop
  | group op items => 2 ≤ items.length ∧ ∀ t ∈ items, t.operands op = [t]
  | _ => True

/-- How tightly a tree binds, as the compiler ranks the parts of a query. -/
def strength : QueryTree → Strength
  | term _ => .term
  | not _ => .negation
  | group op _ => op.strength

/-! ### Joining operands -/

/-- A tree of another strength than a group of `op` is a single operand of it. -/
theorem operands_of_strength {t : QueryTree} {op : Connective} (h : t.strength ≠ op.strength) :
    t.operands op = [t] := by
  cases t with
  | term => rfl
  | not => rfl
  | group o items =>
    have hne : o ≠ op := fun he => h (by rw [he]; rfl)
    simp [operands, hne]

/-- Joining depends on the items only through the operands they give. -/
theorem join_congr {op : Connective} {xs ys : List QueryTree}
    (h : xs.flatMap (operands op) = ys.flatMap (operands op)) : join op xs = join op ys := by
  simp only [join, h]

/-- Items that are single operands each are their own operands. -/
theorem flatMap_operands_of_single {op : Connective} {items : List QueryTree}
    (h : ∀ t ∈ items, t.operands op = [t]) : items.flatMap (operands op) = items := by
  induction items with
  | nil => rfl
  | cons t rest ih =>
    rw [List.flatMap_cons, h t List.mem_cons_self,
      ih fun u hu => h u (List.mem_cons_of_mem _ hu), List.singleton_append]

/-- Every operand a joined tree gives is a single operand. -/
theorem operands_single {op : Connective} {t u : QueryTree} (ht : Joined t)
    (hu : u ∈ t.operands op) : u.operands op = [u] := by
  cases t with
  | term => simp only [operands, List.mem_singleton] at hu; subst hu; rfl
  | not => simp only [operands, List.mem_singleton] at hu; subst hu; rfl
  | group o items =>
    by_cases ho : o = op
    · subst ho
      simp only [operands, if_true] at hu
      exact ht.2 u hu
    · simp only [operands, ho, if_false, List.mem_singleton] at hu
      subst hu
      simp [operands, ho]

/-- The operands of a joined tree give themselves again. -/
theorem flatMap_operands_operands {op : Connective} {t : QueryTree} (ht : Joined t) :
    (t.operands op).flatMap (operands op) = t.operands op :=
  flatMap_operands_of_single fun _ hu => operands_single ht hu

/-- A joined tree gives at least one operand. -/
theorem operands_ne_nil {op : Connective} {t : QueryTree} (ht : Joined t) :
    t.operands op ≠ [] := by
  cases t with
  | term => simp [operands]
  | not => simp [operands]
  | group o items =>
    by_cases ho : o = op
    · subst ho
      have := ht.1
      intro h
      simp only [operands, if_true] at h
      simp [h] at this
    · simp [operands, ho]

/-- Two operands or more are joined into a group of them. -/
theorem join_of_two_le {op : Connective} {items : List QueryTree}
    (h : 2 ≤ (items.flatMap (operands op)).length) :
    join op items = group op (items.flatMap (operands op)) := by
  unfold join
  split
  · rename_i t ht
    rw [ht] at h
    simp at h
  · rfl

/-- Joining the operands of a joined tree gives the tree back. -/
theorem join_operands {op : Connective} {t : QueryTree} (ht : Joined t) :
    join op (t.operands op) = t := by
  have hflat : (t.operands op).flatMap (operands op) = t.operands op :=
    flatMap_operands_operands ht
  cases t with
  | term => simp [join, operands]
  | not => simp [join, operands]
  | group o items =>
    by_cases ho : o = op
    · subst ho
      simp only [operands, if_true] at hflat ⊢
      rw [join_of_two_le (by rw [hflat]; exact ht.1), hflat]
    · simp [join, operands, ho]

/-- Items that each give an operand give at least as many operands as there are items. -/
theorem length_le_flatMap_operands {op : Connective} {items : List QueryTree}
    (h : ∀ t ∈ items, Joined t) : items.length ≤ (items.flatMap (operands op)).length := by
  induction items with
  | nil => simp
  | cons t rest ih =>
    have ht : t.operands op ≠ [] := operands_ne_nil (h t List.mem_cons_self)
    have hrest := ih fun u hu => h u (List.mem_cons_of_mem _ hu)
    have hpos : 0 < (t.operands op).length := List.length_pos_iff.mpr ht
    simp only [List.flatMap_cons, List.length_append, List.length_cons]
    omega

/-- Joined items that give two operands or more join into a joined group of the connective,
whose operands are theirs. -/
theorem join_joined {op : Connective} {items : List QueryTree} (h : ∀ t ∈ items, Joined t)
    (hlen : 2 ≤ (items.flatMap (operands op)).length) :
    Joined (join op items) ∧ (join op items).operands op = items.flatMap (operands op) ∧
      (join op items).strength = op.strength := by
  rw [join_of_two_le hlen]
  refine ⟨⟨hlen, ?_⟩, by simp [operands], rfl⟩
  intro u hu
  obtain ⟨t, ht, hut⟩ := List.mem_flatMap.mp hu
  exact operands_single (h t ht) hut

end QueryTree

/-! ### Words -/

theorem utf8_open : Text.utf8 "(" = [0x28] := by decide +kernel
theorem utf8_close : Text.utf8 ")" = [0x29] := by decide +kernel
theorem utf8_not : Text.utf8 "NOT" = [0x4E, 0x4F, 0x54] := by decide +kernel
theorem utf8_and : Text.utf8 "AND" = [0x41, 0x4E, 0x44] := by decide +kernel
theorem utf8_or : Text.utf8 "OR" = [0x4F, 0x52] := by decide +kernel

/-- A byte of a query, with spaces around a parenthesis so that it is a word of its own. -/
def spaceParen (b : UInt8) : Text.Bytes :=
  if b = 0x28 ∨ b = 0x29 then [0x20, b, 0x20] else [b]

/-- The words of a query: its runs of characters that are not blank, each parenthesis a word
of its own. -/
def words (q : Text.Bytes) : List Text.Bytes :=
  Text.fields (q.flatMap spaceParen)

/-- Whether bytes are one word of a query that reads as a term: not empty, with no blank and no
parenthesis, and not a word of the query language. -/
def IsTerm (w : Text.Bytes) : Prop :=
  w ≠ [] ∧ Text.NoBlank w ∧ 0x28 ∉ w ∧ 0x29 ∉ w ∧
    w ≠ Text.utf8 "NOT" ∧ w ≠ Text.utf8 "AND" ∧ w ≠ Text.utf8 "OR"

/-- Bytes with no parenthesis are kept as they are. -/
theorem flatMap_spaceParen {w : Text.Bytes} (h1 : 0x28 ∉ w) (h2 : 0x29 ∉ w) :
    w.flatMap spaceParen = w := by
  induction w with
  | nil => rfl
  | cons b rest ih =>
    have hb : ¬(b = 0x28 ∨ b = 0x29) := by
      rintro (rfl | rfl)
      · exact h1 List.mem_cons_self
      · exact h2 List.mem_cons_self
    rw [List.flatMap_cons, ih (fun h => h1 (List.mem_cons_of_mem _ h))
      (fun h => h2 (List.mem_cons_of_mem _ h))]
    simp [spaceParen, hb]

@[simp] theorem words_nil : words [] = [] := by
  simp [words, Text.fields, Text.fieldsFrom]

/-- A space cuts the words of a query in two. -/
theorem words_append_space (a b : Text.Bytes) : words (a ++ 0x20 :: b) = words a ++ words b := by
  have hs : spaceParen 0x20 = [0x20] := by decide
  rw [words, List.flatMap_append, List.flatMap_cons, hs, List.singleton_append,
    Text.fields_append_space, words, words]

/-- Bytes with no blank and no parenthesis are one word. -/
theorem words_of_noBlank {w : Text.Bytes} (hw : w ≠ []) (hb : Text.NoBlank w)
    (h1 : 0x28 ∉ w) (h2 : 0x29 ∉ w) : words w = [w] := by
  rw [words, flatMap_spaceParen h1 h2, Text.fields_of_noBlank hw hb]

/-- A term is one word. -/
theorem words_of_isTerm {w : Text.Bytes} (h : IsTerm w) : words w = [w] :=
  words_of_noBlank h.1 h.2.1 h.2.2.1 h.2.2.2.1

/-- A word of the query language is one word. -/
theorem words_ascii {w : Text.Bytes} (hw : w ≠ []) (ha : ∀ x ∈ w, x.toNat < 0x80)
    (hb : ∀ x ∈ w, Text.isBlank (Char.ofNat x.toNat) = false) (h1 : 0x28 ∉ w) (h2 : 0x29 ∉ w) :
    words w = [w] :=
  words_of_noBlank hw (Text.noBlank_of_ascii ha hb) h1 h2

/-- Bytes below 0x80 that are neither blank nor a parenthesis, and not a word of the query
language, are a term. -/
theorem isTerm_of_ascii {w : Text.Bytes} (hw : w ≠ [])
    (ha : ∀ x ∈ w, x.toNat < 0x80 ∧ Text.isBlank (Char.ofNat x.toNat) = false ∧
      x ≠ 0x28 ∧ x ≠ 0x29)
    (hk : w ≠ Text.utf8 "NOT" ∧ w ≠ Text.utf8 "AND" ∧ w ≠ Text.utf8 "OR") : IsTerm w :=
  ⟨hw, Text.noBlank_of_ascii (fun x hx => (ha x hx).1) (fun x hx => (ha x hx).2.1),
    fun h => (ha _ h).2.2.1 rfl, fun h => (ha _ h).2.2.2 rfl, hk⟩

/-- A part in parentheses reads as the parentheses around its words. -/
theorem words_parens (q : Text.Bytes) :
    words (Text.utf8 "(" ++ q ++ Text.utf8 ")") =
      Text.utf8 "(" :: words q ++ [Text.utf8 ")"] := by
  have hopen : spaceParen 0x28 = [0x20, 0x28, 0x20] := by decide
  have hclose : spaceParen 0x29 = [0x20, 0x29, 0x20] := by decide
  have hw1 : Text.fields [0x28] = [[0x28]] := Text.fields_of_noBlank (by simp)
    (Text.noBlank_of_ascii (by decide +kernel) (by decide +kernel))
  have hw2 : Text.fields [0x29] = [[0x29]] := Text.fields_of_noBlank (by simp)
    (Text.noBlank_of_ascii (by decide +kernel) (by decide +kernel))
  rw [utf8_open, utf8_close, words, List.flatMap_append, List.flatMap_append, List.flatMap_singleton,
    List.flatMap_singleton, hopen, hclose]
  have e : [(0x20 : UInt8), 0x28, 0x20] ++ q.flatMap spaceParen ++ [0x20, 0x29, 0x20] =
      [] ++ 0x20 :: ([0x28] ++ 0x20 :: (q.flatMap spaceParen ++ 0x20 :: ([0x29] ++ 0x20 :: []))) := by
    simp
  rw [e, Text.fields_append_space, Text.fields_append_space, Text.fields_append_space,
    Text.fields_append_space, hw1, hw2]
  simp [Text.fields, Text.fieldsFrom, words]

/-- `NOT ` before a part reads as the word `NOT` before its words. -/
theorem words_not (q : Text.Bytes) :
    words (Text.utf8 "NOT " ++ q) = Text.utf8 "NOT" :: words q := by
  have e : Text.utf8 "NOT " ++ q = Text.utf8 "NOT" ++ 0x20 :: q := by
    rw [show Text.utf8 "NOT " = Text.utf8 "NOT" ++ [0x20] by decide +kernel]
    simp
  rw [e, words_append_space, utf8_not, words_ascii (by simp) (by decide +kernel)
    (by decide +kernel) (by decide +kernel) (by decide +kernel)]
  rfl

namespace Connective

/-- What a connective is written with between two operands: its word with a space around it. -/
def separator (op : Connective) : Text.Bytes := 0x20 :: op.word ++ [0x20]

/-- A connective's word is one word. -/
theorem words_word (op : Connective) : words op.word = [op.word] := by
  cases op <;> simp only [word, utf8_and, utf8_or] <;>
    exact words_ascii (by simp) (by decide +kernel) (by decide +kernel) (by decide +kernel)
      (by decide +kernel)

/-- A connective between two parts reads as its word between their words. -/
theorem words_separator (op : Connective) (a b : Text.Bytes) :
    words (a ++ op.separator ++ b) = words a ++ op.word :: words b := by
  have e : a ++ op.separator ++ b = a ++ 0x20 :: (op.word ++ 0x20 :: b) := by
    simp [separator]
  rw [e, words_append_space, words_append_space, words_word]
  rfl

/-- Parts joined by a connective read as their words joined by its word. -/
theorem words_intercalate (op : Connective) (parts : List Text.Bytes) :
    words (op.separator.intercalate parts) = [op.word].intercalate (parts.map words) := by
  induction parts with
  | nil => simp
  | cons p rest ih =>
    cases rest with
    | nil => simp
    | cons p' rest =>
      rw [List.intercalate_cons_cons, words_separator, ih, List.map_cons, List.map_cons,
        List.map_cons, List.intercalate_cons_cons]
      simp

end Connective

/-! ### The reader -/

open QueryTree

mutual

/-- Reads a factor: `NOT` and a factor, a disjunction in parentheses, or a term. -/
def readFactor : (ts : List Text.Bytes) →
    Option (QueryTree × {r : List Text.Bytes // r.length < ts.length})
  | [] => none
  | t :: rest =>
    if t = Text.utf8 "NOT" then
      match readFactor rest with
      | some (n, r) => some (.not n, ⟨r.1, by have := r.2; simp only [List.length_cons]; omega⟩)
      | none => none
    else if t = Text.utf8 "(" then
      match readChain .or rest with
      | some (n, ⟨close :: r, h⟩) =>
        if close = Text.utf8 ")" then
          some (n, ⟨r, by simp only [List.length_cons] at h ⊢; omega⟩)
        else none
      | _ => none
    else if t = Text.utf8 ")" ∨ t = Text.utf8 "AND" ∨ t = Text.utf8 "OR" then none
    else some (.term t, ⟨rest, by simp⟩)
termination_by ts => (ts.length, 0)

/-- Reads an operand of a connective: a factor under `AND`, a conjunction under `OR`. -/
def readOperand : (op : Connective) → (ts : List Text.Bytes) →
    Option (QueryTree × {r : List Text.Bytes // r.length < ts.length})
  | .and, ts => readFactor ts
  | .or, ts => readChain .and ts
termination_by op ts => (ts.length, 2 * op.rank + 1)
decreasing_by all_goals exact Prod.Lex.right _ (by simp [Connective.rank])

/-- Reads a chain of operands joined by a connective. -/
def readChain (op : Connective) (ts : List Text.Bytes) :
    Option (QueryTree × {r : List Text.Bytes // r.length < ts.length}) :=
  match readOperand op ts with
  | some (n, r) =>
    match readMore op [n] r.1 with
    | some (m, r') => some (m, ⟨r'.1, by have := r.2; have := r'.2; omega⟩)
    | none => none
  | none => none
termination_by (ts.length, 2 * op.rank + 2)
decreasing_by
  · exact Prod.Lex.right _ (by omega)
  · have := r.2
    simp only [Prod.lex_def]
    omega

/-- Reads the rest of a chain after its operands `acc`: while the connective's word comes next,
another operand. -/
def readMore (op : Connective) (acc : List QueryTree) : (ts : List Text.Bytes) →
    Option (QueryTree × {r : List Text.Bytes // r.length ≤ ts.length})
  | [] => some (join op acc, ⟨[], Nat.le_refl _⟩)
  | t :: rest =>
    if t = op.word then
      match readOperand op rest with
      | some (n, r) =>
        match readMore op (acc ++ [n]) r.1 with
        | some (m, r') =>
          some (m, ⟨r'.1, by have := r.2; have := r'.2; simp only [List.length_cons]; omega⟩)
        | none => none
      | none => none
    else some (join op acc, ⟨t :: rest, Nat.le_refl _⟩)
termination_by ts => (ts.length, 0)
decreasing_by
  · simp only [List.length_cons, Prod.lex_def]
    omega
  · have := r.2
    simp only [List.length_cons, Prod.lex_def]
    omega

end

/-- A factor read from the words, and the words left. -/
def factor (ts : List Text.Bytes) : Option (QueryTree × List Text.Bytes) :=
  (readFactor ts).map fun p => (p.1, p.2.1)

/-- An operand of a connective read from the words, and the words left. -/
def operand (op : Connective) (ts : List Text.Bytes) : Option (QueryTree × List Text.Bytes) :=
  (readOperand op ts).map fun p => (p.1, p.2.1)

/-- A chain of a connective read from the words, and the words left. -/
def chain (op : Connective) (ts : List Text.Bytes) : Option (QueryTree × List Text.Bytes) :=
  (readChain op ts).map fun p => (p.1, p.2.1)

/-- The rest of a chain after the operands `acc`, and the words left. -/
def more (op : Connective) (acc : List QueryTree) (ts : List Text.Bytes) :
    Option (QueryTree × List Text.Bytes) :=
  (readMore op acc ts).map fun p => (p.1, p.2.1)

/-- The tree of a query: its words read as one disjunction, with none left over. -/
def read (q : Text.Bytes) : Option QueryTree :=
  match chain .or (words q) with
  | some (t, []) => some t
  | _ => none

/-- An operand, then the rest of the chain it continues. -/
def step (op : Connective) (acc : List QueryTree) (ts : List Text.Bytes) :
    Option (QueryTree × List Text.Bytes) :=
  (operand op ts).bind fun p => more op (acc ++ [p.1]) p.2

/-! ### Equations of the reader -/

theorem factor_nil : factor [] = none := by
  rw [factor, readFactor]
  rfl

/-- `NOT` negates the factor after it. -/
theorem factor_not (rest : List Text.Bytes) :
    factor (Text.utf8 "NOT" :: rest) = (factor rest).map fun p => (.not p.1, p.2) := by
  unfold factor
  rw [readFactor, if_pos rfl]
  cases readFactor rest <;> rfl

/-- A disjunction in parentheses is a factor. -/
theorem factor_parens {rest r : List Text.Bytes} {n : QueryTree}
    (h : chain .or rest = some (n, Text.utf8 ")" :: r)) :
    factor (Text.utf8 "(" :: rest) = some (n, r) := by
  unfold factor
  unfold chain at h
  rw [readFactor, if_neg (by rw [utf8_not, utf8_open]; decide), if_pos rfl]
  rcases hc : readChain .or rest with _ | ⟨m, ⟨_ | ⟨close, r'⟩, hr⟩⟩
  · simp [hc] at h
  · simp [hc] at h
  · simp only [hc, Option.map_some, Option.some.injEq, Prod.mk.injEq, List.cons.injEq] at h
    obtain ⟨rfl, rfl, rfl⟩ := h
    simp

/-- A term is a factor of its own. -/
theorem factor_term {t : Text.Bytes} (h : IsTerm t) (rest : List Text.Bytes) :
    factor (t :: rest) = some (.term t, rest) := by
  obtain ⟨-, -, h1, h2, hnot, hand, hor⟩ := h
  have hopen : t ≠ Text.utf8 "(" := by rintro rfl; simp [utf8_open] at h1
  have hclose : t ≠ Text.utf8 ")" := by rintro rfl; simp [utf8_close] at h2
  unfold factor
  rw [readFactor, if_neg hnot, if_neg hopen, if_neg (by simp [hclose, hand, hor])]
  rfl

theorem operand_and (ts : List Text.Bytes) : operand .and ts = factor ts := by
  rw [operand, factor, readOperand]

theorem operand_or (ts : List Text.Bytes) : operand .or ts = chain .and ts := by
  rw [operand, chain, readOperand]

/-- A chain is its first operand and the rest of it. -/
theorem chain_eq_step (op : Connective) (ts : List Text.Bytes) : chain op ts = step op [] ts := by
  unfold chain step operand more
  rw [readChain]
  rcases readOperand op ts with _ | ⟨n, r⟩
  · rfl
  · simp only [Option.map_some, Option.bind_some, List.nil_append]
    cases readMore op [n] r.1 <;> rfl

/-- A chain ends where the words end. -/
theorem more_nil (op : Connective) (acc : List QueryTree) :
    more op acc [] = some (join op acc, []) := by
  rw [more, readMore]
  rfl

/-- The connective's word continues the chain with another operand. -/
theorem more_word (op : Connective) (acc : List QueryTree) (rest : List Text.Bytes) :
    more op acc (op.word :: rest) = step op acc rest := by
  unfold step operand more
  rw [readMore, if_pos rfl]
  rcases readOperand op rest with _ | ⟨n, r⟩
  · rfl
  · simp only [Option.map_some, Option.bind_some]
    cases readMore op (acc ++ [n]) r.1 <;> rfl

/-- Any other word ends the chain, and is left. -/
theorem more_other (op : Connective) (acc : List QueryTree) {t : Text.Bytes} (h : t ≠ op.word)
    (rest : List Text.Bytes) : more op acc (t :: rest) = some (join op acc, t :: rest) := by
  rw [more, readMore, if_neg h]
  rfl

/-- A chain ends before any word other than the connective's. -/
theorem more_end (op : Connective) (acc : List QueryTree) {rest : List Text.Bytes}
    (h : rest.head? ≠ some op.word) : more op acc rest = some (join op acc, rest) := by
  cases rest with
  | nil => exact more_nil op acc
  | cons t rest => exact more_other op acc (fun he => h (by rw [he]; rfl)) rest

/-- Words read, inside a chain of `op`, as operands that give `ops` to the chain, whatever
words that `Q` admits follow them. -/
def ChainsAs (op : Connective) (Q : List Text.Bytes → Prop) (ws : List Text.Bytes)
    (ops : List QueryTree) : Prop :=
  ∃ xs : List QueryTree, xs.flatMap (operands op) = ops ∧
    ∀ acc rest, Q rest → step op acc (ws ++ rest) = more op (acc ++ xs) rest

/-- Parts joined by the connective's word read as the operands of all the parts in turn. -/
theorem ChainsAs.intercalate {op : Connective} {Q : List Text.Bytes → Prop}
    (hQ : ∀ r, Q (op.word :: r)) :
    ∀ parts : List (List Text.Bytes × List QueryTree), parts ≠ [] →
      (∀ p ∈ parts, ChainsAs op Q p.1 p.2) →
      ChainsAs op Q ([op.word].intercalate (parts.map Prod.fst)) (parts.flatMap Prod.snd)
  | [], hne, _ => absurd rfl hne
  | [p], _, h => by simpa using h p List.mem_cons_self
  | p :: p' :: ps, _, h => by
    obtain ⟨xs, hxs, hfirst⟩ := h p List.mem_cons_self
    obtain ⟨ys, hys, hrest⟩ := ChainsAs.intercalate hQ (p' :: ps) (by simp)
      fun q hq => h q (List.mem_cons_of_mem _ hq)
    refine ⟨xs ++ ys, by rw [List.flatMap_append, hxs, hys]; simp, ?_⟩
    intro acc rest hr
    -- the first part reads up to the connective's word, which hands over to the others
    rw [List.map_cons, List.map_cons, List.intercalate_cons_cons, List.append_assoc,
      List.append_assoc, List.singleton_append, hfirst acc _ (hQ _), more_word, ← List.map_cons,
      hrest _ _ hr, List.append_assoc]

end SigmaQuery.Query
