import Mathlib
import SigmaQuery.Proofs.Outcome
import SigmaQuery.Proofs.Rule.Grammar

/-!
# Building sentences of the grammar

Building the tokens of a sentence of the condition grammar gives the sentence's reference tree,
whenever that tree exists. The builder reads one token at a time with a state of its own (the
open conjunction, the closed branches, a pending negation and a pending quantifier); each token
kind has its step lemma here, and the grammar's levels are then read through whole: an atom or
a parenthesised sentence adds its tree to the open conjunction, a factor adds its tree negated
as its `not`s say, a conjunction adds all its factors, and a sentence closes into the
disjunction of its conjunctions.
-/

namespace SigmaQuery.Grammar

open SigmaQuery.Expr Build

/-! ### Entries -/

/-- An identifier names the first entry with its name. -/
theorem entry?_eq_lookup (detection : List (Text.Bytes × Value)) (name : String) :
    entry? detection name = detection.lookup (Text.utf8 name) := by
  induction detection with
  | nil => rfl
  | cons kv rest ih =>
    obtain ⟨k, v⟩ := kv
    by_cases h : k = Text.utf8 name
    · subst h
      simp [ entry?, List.lookup]
    · have hk : (k == Text.utf8 name) = false := by simpa using h
      have hk' : (Text.utf8 name == k) = false := by simpa using Ne.symm h
      simp only [ entry?] at ih ⊢
      rw [List.find?_cons, hk]
      simp only [List.lookup, hk']
      exact ih

/-- The entries of a quantifier are built one after another, in written order. -/
theorem quantified_eq_mapM (ph : Option Placeholders) (pat : Option Wildcard.Matcher)
    (detection : List (Text.Bytes × Value)) :
    quantified ph pat detection =
      (selectedEntries detection fun k => match pat with
        | none => k.head? != some 0x5F
        | some m => m.selects k).mapM
        fun kv => Condition.ofEntry ph (Text.lossy kv.1) kv.2 := by
  -- with the pattern fixed, the test of each entry reads the same on both sides
  cases pat <;> induction detection with
  | nil => rfl
  | cons kv rest ih =>
    obtain ⟨k, v⟩ := kv
    rw [quantified.eq_def]
    simp only [selectedEntries, List.filter_cons] at ih ⊢
    split
    · rw [List.mapM_cons, ih]
    · exact ih

/-! ### One token at a time -/

section Steps

variable {detection : List (Text.Bytes × Value)} {ph : Option Placeholders} {depth : Nat}
  {b : Branch} {rest : List Token}

/-- `and` changes nothing: operands gather into the open conjunction anyway. -/
theorem steps_and (w : String) :
    steps detection ph depth b (⟨.keywordAnd, w⟩ :: rest) = steps detection ph depth b rest := by
  rw [steps]

/-- `or` closes the open conjunction as a branch. -/
theorem steps_or (w : String) (h : b.conj ≠ []) :
    steps detection ph depth b (⟨.keywordOr, w⟩ :: rest) =
      steps detection ph depth
        { b with disj := Condition.allOf b.conj.reverse :: b.disj, conj := [] } rest := by
  rw [steps]
  simp [h]

/-- `not` flips the pending negation. -/
theorem steps_not (w : String) :
    steps detection ph depth b (⟨.keywordNot, w⟩ :: rest) =
      steps detection ph depth { b with negated := !b.negated } rest := by
  rw [steps]

/-- A quantifier waits for its target. -/
theorem steps_quantifier (q : Quantifier) (w : String) :
    steps detection ph depth b (⟨quantifierKind q, w⟩ :: rest) =
      steps detection ph depth { b with quantifier := some q } rest := by
  cases q <;> rw [steps] <;> rfl

/-- An identifier adds the tree of its entry. -/
theorem steps_identifier {name : String} {c : Condition} (h : entryTree detection ph name = some c) :
    steps detection ph depth b (⟨.identifier, name⟩ :: rest) =
      steps detection ph depth { b.push c with quantifier := none } rest := by
  rw [entryTree] at h
  split at h
  · next v hv =>
    split at h
    · cases h
    · next hr =>
      rw [steps]
      simp [entry?_eq_lookup, hv, hr, eq_ok_of_toOption h, bind, Except.bind]
  · cases h

/-- `them` after a quantifier adds the quantifier's tree of the entries it selects. -/
theorem steps_them {q : Quantifier} (hq : b.quantifier = some q) {cs : List Condition}
    (h : quantified ph none detection = .ok cs) (hne : cs ≠ []) (text : String) :
    steps detection ph depth b (⟨.them, text⟩ :: rest) =
      steps detection ph depth { b.push (combine q cs) with quantifier := none } rest := by
  rw [steps]
  cases q <;> simp [h, hq, hne, combine, bind, Except.bind, pure, Except.pure]

/-- A pattern after a quantifier adds the quantifier's tree of the entries it matches. -/
theorem steps_pattern {q : Quantifier} (hq : b.quantifier = some q) {text : String}
    {m : Wildcard.Matcher} (hm : Wildcard.compile text = .ok m) {cs : List Condition}
    (h : quantified ph (some m) detection = .ok cs) (hne : cs ≠ []) :
    steps detection ph depth b (⟨.wildcard, text⟩ :: rest) =
      steps detection ph depth { b.push (combine q cs) with quantifier := none } rest := by
  rw [steps]
  cases q <;> simp [hm, h, hq, hne, combine, bind, Except.bind, pure, Except.pure]

/-- A parenthesised sentence is built on its own, one level deeper, and its tree is added. -/
theorem steps_group (e : Disjunction) {c : Condition}
    (h : steps detection ph (depth + 1) {} e.tokens = .ok c) :
    steps detection ph depth b (⟨.leftParen, "("⟩ :: (e.tokens ++ ⟨.rightParen, ")"⟩ :: rest)) =
      steps detection ph depth (b.push c) rest := by
  rw [steps]
  simp [group_sentence, h, bind, Except.bind]

/-- A finished branch with an open conjunction is the disjunction of its branches. -/
theorem close_of_ne_nil (h : b.conj ≠ []) :
    b.close depth = .ok (Condition.anyOf (Condition.allOf b.conj.reverse :: b.disj).reverse) := by
  simp [Branch.close, h]

/-- A quantifier's target, `them` or a pattern, read successfully: the pattern compiled, the
entries it selects built, there was one at least, and a quantifier was pending. -/
theorem steps_target_ok {t : Token} (hk : t.kind = .them ∨ t.kind = .wildcard) {c : Condition}
    (h : steps detection ph depth b (t :: rest) = .ok c) :
    ∃ pat conds q, quantified ph pat detection = .ok conds ∧ conds ≠ [] ∧
      b.quantifier = some q ∧
      steps detection ph depth { b.push (combine q conds) with quantifier := none } rest = .ok c := by
  rw [steps] at h
  -- the two targets differ only in the pattern the entries are matched against
  rcases hk with hk | hk
  case' inl =>
    simp only [hk, show (TokenKind.them == TokenKind.wildcard) = false from rfl,
      Bool.false_eq_true, if_false, pure_bind] at h
    refine ⟨none, ?_⟩
  case' inr =>
    simp only [hk, show (TokenKind.wildcard == TokenKind.wildcard) = true from rfl, if_true,
      pure_bind] at h
    split at h
    case' h_2 => simp [throw, throwThe, MonadExceptOf.throw, bind, Except.bind] at h
    case' h_1 m _ => refine ⟨some m, ?_⟩
  all_goals
    rw [bind_eq_ok] at h
    obtain ⟨conds, hq, h⟩ := h
    split at h
    · simp [throw, throwThe, MonadExceptOf.throw, bind, Except.bind] at h
    · next hne =>
      cases hb : b.quantifier with
      | none => simp [hb, throw, throwThe, MonadExceptOf.throw, bind, Except.bind] at h
      | some q =>
        refine ⟨conds, q, hq, by simpa using hne, rfl, ?_⟩
        cases q <;> simpa [hb, combine, pure, Except.pure, bind, Except.bind] using h

/-- What reading one token can do when the build succeeds: add an entry's tree, pass over
`and`, close a branch at `or`, flip the negation at `not`, add a group's tree, add a
quantifier's tree, or make a quantifier pending. -/
theorem steps_cons_ok {t : Token} {c : Condition}
    (h : steps detection ph depth b (t :: rest) = .ok c) :
    (∃ v c', entry? detection t.text = some v ∧ isReserved (Text.utf8 t.text) = false ∧
      Condition.ofEntry ph t.text v = .ok c' ∧
      steps detection ph depth { b.push c' with quantifier := none } rest = .ok c) ∨
    steps detection ph depth b rest = .ok c ∨
    (b.conj ≠ [] ∧ steps detection ph depth
      { b with disj := Condition.allOf b.conj.reverse :: b.disj, conj := [] } rest = .ok c) ∨
    steps detection ph depth { b with negated := !b.negated } rest = .ok c ∨
    (∃ c', steps detection ph (depth + 1) {} (group 0 [] rest).1 = .ok c' ∧
      steps detection ph depth (b.push c') (group 0 [] rest).2 = .ok c) ∨
    (∃ pat conds q, quantified ph pat detection = .ok conds ∧ conds ≠ [] ∧
      b.quantifier = some q ∧
      steps detection ph depth { b.push (combine q conds) with quantifier := none } rest = .ok c) ∨
    (∃ q, steps detection ph depth { b with quantifier := some q } rest = .ok c) := by
  by_cases hk : t.kind = .them ∨ t.kind = .wildcard
  · exact .inr (.inr (.inr (.inr (.inr (.inl (steps_target_ok hk h))))))
  rw [steps] at h
  split at h
  · -- an identifier
    split at h
    · next v hv =>
      split at h
      · cases h
      · next hr =>
        rw [bind_eq_ok] at h
        obtain ⟨c', hc', h⟩ := h
        exact .inl ⟨v, c', hv, by simpa using hr, hc', h⟩
    · cases h
  · exact .inr (.inl h)
  · split at h
    · cases h
    · next hne => exact .inr (.inr (.inl ⟨by simpa using hne, h⟩))
  · exact .inr (.inr (.inr (.inl h)))
  · -- a group
    rw [bind_eq_ok] at h
    obtain ⟨c', hc', h⟩ := h
    exact .inr (.inr (.inr (.inr (.inl ⟨c', hc', h⟩))))
  · exact absurd (.inl ‹_›) hk
  · exact absurd (.inr ‹_›) hk
  · exact .inr (.inr (.inr (.inr (.inr (.inr ⟨.all, h⟩)))))
  · exact .inr (.inr (.inr (.inr (.inr (.inr ⟨.one, h⟩)))))
  · cases h
  · cases h

end Steps

/-! ### The builder's state around an operand -/

/-- Adding an operand clears the pending quantifier, which was clear before it. -/
theorem push_clear {b : Branch} (hb : b.quantifier = none) (c : Condition) :
    { b.push c with quantifier := none } = b.push c := by
  cases b
  cases hb
  rfl

/-- Adding an operand after its quantifier clears the quantifier again. -/
theorem push_clear_quantifier {b : Branch} (hb : b.quantifier = none) (q : Quantifier)
    (c : Condition) : { ({ b with quantifier := some q } : Branch).push c with quantifier := none } =
      b.push c := by
  cases b
  cases hb
  rfl

/-- Adding an operand under a pending negation. -/
theorem push_negated {b : Branch} (hn : b.negated = false) (x : Bool) (c : Condition) :
    ({ b with negated := x } : Branch).push c =
      { b with conj := (if x then .not c else c) :: b.conj } := by
  cases b
  cases hn
  rfl

/-! ### Atoms and `not`s -/

section Levels

variable {detection : List (Text.Bytes × Value)} {ph : Option Placeholders}

/-- A quantifier's tree exists when the entries it selects all build and there is one at least. -/
theorem quantifiedTree_eq_some {q : Quantifier} {sel : Text.Bytes → Bool} {c : Condition}
    (h : quantifiedTree detection ph q sel = some c) :
    ∃ cs, ((selectedEntries detection sel).mapM
        fun kv => Condition.ofEntry ph (Text.lossy kv.1) kv.2) = .ok cs ∧
      cs ≠ [] ∧ c = combine q cs := by
  unfold quantifiedTree at h
  cases hm : ((selectedEntries detection sel).mapM
      fun kv => Condition.ofEntry ph (Text.lossy kv.1) kv.2).toOption with
  | none => simp [hm] at h
  | some cs =>
    cases cs with
    | nil => simp [hm] at h
    | cons c' cs' =>
      simp only [hm, Option.some.injEq] at h
      exact ⟨c' :: cs', eq_ok_of_toOption hm, List.cons_ne_nil _ _, h.symm⟩

/-- An atom adds its reference tree to the open conjunction. -/
theorem Atom.steps_tokens (a : Atom) {c : Condition} (h : a.reference detection ph = some c)
    (depth : Nat) {b : Branch} (hb : b.quantifier = none) (rest : List Token) :
    steps detection ph depth b (a.tokens ++ rest) = steps detection ph depth (b.push c) rest := by
  cases a with
  | ident name =>
    rw [Atom.tokens, List.singleton_append, steps_identifier h, push_clear hb]
  | quantified q w target =>
    rw [Atom.tokens, List.cons_append, List.singleton_append, steps_quantifier]
    have hq : ({ b with quantifier := some q } : Branch).quantifier = some q := rfl
    cases target with
    | ident name => rw [Target.token, steps_identifier h, push_clear_quantifier hb]
    | them text =>
      obtain ⟨cs, hcs, hne, rfl⟩ := quantifiedTree_eq_some h
      rw [Target.token, steps_them hq (by rw [quantified_eq_mapM]; exact hcs) hne, push_clear_quantifier hb]
    | pattern text =>
      rw [Atom.reference_pattern] at h
      split at h
      · next m hm =>
        obtain ⟨cs, hcs, hne, rfl⟩ := quantifiedTree_eq_some h
        rw [Target.token, steps_pattern hq hm (by rw [quantified_eq_mapM]; exact hcs) hne,
          push_clear_quantifier hb]
      · cases h

/-- `not`s flip the pending negation once each. -/
theorem steps_nots (nots : List String) (depth : Nat) (b : Branch) (rest : List Token) :
    steps detection ph depth b ((nots.map fun w => (⟨.keywordNot, w⟩ : Token)) ++ rest) =
      steps detection ph depth
        { b with negated := b.negated ^^ decide (nots.length % 2 = 1) } rest := by
  induction nots generalizing b with
  | nil => simp
  | cons w nots ih =>
    -- one more `not` flips the parity of the count
    have hpar : (!b.negated ^^ decide (nots.length % 2 = 1)) =
        (b.negated ^^ decide ((nots.length + 1) % 2 = 1)) := by
      by_cases hodd : nots.length % 2 = 1
      · have heven : ¬(nots.length + 1) % 2 = 1 := by omega
        simp [hodd, heven]
      · have hodd' : (nots.length + 1) % 2 = 1 := by omega
        simp [hodd, hodd']
    rw [List.map_cons, List.cons_append, steps_not, ih]
    simp only [hpar, List.length_cons]

/-- A conjunction has a factor at least. -/
theorem Conjunction.operands_ne_nil {t : Conjunction} {cs : List Condition}
    (h : t.operands detection ph = some cs) : cs ≠ [] := by
  cases t with
  | last f =>
    obtain ⟨c, -, rfl⟩ := Option.map_eq_some_iff.mp h
    exact List.cons_ne_nil _ _
  | and f w t =>
    obtain ⟨c, -, h⟩ := Option.bind_eq_some_iff.mp h
    obtain ⟨cs', -, rfl⟩ := Option.map_eq_some_iff.mp h
    exact List.cons_ne_nil _ _

/-! ### The grammar's levels -/

mutual

/-- An operand adds its reference tree to the open conjunction. -/
theorem Operand.steps_tokens : ∀ (o : Operand) {c : Condition},
    o.reference detection ph = some c → ∀ (depth : Nat) (b : Branch), b.quantifier = none →
      ∀ rest : List Token,
        steps detection ph depth b (o.tokens ++ rest) = steps detection ph depth (b.push c) rest
  | .atom a, _, h, depth, _, hb, rest => a.steps_tokens h depth hb rest
  | .group e, _, h, depth, _, _, rest => by
    obtain ⟨bs, hbs, rfl⟩ := Option.map_eq_some_iff.mp h
    -- the group is a sentence of its own, built from an empty state one level deeper
    have hinner := e.steps_tokens hbs (depth + 1) {} rfl rfl rfl
    simp only [Operand.tokens, List.cons_append, List.append_assoc, List.nil_append]
    rw [steps_group e hinner]
    rfl

/-- A factor adds its reference tree to the open conjunction. -/
theorem Factor.steps_tokens : ∀ (f : Factor) {c : Condition},
    f.reference detection ph = some c → ∀ (depth : Nat) (b : Branch), b.quantifier = none →
      b.negated = false → ∀ rest : List Token,
        steps detection ph depth b (f.tokens ++ rest) =
          steps detection ph depth { b with conj := c :: b.conj } rest
  | .mk nots o, _, h, depth, b, hb, hn, rest => by
    obtain ⟨c', hc', rfl⟩ := Option.map_eq_some_iff.mp h
    rw [Factor.tokens, List.append_assoc, steps_nots,
      o.steps_tokens hc' depth { b with negated := b.negated ^^ decide (nots.length % 2 = 1) } hb,
      push_negated hn]
    simp [hn]

/-- A conjunction adds the trees of its factors to the open conjunction. -/
theorem Conjunction.steps_tokens : ∀ (t : Conjunction) {cs : List Condition},
    t.operands detection ph = some cs → ∀ (depth : Nat) (b : Branch), b.quantifier = none →
      b.negated = false → ∀ rest : List Token,
        steps detection ph depth b (t.tokens ++ rest) =
          steps detection ph depth { b with conj := cs.reverse ++ b.conj } rest
  | .last f, _, h, depth, _, hb, hn, rest => by
    obtain ⟨c, hc, rfl⟩ := Option.map_eq_some_iff.mp h
    exact f.steps_tokens hc depth _ hb hn rest
  | .and f w t, _, h, depth, b, hb, hn, rest => by
    obtain ⟨c, hc, h⟩ := Option.bind_eq_some_iff.mp h
    obtain ⟨cs, hcs, rfl⟩ := Option.map_eq_some_iff.mp h
    rw [Conjunction.tokens, List.append_assoc, f.steps_tokens hc depth b hb hn, List.cons_append,
      steps_and, t.steps_tokens hcs depth { b with conj := c :: b.conj } hb hn]
    simp

/-- A sentence read from a state with no open conjunction closes into the disjunction of the
branches closed before it and its own. -/
theorem Disjunction.steps_tokens : ∀ (e : Disjunction) {bs : List Condition},
    e.branches detection ph = some bs → ∀ (depth : Nat) (b : Branch), b.conj = [] →
      b.quantifier = none → b.negated = false →
        steps detection ph depth b e.tokens = .ok (Condition.anyOf (b.disj.reverse ++ bs))
  | .last t, _, h, depth, b, hc, hb, hn => by
    obtain ⟨cs, hcs, rfl⟩ := Option.map_eq_some_iff.mp h
    have hne : cs.reverse ++ b.conj ≠ [] := by simpa [hc] using Conjunction.operands_ne_nil hcs
    rw [← List.append_nil (Disjunction.tokens _), Disjunction.tokens,
      t.steps_tokens hcs depth b hb hn, steps, close_of_ne_nil hne]
    simp [hc]
  | .or t w e, _, h, depth, b, hc, hb, hn => by
    obtain ⟨cs, hcs, h⟩ := Option.bind_eq_some_iff.mp h
    obtain ⟨bs, hbs, rfl⟩ := Option.map_eq_some_iff.mp h
    have hne : cs.reverse ++ b.conj ≠ [] := by simpa [hc] using Conjunction.operands_ne_nil hcs
    -- `or` closes the conjunction just read as a branch, and the rest starts afresh
    have hafter : ({ ({ b with conj := cs.reverse ++ b.conj } : Branch) with
        disj := Condition.allOf (cs.reverse ++ b.conj).reverse :: b.disj, conj := [] } : Branch) =
        { disj := Condition.allOf cs :: b.disj } := by
      cases b
      simp_all
    rw [Disjunction.tokens, t.steps_tokens hcs depth b hb hn, steps_or w hne, hafter,
      e.steps_tokens hbs depth _ rfl rfl rfl]
    simp

end

end Levels

/-- Building the tokens of a sentence gives the sentence's reference tree, whenever the
entries of the detection section give it one. -/
theorem build_eq_reference {detection : List (Text.Bytes × Value)} {ph : Option Placeholders}
    {s : String} {e : Disjunction} {c : Condition}
    (hlex : lex s = e.tokens ++ [⟨.eof, ""⟩]) (href : e.reference detection ph = some c) :
    Condition.build detection ph s = .ok c := by
  obtain ⟨bs, hbs, rfl⟩ := Option.map_eq_some_iff.mp href
  rw [Condition.build, collect_of_lex hlex]
  exact e.steps_tokens hbs 0 {} rfl rfl rfl

/-- `sel1 or not (all of them)` over three entries builds the disjunction of the first entry and
the negated conjunction of all three. -/
theorem build_eq_reference_negated_group :
    Condition.build [(Text.utf8 "sel1", .text "a"), (Text.utf8 "f1", .text "b"),
        (Text.utf8 "f2", .text "c")] none "sel1 or not (all of them)" =
      .ok (.or [.select ⟨[], .equals, ["a"]⟩, .not (.and [.select ⟨[], .equals, ["a"]⟩,
        .select ⟨[], .equals, ["b"]⟩, .select ⟨[], .equals, ["c"]⟩])]) :=
  build_eq_reference
    (e := .or (.last (.mk [] (.atom (.ident "sel1")))) "or"
      (.last (.last (.mk ["not"] (.group (.last (.last
        (.mk [] (.atom (.quantified .all "all of" (.them "them")))))))))))
    (by cbv) (by cbv)

end SigmaQuery.Grammar
