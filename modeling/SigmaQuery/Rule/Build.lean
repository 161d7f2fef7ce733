import SigmaQuery.Expr.Lex
import SigmaQuery.Expr.Wildcard.Compile
import SigmaQuery.Rule.Selection
import SigmaQuery.Text.Quoted

/-!
# Building condition trees

The tokens of a condition become a tree over the entries of the detection section. Reading
left to right, operands gather into a conjunction; `or` closes the conjunction as one branch
of a disjunction; `not` negates the next operand (twice cancels). A parenthesised group is
built on its own, up to its matching `)` or to the end when it is not closed. An identifier
stands for its entry; `1 of` or `all of` followed by `them` or a wildcard pattern stands for
the disjunction or the conjunction of every entry it names, in written order (`them` leaves
out entries whose names start with `_`). The keys `condition` and `timeframe` are not
entries. Entry names are bytes; an identifier names the entry whose name is its UTF-8 text.

Source: `newBranch`, `extractGroup` and `extractQuantified` of `src/tree.go:82–224`, and
`Detection.Get` and `isReservedKey` of `src/rule.go:121–144`.
-/

namespace SigmaQuery

open SigmaQuery.Expr

namespace Build

/-- Whether a detection key is reserved rather than an entry.
`isReservedKey`, `src/rule.go:142–144`. -/
def isReserved (key : Text.Bytes) : Bool :=
  key == Text.utf8 "condition" || key == Text.utf8 "timeframe"

/-- The value of the first detection key equal to a name.
`Detection.Get`, `src/rule.go:121–128`. -/
def entry? (detection : List (Text.Bytes × Value)) (name : String) : Option Value :=
  (detection.find? (·.1 == Text.utf8 name)).map (·.2)

/-- The tokens of a group after its `(`, up to its matching `)`, and the tokens after that;
an unclosed group takes every token.
`extractGroup`, `src/tree.go:182–203`. -/
def group : Nat → List Token → List Token → List Token × List Token
  | _, acc, [] => (acc.reverse, [])
  | depth, acc, t :: rest =>
    match t.kind with
    | .leftParen => group (depth + 1) (t :: acc) rest
    | .rightParen =>
      match depth with
      | 0 => (acc.reverse, rest)
      | d + 1 => group d (t :: acc) rest
    | _ => group depth (t :: acc) rest

/-- A group and the tokens after it hold no more tokens than were given. -/
theorem group_length (depth : Nat) (acc tokens : List Token) :
    (group depth acc tokens).1.length + (group depth acc tokens).2.length ≤
      acc.length + tokens.length := by
  induction tokens generalizing depth acc with
  | nil => simp [group]
  | cons t rest ih =>
    simp only [group]
    split
    · have := ih (depth + 1) (t :: acc)
      simp only [List.length_cons] at this ⊢
      omega
    · split
      · simp only [List.length_reverse, List.length_cons]
        omega
      · refine Nat.le_trans (ih _ (t :: acc)) ?_
        simp only [List.length_cons]
        omega
    · have := ih depth (t :: acc)
      simp only [List.length_cons] at this ⊢
      omega

/-- The conditions of the entries a quantifier names, in written order: all entries not
starting with `_` for `them`, or those matching a pattern.
`extractQuantified`, `src/tree.go:207–224`. -/
def quantified (ph : Option Placeholders) (pat : Option Wildcard.Matcher) :
    List (Text.Bytes × Value) → Except RuleError (List Condition)
  | [] => .ok []
  | (k, v) :: rest =>
    let named := !isReserved k && match pat with
      | none => k.head? != some 0x5F
      | some m => m.selects k
    if named then do
      let c ← Condition.ofEntry ph (Text.lossy k) v
      let cs ← quantified ph pat rest
      pure (c :: cs)
    else quantified ph pat rest

/-- A quantifier read before the operand it applies to. -/
inductive Quantifier where
  | one
  | all
  deriving DecidableEq

/-- What a branch has gathered: the operands of the open conjunction and the closed branches
of the disjunction (both last first), whether the next operand is negated, and the open
quantifier. -/
structure Branch where
  conj : List Condition := []
  disj : List Condition := []
  negated : Bool := false
  quantifier : Option Quantifier := none

namespace Branch

/-- Adds an operand to the open conjunction, negated if a `not` is pending. -/
def push (b : Branch) (c : Condition) : Branch :=
  { b with conj := (if b.negated then .not c else c) :: b.conj, negated := false }

/-- The tree of a finished branch. -/
def close (depth : Nat) (b : Branch) : Except RuleError Condition :=
  if b.conj.isEmpty then .error (.malformed "" ("empty expression at depth " ++ toString depth))
  else .ok (Condition.anyOf (Condition.allOf b.conj.reverse :: b.disj).reverse)

end Branch

/-- Builds the tree of a token list, one token at a time.
The token loop of `newBranch`, `src/tree.go:82–171`. -/
def steps (detection : List (Text.Bytes × Value)) (ph : Option Placeholders) :
    Nat → Branch → List Token → Except RuleError Condition
  | depth, b, [] => b.close depth
  | depth, b, t :: rest =>
    match t.kind with
    | .identifier =>
      match entry? detection t.text with
      | some v =>
        if isReserved (Text.utf8 t.text) then .error (.missingIdentifier t.text)
        else do
          let c ← Condition.ofEntry ph t.text v
          steps detection ph depth { b.push c with quantifier := none } rest
      | none => .error (.missingIdentifier t.text)
    | .keywordAnd => steps detection ph depth b rest
    | .keywordOr =>
      if b.conj.isEmpty then .error (.malformed "" "empty operand before or")
      else
        steps detection ph depth
          { b with disj := Condition.allOf b.conj.reverse :: b.disj, conj := [] } rest
    | .keywordNot => steps detection ph depth { b with negated := !b.negated } rest
    | .leftParen =>
      match _hg : group 0 [] rest with
      | (inner, after) => do
        let c ← steps detection ph (depth + 1) {} inner
        steps detection ph depth (b.push c) after
    | .them | .wildcard => do
      let pat ← if t.kind == .wildcard then
          match Wildcard.compile t.text with
          | .ok m => pure (some m)
          | .error e => throw (.plain ("invalid wildcard identifier " ++ t.text ++ ": " ++ e))
        else pure none
      let conds ← quantified ph pat detection
      if conds.isEmpty then throw (.missingIdentifier t.text)
      let c ← match b.quantifier with
        | some .all => pure (Condition.allOf conds)
        | some .one => pure (Condition.anyOf conds)
        | none =>
          throw (.plain ("invalid wildcard ident " ++ t.text ++ ", missing 1 of/ all of prefix"))
      steps detection ph depth { b.push c with quantifier := none } rest
    | .quantAll => steps detection ph depth { b with quantifier := some .all } rest
    | .quantOne => steps detection ph depth { b with quantifier := some .one } rest
    | .rightParen => .error (.plain "parser error, should not see RPAR")
    | k => .error (.unsupportedToken ("unexpected " ++ k.name ++ " " ++ Text.quote t.text))
termination_by _ _ tokens => tokens.length
decreasing_by
  all_goals simp only [List.length_cons]
  all_goals try omega
  all_goals
    have := group_length 0 [] rest
    simp only [_hg, List.length_nil] at this
    omega

end Build

namespace Condition

/-- Builds the tree of a condition over the entries of a detection section.
`newParser` and `parser.run`, `src/parser.go:27–53`. -/
def build (detection : List (Text.Bytes × Value)) (ph : Option Placeholders) (condition : String) :
    Except RuleError Condition := do
  let tokens ← Expr.collect condition
  Build.steps detection ph 0 {} tokens

end Condition

end SigmaQuery
