import SigmaQuery.Expr.Token
import SigmaQuery.Rule.Error
import SigmaQuery.Text.Blank
import SigmaQuery.Text.Case
import SigmaQuery.Text.Utf8

/-!
# Reading conditions into tokens

A condition is cut into words at blanks and at the separators `(`, `)` and `|`. A word is a
keyword when it is `and`, `or`, `not` or `them` in any case, a wildcard identifier when it
holds `*` or `?`, and an identifier otherwise. Where a word may start, `1 of` and `all of` are
read as quantifiers: the words may be written in any case and separated by any run of blanks,
and a blank or the end must follow. A NUL character ends the condition and belongs to the
word it ends. A `|` starts an aggregation, which is not supported: reading stops there with
an unsupported token that quotes the whole condition.

`TokenKind.mayFollow` is the rule for which kinds may follow which, and `collect` checks a token
list against it, keeping every token but the final end.

Source: the lexer of `src/lexer.go:10–204`, and `parser.collect` of `src/parser.go:56–89`.
-/

namespace SigmaQuery.Expr

/-- The kind of a word: a keyword, a wildcard identifier or an identifier.
`checkKeyWord`, `src/lexer.go:185–204`. -/
def wordKind (word : String) : TokenKind :=
  match Text.lower word with
  | "and" => .keywordAnd
  | "or" => .keywordOr
  | "not" => .keywordNot
  | "them" => .them
  | _ => if word.any (fun c => c == '*' || c == '?') then .wildcard else .identifier

/-- The token of a word, if there is a word. -/
def wordToken (word : List Char) : List Token :=
  if word.isEmpty then []
  else let w := String.ofList word.reverse; [⟨wordKind w, w⟩]

/-- The number of bytes of the blank characters that bytes start with, `spaceLen` of
`src/lexer.go:138–145`: the offset of the first character that is not blank, or the length of
the bytes when there is none. -/
def spaceLen (b : Text.Bytes) : Nat :=
  (((Text.runes b).takeWhile fun r => Text.isBlank r.1).flatMap Prod.snd).length

/-- A byte with an ASCII capital letter lowered. -/
def lowerAscii (x : UInt8) : UInt8 :=
  if 0x41 ≤ x.toNat ∧ x.toNat ≤ 0x5A then x + 0x20 else x

/-- Whether bytes spell an ASCII word in any case: as many bytes as the word, each its byte up
to the case of an ASCII letter. This is `strings.EqualFold` against a word of ASCII letters and
digits that have no case partner beyond ASCII, as those of the quantifiers. -/
def spellsWord (word b : Text.Bytes) : Bool :=
  b.length == word.length &&
    (List.zipWith (fun x w => lowerAscii x == lowerAscii w) b word).all id

/-- The loop of `statementLen` in `src/lexer.go:117–136`, over the words of a quantifier from byte
offset `pos` of `input` on: before each word but the first (`first`) a run of blanks, one at
least, then the word in any case, and after the last word a blank or the end. Gives the offset
after the last word, 0 where something is missing, and `none` where a cut would fall out of
range. -/
def statementFrom (input : Text.Bytes) : List Text.Bytes → Nat → Bool → Option Nat
  | [], pos, _ =>
    if pos < input.length then
      (Text.slice? input pos input.length).map fun after => if spaceLen after == 0 then 0 else pos
    else some pos
  | word :: words, pos, first =>
    let gap? := if first then some 0 else spaceLen <$> Text.slice? input pos input.length
    gap?.bind fun gap =>
      if !first && gap == 0 then some 0
      else if input.length < pos + gap + word.length then some 0
      else
        (Text.slice? input (pos + gap) (pos + gap + word.length)).bind fun piece =>
          if spellsWord word piece then statementFrom input words (pos + gap + word.length) false
          else some 0

/-- The number of bytes the quantifier `t` takes at the start of `input`, or 0 when the input
does not start with it; `statementLen` of `src/lexer.go`. Its words are those of its literal,
`1 of` or `all of`. `none` where a cut would fall out of range.
`statementLen`, `src/lexer.go:117–136`. -/
def statementLen (input : Text.Bytes) (t : TokenKind) : Option Nat :=
  statementFrom input (Text.fields (Text.utf8 t.literal)) 0 true

/-- A quantifier where a word may start: `1 of` is tried before `all of`, on the bytes of the
text; its kind and the number of characters in the bytes it takes. A cut never falls out of
range (`statementLen_measures_quantifier`), so a failed one counts as no quantifier. -/
def statement? (cs : List Char) : Option (TokenKind × Nat) :=
  let todo := Text.utf8 (String.ofList cs)
  let one := (statementLen todo .quantOne).getD 0
  if one > 0 then some (.quantOne, (Text.bytePrefix one cs).length)
  else
    let all := (statementLen todo .quantAll).getD 0
    if all > 0 then some (.quantAll, (Text.bytePrefix all cs).length) else none

/-- The bytes a run of characters is cut at hold one of its characters at least. -/
theorem length_bytePrefix_pos {n : Nat} {cs : List Char} (hn : 0 < n) (hcs : cs ≠ []) :
    0 < (Text.bytePrefix n cs).length := by
  obtain ⟨c, rest, rfl⟩ := List.exists_cons_of_ne_nil hcs
  rw [Text.bytePrefix]
  split
  · simp
  · simpa using hn

/-- The words of a quantifier, read from an offset inside the input, give an offset inside it. -/
theorem statementFrom_le {input : Text.Bytes} :
    ∀ {words : List Text.Bytes} {pos n : Nat} {first : Bool}, pos ≤ input.length →
      statementFrom input words pos first = some n → n ≤ input.length
  | [], pos, n, first, hpos, h => by
    rw [statementFrom] at h
    split at h
    · obtain ⟨after, -, hn⟩ := Option.map_eq_some_iff.mp h
      split at hn <;> omega
    · rw [Option.some.injEq] at h
      omega
  | word :: words, pos, n, first, hpos, h => by
    rw [statementFrom] at h
    obtain ⟨gap, -, h⟩ := Option.bind_eq_some_iff.mp h
    -- each way out gives 0, or goes on from an offset the length check keeps inside the input
    split at h
    · rw [Option.some.injEq] at h
      omega
    split at h
    · rw [Option.some.injEq] at h
      omega
    obtain ⟨piece, -, h⟩ := Option.bind_eq_some_iff.mp h
    split at h
    · exact statementFrom_le (by omega) h
    · rw [Option.some.injEq] at h
      omega

/-- A quantifier found at the start of a text takes one of its characters at least. -/
theorem statement?_length {cs : List Char} {kind : TokenKind} {n : Nat}
    (h : statement? cs = some (kind, n)) : 0 < n ∧ cs ≠ [] := by
  -- a positive offset lies inside the bytes of the text, so the text is not empty
  have hne : ∀ t, 0 < (statementLen (Text.utf8 (String.ofList cs)) t).getD 0 → cs ≠ [] := by
    rintro t hpos rfl
    have hempty : Text.utf8 (String.ofList []) = [] := by decide +kernel
    rw [hempty] at hpos
    cases hs : statementLen [] t with
    | none =>
      rw [hs] at hpos
      exact absurd hpos (by decide)
    | some m =>
      have hle := statementFrom_le (Nat.zero_le _) hs
      rw [hs, Option.getD_some] at hpos
      simp at hle
      omega
  simp only [statement?] at h
  split at h
  · next hone =>
    simp only [Option.some.injEq, Prod.mk.injEq] at h
    obtain ⟨-, rfl⟩ := h
    exact ⟨length_bytePrefix_pos hone (hne _ hone), hne _ hone⟩
  · split at h
    · next hall =>
      simp only [Option.some.injEq, Prod.mk.injEq] at h
      obtain ⟨-, rfl⟩ := h
      exact ⟨length_bytePrefix_pos hall (hne _ hall), hne _ hall⟩
    · cases h

/-- What the reader expects next: more of a word, blanks, or a separator. -/
inductive LexMode where
  | word
  | blank
  | separator
  deriving DecidableEq

/-- The order in which modes hand over on the same text: blanks hand over to a word, and a word
to a separator. -/
def LexMode.rank : LexMode → Nat
  | .separator => 0
  | .word => 1
  | .blank => 2

/-- The end of a condition, after the word that is open. -/
def finish (word : List Char) : List Token :=
  wordToken word ++ [⟨.eof, ""⟩]

/-- Reads the tokens of a condition; `word` holds the open word, last character first. A blank
that ends a word is read by the blank mode at once.
The states `lexCondition`, `lexWhitespace` and `lexSeparator`, `src/lexer.go:88–183`. -/
def lexFrom (input : String) (mode : LexMode) (word : List Char) (rest : List Char) :
    List Token :=
  match mode with
  | .word =>
    if hs : word.isEmpty ∧ (statement? rest).isSome then
      let found := (statement? rest).get hs.2
      ⟨found.1, String.ofList (rest.take found.2)⟩ :: lexFrom input .word [] (rest.drop found.2)
    else
      match _hr : rest with
      | [] => finish word
      | c :: t =>
        if c == '\x00' then finish (c :: word)
        else if c == '(' || c == ')' || c == '|' then
          wordToken word ++ lexFrom input .separator [] rest
        else if Text.isBlank c then wordToken word ++ lexFrom input .blank [] t
        else lexFrom input .word (c :: word) t
  | .blank =>
    match _hr : rest with
    | [] => finish []
    | c :: t =>
      if c == '\x00' then finish [c]
      else if Text.isBlank c then lexFrom input .blank [] t
      else lexFrom input .word [] rest
  | .separator =>
    match _hr : rest with
    | '(' :: t => ⟨.leftParen, "("⟩ :: lexFrom input .word [] t
    | ')' :: t => ⟨.rightParen, ")"⟩ :: lexFrom input .word [] t
    | _ =>
      [⟨.pipe, "|"⟩, ⟨.unsupported, "aggregation not supported yet [" ++ input ++ "]"⟩]
termination_by (rest.length, mode.rank)
decreasing_by
  all_goals simp only [LexMode.rank, Prod.lex_def, List.length_cons, List.length_drop]
  · -- a quantifier takes one character at least
    obtain ⟨found, hfound⟩ := Option.isSome_iff_exists.1 hs.2
    have hget : (statement? rest).get hs.2 = found := by simp [hfound]
    have ⟨hn, hne⟩ := statement?_length hfound
    have := List.length_pos_iff.mpr hne
    rw [hget]
    omega
  -- every other step reads a character, or hands the same text to a mode ranked lower
  all_goals simp [_hr]

/-- The tokens of a condition: they end with the end token, or with an unsupported token
after a pipe.
`lex`, `src/lexer.go:19–26`, run to its end. -/
def lex (input : String) : List Token :=
  lexFrom input .word [] input.toList

namespace TokenKind

/-- Whether a kind is an operand: an identifier, `them` or a closing parenthesis. -/
def isOperand : TokenKind → Bool
  | .identifier | .wildcard | .them | .rightParen => true
  | _ => false

/-- Whether a kind is an operator position: the beginning, an opening parenthesis or a
keyword. -/
def isOperator : TokenKind → Bool
  | .begin | .leftParen | .keywordAnd | .keywordOr | .keywordNot => true
  | _ => false

/-- Whether a token of kind `next` may follow a token of kind `prev`.
`validTokenSequence` over `predecessors`, `src/token.go:105–135`. -/
def mayFollow (prev next : TokenKind) : Bool :=
  match next with
  | .quantOne | .quantAll | .keywordNot | .leftParen => prev.isOperator
  | .them => prev == .quantOne || prev == .quantAll
  | .identifier | .wildcard => prev.isOperator || prev == .quantOne || prev == .quantAll
  | .keywordAnd | .keywordOr | .rightParen | .pipe | .eof => prev.isOperand
  | _ => false

end TokenKind

/-- Checks that each token may follow the one before it, starting from the beginning, and
keeps all tokens but the end. An unsupported token refuses the condition. -/
def collectFrom : Token → List Token → List Token → Except RuleError (List Token)
  | prev, kept, [] =>
    if prev.kind == .eof then .ok kept.reverse
    else .error (.plain ("last element should be EOF, got token " ++ prev.kind.name ++
      " with value " ++ prev.text))
  | prev, kept, t :: rest =>
    if t.kind == .unsupported then .error (.unsupportedToken t.text)
    else if t.kind == .error then .error (.plain ("condition lexer error: " ++ t.text))
    else if !TokenKind.mayFollow prev.kind t.kind then
      .error (.invalidSequence kept.length prev t)
    else collectFrom t (if t.kind == .eof then kept else t :: kept) rest

/-- The tokens of a condition after the sequence check, without the final end.
`parser.collect`, `src/parser.go:56–89`. -/
def collect (input : String) : Except RuleError (List Token) :=
  collectFrom ⟨.begin, ""⟩ [] (lex input)

end SigmaQuery.Expr
