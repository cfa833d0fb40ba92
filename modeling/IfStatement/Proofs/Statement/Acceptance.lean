import IfStatement.Proofs.Statement.Grammar

/-! The check accepts exactly the token lists whose significant tokens hold a whole statement. -/

namespace IfStatement

/-- A statement with all that surrounds it, cut into the parts that the grammar names. -/
structure StatementParts where
  /-- The tokens before the statement. -/
  before : List Token
  /-- The word `if`. -/
  keyword : Token
  /-- The parenthesis before the condition, if there is one. -/
  opening : List Token
  /-- The left side of the comparison. -/
  firstOperand : Token
  /-- The comparison itself. -/
  comparison : Token
  /-- The right side of the comparison. -/
  secondOperand : Token
  /-- The parenthesis after the condition, if there is one. -/
  closing : List Token
  /-- The brace that opens the body. -/
  openBrace : Token
  /-- The tokens of the body. -/
  body : List Token
  /-- The brace that closes the body. -/
  closeBrace : Token
  /-- The tokens after the statement. -/
  after : List Token
  /-- The statement starts at the first `if`. -/
  before_noIf : ∀ token ∈ before, ¬ (token.kind = .reservedWord ∧ token.lexeme = "if")
  /-- The keyword is an `if`. -/
  keyword_isIf : keyword.kind = .reservedWord ∧ keyword.lexeme = "if"
  /-- At most one parenthesis opens the condition. -/
  opening_optional : AbsentOr .openParen opening
  /-- An identifier or a number stands on the left. -/
  firstOperand_kind : firstOperand.kind = .identifier ∨ firstOperand.kind = .number
  /-- The operands are compared by a relational operator. -/
  comparison_kind : comparison.kind = .relationalOperator
  /-- An identifier or a number stands on the right. -/
  secondOperand_kind : secondOperand.kind = .identifier ∨ secondOperand.kind = .number
  /-- At most one parenthesis closes the condition, whether one has opened it or not. -/
  closing_optional : AbsentOr .closeParen closing
  /-- An opening brace comes before the body. -/
  openBrace_kind : openBrace.kind = .openBrace
  /-- The body holds no more than ten tokens. -/
  body_length : body.length ≤ 10
  /-- The first closing brace ends the body. -/
  body_unclosed : ∀ token ∈ body, token.kind ≠ .closeBrace
  /-- A closing brace comes after the body. -/
  closeBrace_kind : closeBrace.kind = .closeBrace

/-- The tokens that are cut into these parts. -/
def StatementParts.tokens (parts : StatementParts) : List Token :=
  parts.before ++ [parts.keyword] ++ parts.opening ++
    [parts.firstOperand, parts.comparison, parts.secondOperand] ++ parts.closing ++
    [parts.openBrace] ++ parts.body ++ [parts.closeBrace] ++ parts.after

/-- Matching every element of the grammar is being cut into the parts of a statement. -/
theorem matches_six_iff {tokens : List Token} :
    Matches 6 tokens ↔ ∃ parts : StatementParts, tokens = parts.tokens := by
  constructor
  · intro matched
    -- Each constructor peels the last element off the tokens, back to those before the `if`.
    cases matched with | @closeBrace _ after closeBrace matched closes =>
    cases matched with | @openBrace _ body openBrace matched opens room unclosed =>
    cases matched with | @secondOperand _ closing second matched right closingOptional =>
    cases matched with | @comparison _ comparison matched compares =>
    cases matched with | @firstOperand _ first matched left =>
    cases matched with | @keyword before opening keyword matched isIf openingOptional =>
    cases matched with | nothing noIf =>
    let parts : StatementParts :=
      ⟨before, keyword, opening, first, comparison, second, closing, openBrace, body, closeBrace,
        after, noIf, isIf, openingOptional, left, compares, right, closingOptional, opens, room,
        unclosed, closes⟩
    exact ⟨parts, by simp [StatementParts.tokens, parts]⟩
  · rintro ⟨parts, rfl⟩
    -- The parts are put together again in the order of the grammar.
    have keyword := Matches.keyword (.nothing parts.before_noIf) parts.keyword_isIf
      parts.opening_optional
    have first := keyword.firstOperand parts.firstOperand_kind
    have comparison := first.comparison parts.comparison_kind
    have second := comparison.secondOperand parts.secondOperand_kind parts.closing_optional
    have body := second.openBrace parts.openBrace_kind parts.body_length parts.body_unclosed
    have whole : Matches 6 (_ ++ [parts.closeBrace] ++ parts.after) :=
      body.closeBrace parts.closeBrace_kind
    simpa [StatementParts.tokens] using whole

/--
A check accepts a token list exactly when its significant tokens are the parts of a statement.

All other token lists fail it with a checkpoint that they do not meet, and no verdict is false.
-/
theorem checkStatement_accepts_iff (tokens : List Token) :
    (checkStatement tokens = .ok true ↔
      ∃ parts : StatementParts, significant tokens = parts.tokens) ∧
    checkStatement tokens ≠ .ok false ∧
    ((∃ checkpoint span, checkStatement tokens = .error (.unmetCheckpoint checkpoint span)) ↔
      ¬ ∃ parts : StatementParts, significant tokens = parts.tokens) := by
  -- To be accepted is to match all six mandatory elements.
  have accepts : checkStatement tokens = .ok true ↔
      ∃ parts : StatementParts, significant tokens = parts.tokens := by
    rw [checkStatement_eq_ok_iff_follow, ← matches_six_iff, matches_iff_follow]
    constructor
    · exact fun follows => ⟨.complete, follows, rfl⟩
    · rintro ⟨reading, follows, met⟩
      rw [follows, Reading.met_eq_six.mp met]
  rw [← accepts]
  -- The search has only two outcomes, and the other one is a failed checkpoint.
  rcases (StatementSearch.ofTokens tokens).advance_cases (Nat.zero_le _) with
    ⟨_, _, _, _, _, _, _, _, _, _, _, result⟩ | ⟨_, _, _, _, _, _, _, _, result⟩ <;>
  simp [checkStatement, result]

end IfStatement
