import IfStatement.Proofs.Declarations.Layout
import IfStatement.Proofs.Report.Consistency
import IfStatement.Proofs.Statement.Layout
import Mathlib.Data.List.Basic

/-! Two layouts of the same symbols get reports that differ in nothing but their places. -/

namespace IfStatement

/-- The rows of a table that are not white space, in their order. -/
def visibleRows (rows : List TableRow) : List TableRow :=
  rows.filter (·.kind != .whitespace)

/-- The visible rows of a table are those of the visible tokens. -/
theorem visibleRows_tokenTable (text : List Char) (tokens : List Token) :
    visibleRows (tokenTable text tokens) = (visible tokens).map (.ofToken (.ofText text)) := by
  -- A row has the kind of its token.
  rw [visibleRows, visible, tokenTable, List.filter_map]
  rfl

/-- A diagnostic stands at a row when it has the line and the column of the row. -/
structure Diagnostic.StandsAt (diagnostic : Diagnostic) (row : TableRow) : Prop where
  line : diagnostic.line = some row.line
  column : diagnostic.column = some row.column

/-- Two reports have the same outcome when at most their places and their tables differ. -/
structure Report.SameOutcome (left right : Report) : Prop where
  success : left.success = right.success
  progress : left.progress = right.progress
  checkpoint : left.checkpoint = right.checkpoint
  phase : left.diagnostic.map Diagnostic.phase = right.diagnostic.map Diagnostic.phase
  message : left.diagnostic.map Diagnostic.message = right.diagnostic.map Diagnostic.message
  /-- The diagnostics stand at rows that have one number among the visible rows of their tables. -/
  place : ∀ leftShown ∈ left.diagnostic, ∀ rightShown ∈ right.diagnostic,
    ∃ (index : Nat) (leftRow rightRow : TableRow),
      (visibleRows left.tokens)[index]? = some leftRow ∧
      (visibleRows right.tokens)[index]? = some rightRow ∧
      leftShown.StandsAt leftRow ∧ rightShown.StandsAt rightRow

/-- An error that points at a visible token is shown at the visible row of the same number. -/
theorem visibleRow_of_visible {text : List Char} {tokens : List Token} {index : Nat}
    {token : Token} {error : CheckError} (found : (visible tokens)[index]? = some token)
    (points : error.span? = some token.span) :
    ∃ row, (visibleRows (tokenTable text tokens))[index]? = some row ∧
      (Diagnostic.ofError (.ofText text) error).StandsAt row := by
  -- The row is that of the token, with the number of the token.
  refine ⟨.ofToken (.ofText text) token, ?_, ?_⟩
  · rw [visibleRows_tokenTable, List.getElem?_map, found]
    rfl
  · rw [Diagnostic.ofError_row (.ofText text) points]
    exact ⟨rfl, rfl⟩

/-- Reports of alike errors have the same outcome when the checks have come equally far. -/
theorem Report.sameOutcome_of_alike {leftTokens rightTokens : List Token}
    {leftError rightError : CheckError}
    (alike : CheckError.Alike leftTokens rightTokens leftError rightError)
    (leftText rightText : List Char) (leftFile rightFile : String) (progress : Progress)
    (checkpoint : Option Checkpoint) :
    Report.SameOutcome
      ⟨false, leftFile, progress, checkpoint, tokenTable leftText leftTokens,
        some (.ofError (.ofText leftText) leftError)⟩
      ⟨false, rightFile, progress, checkpoint, tokenTable rightText rightTokens,
        some (.ofError (.ofText rightText) rightError)⟩ := by
  refine ⟨rfl, rfl, rfl, congrArg some alike.phase, congrArg some alike.message, ?_⟩
  intro leftShown leftHere rightShown rightHere
  cases leftHere
  cases rightHere
  -- The tokens at which both errors point have one number, and so have their rows.
  obtain ⟨index, leftToken, rightToken, leftFound, rightFound, leftPoints, rightPoints⟩ :=
    alike.place
  obtain ⟨leftRow, leftListed, leftStands⟩ := visibleRow_of_visible leftFound leftPoints
  obtain ⟨rightRow, rightListed, rightStands⟩ := visibleRow_of_visible rightFound rightPoints
  exact ⟨index, leftRow, rightRow, leftListed, rightListed, leftStands, rightStands⟩

/-- A report on a text that becomes tokens is decided by the verdicts on its tokens. -/
theorem Report.ofText_of_tokenize {text : List Char} {tokens : List Token}
    (lexed : tokenize text = .ok tokens) (file : String) :
    let checkpoint := some (StatementSearch.ofTokens tokens).advance.2.checkpoint
    Report.ofText text file =
      match checkStatement tokens, checkDeclarations tokens with
      | .error error, _ =>
        ⟨false, file, .grammar, checkpoint, tokenTable text tokens,
          some (.ofError (.ofText text) error)⟩
      | .ok _, .error error =>
        ⟨false, file, .declaration, checkpoint, tokenTable text tokens,
          some (.ofError (.ofText text) error)⟩
      | .ok _, .ok () =>
        ⟨true, file, .done, checkpoint, tokenTable text tokens, none⟩ := by
  -- The verdicts are asked for in this order, and the first error ends the check.
  simp only [Report.ofText, lexed, checkStatement]
  rcases (StatementSearch.ofTokens tokens).advance with ⟨verdict, search⟩
  cases verdict with
  | error error => rfl
  | ok _ => cases checkDeclarations tokens <;> rfl

/--
Reformatting a text does not change the outcome of checking it.

Texts that show the same symbols fare alike, and what is found amiss is at one visible row.
-/
theorem Report.ofText_sameOutcome {leftText rightText : List Char}
    {leftTokens rightTokens : List Token} (leftLexed : tokenize leftText = .ok leftTokens)
    (rightLexed : tokenize rightText = .ok rightTokens)
    (same : (visible leftTokens).map Token.symbol = (visible rightTokens).map Token.symbol)
    (file : String) :
    (Report.ofText leftText file).SameOutcome (Report.ofText rightText file) := by
  -- With the same symbols, the tokens are the same once their places are taken away.
  have looks : bare leftTokens = bare rightTokens := congrArg (List.map Symbol.token) same
  have ended : ∃ token ∈ leftTokens, token.kind = .endOfInput := by
    obtain ⟨cut, final, _, _, rfl⟩ := Scanner.tokenize_eq_ok_iff_cuts.mp leftLexed
    exact ⟨_, List.mem_append_right cut List.mem_cons_self, rfl⟩
  obtain ⟨checkpoint, statements⟩ := StatementSearch.advance_alike looks ended
  have declarations := checkDeclarations_alike looks
  rw [Report.ofText_of_tokenize leftLexed, Report.ofText_of_tokenize rightLexed, checkpoint]
  generalize checkStatement leftTokens = leftStatement at statements ⊢
  generalize checkStatement rightTokens = rightStatement at statements ⊢
  generalize checkDeclarations leftTokens = leftDeclared at declarations ⊢
  generalize checkDeclarations rightTokens = rightDeclared at declarations ⊢
  -- The first verdict that is unfavourable decides, in both texts alike.
  cases statements with
  | refused alike => exact Report.sameOutcome_of_alike alike ..
  | accepted =>
    cases declarations with
    | refused alike => exact Report.sameOutcome_of_alike alike ..
    | accepted => exact ⟨rfl, rfl, rfl, rfl, rfl, nofun⟩

set_option maxRecDepth 4000 in
/-- With or without white space, a condition lacks the same operand. -/
theorem Report.ofText_sameOutcome_missingOperand :
    let leftTokens : List Token :=
      [⟨.reservedWord, "if", ⟨0, 2⟩⟩, ⟨.openParen, "(", ⟨2, 3⟩⟩, ⟨.identifier, "x", ⟨3, 4⟩⟩,
       ⟨.relationalOperator, "=", ⟨4, 5⟩⟩, ⟨.closeParen, ")", ⟨5, 6⟩⟩, ⟨.endOfInput, "", ⟨6, 6⟩⟩]
    let rightTokens : List Token :=
      [⟨.reservedWord, "if", ⟨0, 2⟩⟩, ⟨.whitespace, "", ⟨2, 4⟩⟩, ⟨.openParen, "(", ⟨4, 5⟩⟩,
       ⟨.identifier, "x", ⟨5, 6⟩⟩, ⟨.relationalOperator, "=", ⟨6, 7⟩⟩,
       ⟨.whitespace, "", ⟨7, 8⟩⟩, ⟨.closeParen, ")", ⟨8, 9⟩⟩, ⟨.endOfInput, "", ⟨9, 9⟩⟩]
    tokenize "if(x=)".toList = .ok leftTokens ∧ tokenize "if\n (x= )".toList = .ok rightTokens ∧
      (visible leftTokens).map Token.symbol = (visible rightTokens).map Token.symbol ∧
      (Report.ofText "if(x=)".toList "a").SameOutcome (Report.ofText "if\n (x= )".toList "a") := by
  -- Both texts are tokenized, and their symbols are compared without the white space.
  intro leftTokens rightTokens
  have leftLexed : tokenize "if(x=)".toList = .ok leftTokens := by cbv
  have rightLexed : tokenize "if\n (x= )".toList = .ok rightTokens := by cbv
  exact ⟨leftLexed, rightLexed, rfl, Report.ofText_sameOutcome leftLexed rightLexed rfl "a"⟩

end IfStatement
