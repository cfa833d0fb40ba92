import IfStatement.Statement

/-! Significant tokens are read one by one, and a reading knows how much of a statement they met. -/

namespace IfStatement

/-- The tokens before the end, white space aside, are all that a statement is made of. -/
def significant (tokens : List Token) : List Token :=
  (tokens.takeWhile (·.kind != .endOfInput)).filter (·.kind != .whitespace)

/-- Nothing is significant in an empty list. -/
@[simp] theorem significant_nil : significant [] = [] := rfl

/-- Whether the first token is significant depends on its kind alone. -/
theorem significant_cons (token : Token) (rest : List Token) :
    significant (token :: rest) =
      if token.kind = .endOfInput then []
      else if token.kind = .whitespace then significant rest
      else token :: significant rest := by
  -- The end hides whatever is behind it, and white space is only passed over.
  by_cases ended : token.kind = .endOfInput
  · simp [significant, ended]
  · by_cases blank : token.kind = .whitespace <;> simp [significant, ended, blank]

/-- Tokens in front without an end among them leave the significance of the others as it is. -/
theorem significant_append {front : List Token}
    (endless : ∀ token ∈ front, token.kind ≠ .endOfInput) (back : List Token) :
    significant (front ++ back) = significant front ++ significant back := by
  -- As the end is not in front, taking tokens up to it reaches into those behind.
  induction front with
  | nil => rfl
  | cons token rest ih =>
    have more : token.kind ≠ .endOfInput := endless token (by simp)
    have tail := ih fun later member => endless later (by simp [member])
    by_cases blank : token.kind = .whitespace <;> simp [significant_cons, blank, more, tail]

/-- A reading is how far into a statement the significant tokens read so far have come. -/
inductive Reading where
  /-- No `if` has been read. -/
  | beforeIf
  /-- The `if` was read last. -/
  | afterIf
  /-- The parenthesis before the condition was read last. -/
  | afterOpenParen
  /-- The left side of the comparison was read last. -/
  | afterFirstOperand
  /-- The comparison was read last. -/
  | afterComparison
  /-- The right side of the comparison was read last. -/
  | afterSecondOperand
  /-- The parenthesis after the condition was read last. -/
  | afterCloseParen
  /-- The body is open and holds this many tokens. -/
  | inBody (count : Nat)
  /-- The body is closed, and whatever follows it is of no interest. -/
  | complete
deriving DecidableEq

/-- A significant token brings a reading forward, unless no statement can go on with it. -/
def Reading.meet : Reading → Token → Option Reading
  | .beforeIf, token =>
    some (if token.kind = .reservedWord ∧ token.lexeme = "if" then .afterIf else .beforeIf)
  | .afterIf, token =>
    if token.kind = .openParen then some .afterOpenParen
    else if token.kind.isOperand then some .afterFirstOperand
    else none
  | .afterOpenParen, token =>
    if token.kind.isOperand then some .afterFirstOperand else none
  | .afterFirstOperand, token =>
    if token.kind = .relationalOperator then some .afterComparison else none
  | .afterComparison, token =>
    if token.kind.isOperand then some .afterSecondOperand else none
  | .afterSecondOperand, token =>
    if token.kind = .closeParen then some .afterCloseParen
    else if token.kind = .openBrace then some (.inBody 0)
    else none
  | .afterCloseParen, token =>
    if token.kind = .openBrace then some (.inBody 0) else none
  | .inBody count, token =>
    if token.kind = .closeBrace then some .complete
    else if count < bodyCapacity then some (.inBody (count + 1))
    else none
  | .complete, _ => some .complete

/-- Following significant tokens meets them in turn, and stops where one of them is refused. -/
def Reading.follow (reading : Reading) (tokens : List Token) : Option Reading :=
  tokens.foldlM Reading.meet reading

/-- The number of mandatory elements that a reading has met. -/
def Reading.met : Reading → Nat
  | .beforeIf => 0
  | .afterIf | .afterOpenParen => 1
  | .afterFirstOperand => 2
  | .afterComparison => 3
  | .afterSecondOperand | .afterCloseParen => 4
  | .inBody _ => 5
  | .complete => 6

/-- The checkpoints that no statement can do without, in their order. -/
def Checkpoint.mandatory : List Checkpoint :=
  [.findIf, .verifyFirstOperand, .findRelationalOperator, .verifySecondOperand,
   .findOpenBrace, .findCloseBrace]

/-- The first mandatory checkpoint that a reading has not met, or the last when all are met. -/
def Reading.expected (reading : Reading) : Checkpoint :=
  Checkpoint.mandatory.getD reading.met .findCloseBrace

/-- Reading nothing leaves a reading where it is. -/
@[simp] theorem Reading.follow_nil (reading : Reading) :
    reading.follow [] = some reading := rfl

/-- Reading one more token first meets that token. -/
theorem Reading.follow_cons (reading : Reading) (token : Token) (rest : List Token) :
    reading.follow (token :: rest) =
      (reading.meet token).bind fun next => next.follow rest := rfl

/-- Reading two lists of tokens goes on with the second from where the first has led. -/
theorem Reading.follow_append (reading : Reading) (front back : List Token) :
    reading.follow (front ++ back) =
      (reading.follow front).bind fun next => next.follow back := by
  -- The fold over an append is the fold over its parts.
  simp only [Reading.follow, List.foldlM_append]
  rfl

/-- A reading goes on by one token from where the tokens before it have led. -/
theorem Reading.follow_concat {reading middle next : Reading} {front : List Token} {token : Token}
    (follows : reading.follow front = some middle) (met : middle.meet token = some next) :
    reading.follow (front ++ [token]) = some next := by
  -- The last step of the walk meets the one token at the back.
  simp [Reading.follow_append, follows, Reading.follow_cons, met]

/-- Nothing that follows a complete statement can spoil it. -/
@[simp] theorem Reading.follow_complete (tokens : List Token) :
    Reading.complete.follow tokens = some .complete := by
  -- A complete reading takes every token without moving.
  induction tokens with
  | nil => rfl
  | cons token rest ih => simpa [Reading.follow_cons, Reading.meet] using ih

/-- A statement with every mandatory element and nothing else. -/
def shortestStatement : List Token :=
  [⟨.reservedWord, "if", .origin⟩, ⟨.identifier, "x", .origin⟩,
   ⟨.relationalOperator, "=", .origin⟩, ⟨.identifier, "x", .origin⟩,
   ⟨.openBrace, "\x7b", .origin⟩, ⟨.closeBrace, "\x7d", .origin⟩]

/-- Every reading can be completed by the mandatory elements that it has not met. -/
theorem Reading.follow_shortestStatement (reading : Reading) :
    reading.follow (shortestStatement.drop reading.met) = some .complete := by
  -- No optional part is needed, so the same list serves readings before and after one.
  cases reading <;> rfl

/-- Only a complete reading has met every mandatory element. -/
theorem Reading.met_eq_six {reading : Reading} : reading.met = 6 ↔ reading = .complete := by
  -- Every other reading still lacks the brace that closes the body.
  cases reading <;> simp [Reading.met]

/-- A reading short of completion expects a mandatory checkpoint. -/
theorem Reading.mandatory_met {reading : Reading} (open_ : reading ≠ .complete) :
    Checkpoint.mandatory[reading.met]? = some reading.expected := by
  -- An unfinished reading has met fewer elements than the list names.
  cases reading with
  | complete => exact absurd rfl open_
  | _ => rfl

/-- No reading depends on an optional parenthesis. -/
theorem Reading.expected_mandatory (reading : Reading) :
    reading.expected ≠ .findOpenParen ∧ reading.expected ≠ .findCloseParen := by
  -- The two optional checkpoints are not among those that a reading looks up.
  cases reading <;> simp [Reading.expected, Reading.met, Checkpoint.mandatory]

end IfStatement
