/-! Checkpoints are the expectations of the grammar in the order a statement meets them. -/

namespace IfStatement

/-- A checkpoint is one expectation that an `if` statement has to meet. -/
inductive Checkpoint where
  /-- The word `if`. -/
  | findIf
  /-- The optional parenthesis before the condition. -/
  | findOpenParen
  /-- The left side of the comparison. -/
  | verifyFirstOperand
  /-- The comparison itself. -/
  | findRelationalOperator
  /-- The right side of the comparison. -/
  | verifySecondOperand
  /-- The optional parenthesis after the condition. -/
  | findCloseParen
  /-- The brace that opens the body. -/
  | findOpenBrace
  /-- The body and the brace that closes it. -/
  | findCloseBrace
deriving DecidableEq

/-- The grammar in order: every statement meets these checkpoints one after the other. -/
def Checkpoint.inOrder : List Checkpoint :=
  [.findIf, .findOpenParen, .verifyFirstOperand, .findRelationalOperator,
   .verifySecondOperand, .findCloseParen, .findOpenBrace, .findCloseBrace]

/-- The name by which a report calls a checkpoint. -/
def Checkpoint.name : Checkpoint → String
  | .findIf => "FindIf"
  | .findOpenParen => "FindOpenParen"
  | .verifyFirstOperand => "VerifyFirstOperand"
  | .findRelationalOperator => "FindRelationalOperator"
  | .verifySecondOperand => "VerifySecondOperand"
  | .findCloseParen => "FindCloseParen"
  | .findOpenBrace => "FindOpenBrace"
  | .findCloseBrace => "FindCloseBrace"

/-- The checkpoint that a report calls by the given name. -/
def Checkpoint.ofName? (name : String) : Option Checkpoint :=
  Checkpoint.inOrder.find? (·.name == name)

/-- The words by which a message describes a checkpoint. -/
def Checkpoint.description : Checkpoint → String
  | .findIf => "find 'if' statement"
  | .findOpenParen => "find opening parenthesis"
  | .verifyFirstOperand => "verify variable name or number"
  | .findRelationalOperator => "find relational operator"
  | .verifySecondOperand => "verify second variable name or number"
  | .findCloseParen => "find closing parenthesis"
  | .findOpenBrace => "find opening brace"
  | .findCloseBrace => "find closing brace"

end IfStatement
