import IfStatement.Span

/-! Tokens are classified lexemes that know where they came from. -/

namespace IfStatement

/-- The kind of a token says what role its lexeme can play in a statement. -/
inductive TokenKind where
  /-- A run of white space. -/
  | whitespace
  /-- The word that introduces a variable. -/
  | varKeyword
  /-- The semicolon. -/
  | semicolon
  /-- A word that the language keeps for itself. -/
  | reservedWord
  /-- The name of a variable. -/
  | identifier
  /-- An arithmetic operator, which no lexeme of the language has as yet. -/
  | operator
  /-- A comparison of two operands. -/
  | relationalOperator
  /-- A logical connective, which no lexeme of the language has as yet. -/
  | logicalOperator
  /-- The opening parenthesis. -/
  | openParen
  /-- The closing parenthesis. -/
  | closeParen
  /-- An integer literal. -/
  | number
  /-- The opening brace. -/
  | openBrace
  /-- The closing brace. -/
  | closeBrace
  /-- The end of the text. -/
  | endOfInput
deriving DecidableEq

/-- The name by which a report calls a kind. -/
def TokenKind.name : TokenKind → String
  | .whitespace => "Whitespace"
  | .varKeyword => "VarKeyword"
  | .semicolon => "Semicolon"
  | .reservedWord => "ReservedWord"
  | .identifier => "Identifier"
  | .operator => "Operator"
  | .relationalOperator => "RelationalOperator"
  | .logicalOperator => "LogicalOperator"
  | .openParen => "OpenParen"
  | .closeParen => "CloseParen"
  | .number => "Number"
  | .openBrace => "OpenBrace"
  | .closeBrace => "CloseBrace"
  | .endOfInput => "EndOfInput"

/-- All the kinds of token. -/
def TokenKind.all : List TokenKind :=
  [.whitespace, .varKeyword, .semicolon, .reservedWord, .identifier, .operator,
   .relationalOperator, .logicalOperator, .openParen, .closeParen, .number, .openBrace,
   .closeBrace, .endOfInput]

/-- The kind that a report calls by the given name. -/
def TokenKind.ofName? (name : String) : Option TokenKind :=
  TokenKind.all.find? (·.name == name)

/-- The words by which a printed table describes a kind. -/
def TokenKind.description : TokenKind → String
  | .whitespace => "whitespace"
  | .varKeyword => "var keyword"
  | .semicolon => "semicolon"
  | .reservedWord => "reserved word"
  | .identifier => "identifier"
  | .operator => "operator"
  | .relationalOperator => "relational operator"
  | .logicalOperator => "logical operator"
  | .openParen => "open parenthesis"
  | .closeParen => "close parenthesis"
  | .number => "number"
  | .openBrace => "open brace"
  | .closeBrace => "close brace"
  | .endOfInput => "end of input"

/-- An identifier or a number may stand on either side of a comparison. -/
def TokenKind.isOperand : TokenKind → Bool
  | .identifier | .number => true
  | _ => false

/-- A word is an identifier unless the language gives its exact spelling another kind. -/
def TokenKind.ofWord (word : String) : TokenKind :=
  if word = "if" ∨ word = "return" ∨ word = "true" then .reservedWord
  else if word = "var" then .varKeyword
  else .identifier

/-- A token is a lexeme with its kind and its place in the text. -/
structure Token where
  /-- The role of the lexeme. -/
  kind : TokenKind
  /-- The matched text, left empty for white space and for the end of the text. -/
  lexeme : String
  /-- The characters that were matched. -/
  span : Span
deriving DecidableEq

/-- The end of the text is an empty token at its last offset. -/
def Token.endOfInput (offset : Nat) : Token :=
  ⟨.endOfInput, "", ⟨offset, offset⟩⟩

/-- A token is a given reserved word when both its kind and its spelling say so. -/
def Token.isReserved (token : Token) (word : String) : Bool :=
  token.kind == .reservedWord && token.lexeme == word

/-- Nothing but the kind and the spelling of a token makes it a given reserved word. -/
theorem Token.isReserved_iff {token : Token} {word : String} :
    token.isReserved word = true ↔ token.kind = .reservedWord ∧ token.lexeme = word := by
  simp only [Token.isReserved, Bool.and_eq_true, beq_iff_eq]

end IfStatement
