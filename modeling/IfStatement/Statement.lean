import IfStatement.CheckError
import IfStatement.Token

/-!
The grammar asks for one `if` statement: an optionally parenthesised comparison and a short body.
-/

namespace IfStatement

/-- The most tokens, white space aside, that the body of a statement may hold. -/
def bodyCapacity : Nat := 10

/-- White space is free before every expectation that follows the word `if`. -/
def dropWhitespace (tokens : List Token) : List Token :=
  tokens.dropWhile (·.kind == .whitespace)

/-- Passes over tokens up to the first `if` and over it, unless the end comes first. -/
def passIf : List Token → Except (List Token) (List Token)
  | [] => .error []
  | token :: rest =>
    if token.kind = .endOfInput then .error (token :: rest)
    else if token.isReserved "if" then .ok rest
    else passIf rest

/-- Takes the first token if its kind is accepted, and otherwise blames it. -/
def require (accepts : TokenKind → Bool) : List Token → Except (List Token) (List Token)
  | [] => .error []
  | token :: rest => if accepts token.kind then .ok rest else .error (token :: rest)

/-- Takes the first token if it is of the given kind. -/
def allow (kind : TokenKind) : List Token → List Token
  | [] => []
  | token :: rest => if token.kind = kind then rest else token :: rest

/-- Passes over body tokens until a closing brace, the end, or the given number of them. -/
def skipBody : Nat → List Token → List Token
  | 0, tokens => dropWhitespace tokens
  | limit + 1, tokens =>
    match dropWhitespace tokens with
    | [] => []
    | token :: rest =>
      if token.kind = .closeBrace ∨ token.kind = .endOfInput then token :: rest
      else skipBody limit rest

/-- Meeting a checkpoint gives the tokens after it, and failing gives those it fails at. -/
def Checkpoint.pass : Checkpoint → List Token → Except (List Token) (List Token)
  | .findIf, tokens => passIf tokens
  | .findOpenParen, tokens => .ok (allow .openParen (dropWhitespace tokens))
  | .verifyFirstOperand, tokens => require TokenKind.isOperand (dropWhitespace tokens)
  | .findRelationalOperator, tokens => require (· == .relationalOperator) (dropWhitespace tokens)
  | .verifySecondOperand, tokens => require TokenKind.isOperand (dropWhitespace tokens)
  | .findCloseParen, tokens => .ok (allow .closeParen (dropWhitespace tokens))
  | .findOpenBrace, tokens => require (· == .openBrace) (dropWhitespace tokens)
  | .findCloseBrace, tokens => require (· == .closeBrace) (skipBody bodyCapacity tokens)

/-- Meets checkpoints one after the other and stops at the first that fails. -/
def passAll : List Checkpoint → List Token → Except (Checkpoint × List Token) (List Token)
  | [], tokens => .ok tokens
  | checkpoint :: later, tokens =>
    match checkpoint.pass tokens with
    | .ok rest => passAll later rest
    | .error blamed => .error (checkpoint, blamed)

/-- A statement search walks along a token list and finds its statements one by one. -/
structure StatementSearch where
  /-- All the tokens, read or not. -/
  tokens : List Token
  /-- The number of tokens that have been read. -/
  position : Nat
  /-- The last checkpoint that was entered. -/
  checkpoint : Checkpoint
deriving DecidableEq

/-- A new search has all its tokens before it. -/
def StatementSearch.ofTokens (tokens : List Token) : StatementSearch :=
  ⟨tokens, 0, .findIf⟩

/-- A failure points at the blamed token, or at the last token where there is none to blame. -/
def StatementSearch.blame (search : StatementSearch) (blamed : List Token) : Span :=
  match blamed.head?.or search.tokens.getLast? with
  | some token => token.span
  | none => .origin

/--
Looks for the next statement, starting with its `if`, from where the search has stopped.

A statement that is found makes the verdict true, and no verdict is false.
-/
def StatementSearch.advance (search : StatementSearch) :
    Except CheckError Bool × StatementSearch :=
  match passAll Checkpoint.inOrder (search.tokens.drop search.position) with
  | .ok rest =>
    (.ok true, ⟨search.tokens, search.tokens.length - rest.length, .findCloseBrace⟩)
  | .error (checkpoint, blamed) =>
    (.error (.unmetCheckpoint checkpoint (search.blame blamed)),
      ⟨search.tokens, search.tokens.length - blamed.length, checkpoint⟩)

/-- Tokens meet the grammar when a search from their start finds a statement. -/
def checkStatement (tokens : List Token) : Except CheckError Bool :=
  (StatementSearch.ofTokens tokens).advance.1

end IfStatement
