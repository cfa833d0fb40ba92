import IfStatement.Checkpoint
import IfStatement.Span

/-! A check fails with a cause, and the cause decides the message, the phase and the place. -/

namespace IfStatement

/-- A phase is the part of a check that can raise an error. -/
inductive Phase where
  /-- Reading the source file. -/
  | io
  /-- Cutting the text into tokens. -/
  | lexical
  /-- Matching the tokens against the grammar. -/
  | grammar
  /-- Comparing uses of variables with their declarations. -/
  | declaration
deriving DecidableEq

/-- The name by which a report calls a phase. -/
def Phase.name : Phase → String
  | .io => "io"
  | .lexical => "lexical"
  | .grammar => "syntax"
  | .declaration => "semantic"

/-- A check error is the first reason for which a text is refused. -/
inductive CheckError where
  /-- No lexeme starts with the character found here. -/
  | invalidCharacter (found : Char) (span : Span)
  /-- The tokens do not meet this checkpoint of the grammar. -/
  | unmetCheckpoint (checkpoint : Checkpoint) (span : Span)
  /-- A condition uses a variable that no earlier token declares. -/
  | undeclaredVariable (name : String) (span : Span)
  /-- The source file gave no text. -/
  | unreadableFile (cause : String)
deriving DecidableEq

/-- The message of an error quotes its cause verbatim. -/
def CheckError.message : CheckError → String
  | .invalidCharacter found _ =>
    "Lexical error: invalid character found: '" ++ String.singleton found ++ "'"
  | .unmetCheckpoint checkpoint _ => "Syntax error: failed to " ++ checkpoint.description
  | .undeclaredVariable name _ =>
    "Semantic error: variable '" ++ name ++ "' used inside 'if' was not declared"
  | .unreadableFile cause => "IO error: " ++ cause

/-- The phase of an error is the part of the check that raises its cause. -/
def CheckError.phase : CheckError → Phase
  | .invalidCharacter _ _ => .lexical
  | .unmetCheckpoint _ _ => .grammar
  | .undeclaredVariable _ _ => .declaration
  | .unreadableFile _ => .io

/-- An error points into the text unless there is no text to point into. -/
def CheckError.span? : CheckError → Option Span
  | .invalidCharacter _ span => some span
  | .unmetCheckpoint _ span => some span
  | .undeclaredVariable _ span => some span
  | .unreadableFile _ => none

/-- Whoever asks for nothing but the error of a verdict takes it without its truth value. -/
instance : Coe (Except CheckError Bool) (Except CheckError Unit) where
  coe verdict := verdict.map fun _ => ()

end IfStatement
