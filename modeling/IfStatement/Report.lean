import IfStatement.Declarations
import IfStatement.Position
import IfStatement.Scanner
import IfStatement.Statement

/-! A report records how far the check of one text got and the first error it met. -/

namespace IfStatement

/-- Progress names the last part of a check that was entered. -/
inductive Progress where
  /-- The text did not become tokens. -/
  | lexical
  /-- The tokens did not meet the grammar. -/
  | grammar
  /-- A condition used an undeclared name. -/
  | declaration
  /-- Nothing was left to check. -/
  | done
deriving DecidableEq

/-- The name by which a report calls its progress. -/
def Progress.name : Progress → String
  | .lexical => "lexical"
  | .grammar => "syntax"
  | .declaration => "semantic"
  | .done => "done"

/-- A row of the token table shows a token at its line and column. -/
structure TableRow where
  /-- The kind of the token. -/
  kind : TokenKind
  /-- The spelling of the token. -/
  lexeme : String
  /-- The line on which the token starts. -/
  line : Nat
  /-- The column at which the token starts. -/
  column : Nat
deriving DecidableEq

/-- A diagnostic is an error as a report shows it. -/
structure Diagnostic where
  /-- The phase that raised the error. -/
  phase : Phase
  /-- The message of the error, verbatim. -/
  message : String
  /-- The line of the error, if the error has a place. -/
  line : Option Nat
  /-- The column of the error, if the error has a place. -/
  column : Option Nat
deriving DecidableEq

/-- A report is the outcome of checking one text. -/
structure Report where
  /-- Whether the text passed every part of the check. -/
  success : Bool
  /-- The name of the file that held the text, as it was given. -/
  sourceFile : String
  /-- The last part of the check that was entered. -/
  progress : Progress
  /-- The last checkpoint of the grammar that was entered, if any was. -/
  checkpoint : Option Checkpoint
  /-- The token table, which is empty when the text did not become tokens. -/
  tokens : List TableRow
  /-- The first error, if there was one. -/
  diagnostic : Option Diagnostic
deriving DecidableEq

/-- An error with a place is shown at the start of its span. -/
def Diagnostic.ofError (lines : LineStarts) (error : CheckError) : Diagnostic :=
  let position := error.span?.map fun span => lines.position span.start
  ⟨error.phase, error.message, position.map Position.line, position.map Position.column⟩

/-- A token is listed at the start of its span. -/
def TableRow.ofToken (lines : LineStarts) (token : Token) : TableRow :=
  let position := lines.position token.span.start
  ⟨token.kind, token.lexeme, position.line, position.column⟩

/-- The token table lists tokens in their order, placed in the text they came from. -/
def tokenTable (text : List Char) (tokens : List Token) : List TableRow :=
  tokens.map (TableRow.ofToken (LineStarts.ofText text))

/-- A file that gave no text is reported without tokens and without a place. -/
def Report.ofUnreadable (sourceFile : String) (cause : String) : Report :=
  let error := CheckError.unreadableFile cause
  ⟨false, sourceFile, .lexical, none, [], some ⟨error.phase, error.message, none, none⟩⟩

/-- Checks a text part by part and stops at the first error. -/
def Report.ofText (text : List Char) (sourceFile : String) : Report :=
  let lines := LineStarts.ofText text
  match tokenize text with
  | .error error =>
    ⟨false, sourceFile, .lexical, none, [], some (.ofError lines error)⟩
  | .ok tokens =>
    let table := tokenTable text tokens
    let (verdict, search) := (StatementSearch.ofTokens tokens).advance
    match (verdict : Except CheckError Unit) with
    | .error error =>
      ⟨false, sourceFile, .grammar, some search.checkpoint, table, some (.ofError lines error)⟩
    | .ok () =>
      match checkDeclarations tokens with
      | .error error =>
        ⟨false, sourceFile, .declaration, some search.checkpoint, table,
          some (.ofError lines error)⟩
      | .ok () => ⟨true, sourceFile, .done, some search.checkpoint, table, none⟩

end IfStatement
