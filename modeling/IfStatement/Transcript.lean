import IfStatement.Position
import IfStatement.Scanner
import IfStatement.Declarations
import IfStatement.Statement

/-! The text of a check shows the token table, a banner for each part passed and the first error. -/

namespace IfStatement

/-- The line that frames tables and messages. -/
def separatorLine : String := "=-=-=-=-=\n"

/-- A framed message stands between two separators and leaves an empty line below. -/
def framed (message : String) : String :=
  separatorLine ++ message ++ "\n" ++ separatorLine ++ "\n"

/-- A token is shown by its description and its lexeme. -/
def Token.line (token : Token) : String :=
  "Kind: " ++ token.kind.description ++ ". Token: " ++ token.lexeme ++ "\n"

/-- The token table has a heading and a line for each token. -/
def tableText (tokens : List Token) : String :=
  "Token table\n" ++ separatorLine ++ String.join (tokens.map Token.line)

/-- The place of an error is a file name, a line and a column. -/
def placeText (file : String) (position : Position) : String :=
  "  --> " ++ file ++ ":" ++ position.line.repr ++ ":" ++ position.column.repr ++ "\n"

/-- An error is shown by its message, and below it by its place when it has one. -/
def CheckError.text (error : CheckError) (file : String) (source : List Char) : String :=
  error.message ++ "\n" ++
    match error.span? with
    | some span => placeText file (.ofOffset source span.start)
    | none => ""

/-- The banner that follows the token table. -/
def lexicalBanner : String := framed "Lexical analysis completed successfully!"

/-- The banner for tokens that meet the grammar. -/
def grammarBanner : String := framed "Syntax analysis completed successfully!"

/-- The banner that gives the verdict of the grammar. -/
def verdictBanner (valid : Bool) : String :=
  framed ("Is the 'if' condition syntactically valid? " ++ toString valid)

/-- The banner for tokens that respect declarations. -/
def declarationBanner : String := framed "=-= Semantic analysis completed successfully! =-="

end IfStatement
