import IfStatement.Cursor
import IfStatement.Report

/-! A guarded check gives no report when it would take a slice, line or number that is missing. -/

namespace IfStatement

/-- Shows an error at the start of its span, unless that cannot be located. -/
def Diagnostic.ofError? (lines : LineStarts) (error : CheckError) : Option Diagnostic :=
  match error.span? with
  | none => some ⟨error.phase, error.message, none, none⟩
  | some span => do
    let position ← lines.locate? span.start
    return ⟨error.phase, error.message, some position.line, some position.column⟩

/-- Lists a token at the start of its span, unless that cannot be located. -/
def TableRow.ofToken? (lines : LineStarts) (token : Token) : Option TableRow := do
  let position ← lines.locate? token.span.start
  return ⟨token.kind, token.lexeme, position.line, position.column⟩

/-- Lists tokens in their order, unless one of them cannot be located. -/
def tokenTable? (text : List Char) (tokens : List Token) : Option (List TableRow) :=
  tokens.mapM (TableRow.ofToken? (LineStarts.ofText text))

/-- Checks a text as a cursor reads it, unless that takes something that is missing. -/
def Report.ofText? (text : List Char) (sourceFile : String) : Option Report := do
  let lines := LineStarts.ofText text
  let (result, _) ← (Cursor.ofText text).tokenize?
  match result with
  | .error error =>
    let diagnostic ← Diagnostic.ofError? lines error
    return ⟨false, sourceFile, .lexical, none, [], some diagnostic⟩
  | .ok tokens =>
    let table ← tokenTable? text tokens
    let (verdict, search) := (StatementSearch.ofTokens tokens).advance
    match (verdict : Except CheckError Unit) with
    | .error error =>
      let diagnostic ← Diagnostic.ofError? lines error
      return ⟨false, sourceFile, .grammar, some search.checkpoint, table, some diagnostic⟩
    | .ok () =>
      match checkDeclarations tokens with
      | .error error =>
        let diagnostic ← Diagnostic.ofError? lines error
        return ⟨false, sourceFile, .declaration, some search.checkpoint, table,
          some diagnostic⟩
      | .ok () => return ⟨true, sourceFile, .done, some search.checkpoint, table, none⟩

end IfStatement
