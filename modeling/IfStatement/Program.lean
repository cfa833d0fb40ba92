import IfStatement.CommandLine.Help
import IfStatement.Report.Document
import IfStatement.SourceFile
import IfStatement.Transcript

/-! The program answers a command line with an exit code and with text on its two outputs. -/

namespace IfStatement

/-- An outcome is all that a run of the program leaves behind. -/
structure Outcome where
  /-- Zero for success, one for a failed check and two for a misused command line. -/
  exitCode : Nat
  /-- The text on standard output. -/
  stdout : String
  /-- The text on standard error. -/
  stderr : String
deriving DecidableEq

/-- A failure to read a file is told with the name of the file. -/
def ReadFailure.cause (failure : ReadFailure) (file : String) : String :=
  "failed to read " ++ file ++ ": " ++ failure.message

/-- An unreadable file fails the run with its cause. -/
def Outcome.ofUnreadable (file : String) (failure : ReadFailure) : Outcome :=
  ⟨1, "", "Error: " ++ failure.cause file ++ "\n"⟩

/-- An error fails the run after what had been shown before it. -/
def Outcome.ofError (file : String) (source : List Char) (shown : String) (error : CheckError) :
    Outcome :=
  ⟨1, shown, error.text file source⟩

/-- Checks a text and shows each part as it passes. -/
def checkAsText (file : String) (source : List Char) (showTokens : Bool) : Outcome :=
  match tokenize source with
  | .error error => .ofError file source "" error
  | .ok tokens =>
    let lexical := (if showTokens then tableText tokens else "") ++ lexicalBanner
    match checkStatement tokens with
    | .error error => .ofError file source lexical error
    | .ok valid =>
      let grammar := lexical ++ grammarBanner ++ verdictBanner valid
      match checkDeclarations tokens with
      | .error error => .ofError file source grammar error
      | .ok () => ⟨0, grammar ++ declarationBanner, ""⟩

/-- A report is written in the pretty layout and decides the exit code. -/
def Outcome.ofReport (report : Report) : Outcome :=
  ⟨if report.success then 0 else 1, report.render .pretty ++ "\n", ""⟩

/-- Checks what was read from a file. -/
def answerCheck (file : String) (json showTokens : Bool) : Except ReadFailure String → Outcome
  | .error failure =>
    if json then .ofReport (.ofUnreadable file (failure.cause file))
    else .ofUnreadable file failure
  | .ok text =>
    if json then .ofReport (.ofText text.toList file)
    else checkAsText file text.toList showTokens

/-- Shows the token table of what was read from a file. -/
def answerTokens (file : String) (json : Bool) : Except ReadFailure String → Outcome
  | .error failure => .ofUnreadable file failure
  | .ok text =>
    match tokenize text.toList with
    | .error error => .ofError file text.toList "" error
    | .ok tokens =>
      if json then ⟨0, (tableJson (tokenTable text.toList tokens)).render .pretty ++ "\n", ""⟩
      else ⟨0, tableText tokens ++ separatorLine, ""⟩

/-- Answers a request, given what can be read under each name. -/
def Request.answer (read : String → Except ReadFailure String) : Request → Outcome
  | .check file json shown => answerCheck file json shown (read file)
  | .tokens file json => answerTokens file json (read file)
  | .version => ⟨0, versionText, ""⟩
  | .nothing =>
    ⟨1, "", "Error: No input file specified\nUsage: ifcheck <FILE> or ifcheck check <FILE>\n"⟩

/-- An interruption is answered at once, and only a misuse is an error. -/
def Interruption.answer : Interruption → Outcome
  | .help topic => ⟨0, topic.text, ""⟩
  | .version => ⟨0, versionText, ""⟩
  | .misuse cause => ⟨2, "", "error: " ++ cause.message ++ "\n"⟩

/-- Runs the program on its arguments, given what can be read under each name. -/
def run (read : String → Except ReadFailure String) (arguments : List String) : Outcome :=
  match Request.ofArguments arguments with
  | .ok request => request.answer read
  | .error interruption => interruption.answer

/-- The file that a request needs to be read. -/
def Request.file? : Request → Option String
  | .check file _ _ => some file
  | .tokens file _ => some file
  | .version | .nothing => none

end IfStatement
