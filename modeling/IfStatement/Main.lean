import IfStatement.Program

/-! The executable reads the one file it needs and prints what the program answers. -/

namespace IfStatement

/-- The number and the wording that the system gives to a failure. -/
def systemError? : IO.Error → Option (UInt32 × String)
  | .noFileOrDirectory _ number wording => some (number, wording)
  | .interrupted _ number wording => some (number, wording)
  | .alreadyExists _ number wording => some (number, wording)
  | .inappropriateType _ number wording => some (number, wording)
  | .invalidArgument _ number wording => some (number, wording)
  | .noSuchThing _ number wording => some (number, wording)
  | .permissionDenied _ number wording => some (number, wording)
  | .resourceExhausted _ number wording => some (number, wording)
  | .hardwareFault number wording => some (number, wording)
  | .illegalOperation number wording => some (number, wording)
  | .otherError number wording => some (number, wording)
  | .protocolError number wording => some (number, wording)
  | .resourceBusy number wording => some (number, wording)
  | .resourceVanished number wording => some (number, wording)
  | .timeExpired number wording => some (number, wording)
  | .unsatisfiedConstraints number wording => some (number, wording)
  | .unsupportedOperation number wording => some (number, wording)
  | .unexpectedEof => none
  | .userError _ => none

/-- An error number that comes negated, as it does from opening a file, is read without its sign. -/
def errorNumber (number : UInt32) : UInt32 :=
  if number < 0x80000000 then number else 0 - number

/-- Three failures have a cause of their own, and any other is told in the system's words. -/
def ReadFailure.ofSystem (failure : IO.Error) : ReadFailure :=
  match systemError? failure with
  | some (number, wording) =>
    match errorNumber number with
    | 2 => .notFound
    | 20 => .notDirectory
    | 21 => .isDirectory
    | unnamed => .other (wording.capitalize ++ " (os error " ++ toString unnamed ++ ")")
  | none => .other (toString failure)

/-- Reads the text of the file with the given name. -/
def readText (name : String) : IO (Except ReadFailure String) := do
  try
    return decodeText (← IO.FS.readBinFile name)
  catch failure =>
    return .error (.ofSystem failure)

/-- Reads the file that the arguments ask for, if they ask for one. -/
def readRequested (arguments : List String) : IO (Except ReadFailure String) := do
  match Request.ofArguments arguments with
  | .ok request =>
    match request.file? with
    | some name => readText name
    | none => return .error .notFound
  | .error _ => return .error .notFound

/-- Runs the program, prints its outcome and gives the exit code. -/
def runAndPrint (arguments : List String) : IO UInt32 := do
  let contents ← readRequested arguments
  let outcome := run (fun _ => contents) arguments
  IO.print outcome.stdout
  IO.eprint outcome.stderr
  return outcome.exitCode.toUInt32

end IfStatement

/-- The executable is called with the arguments of the command line. -/
def main (arguments : List String) : IO UInt32 :=
  IfStatement.runAndPrint arguments
