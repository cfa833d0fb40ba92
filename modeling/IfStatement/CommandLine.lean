/-! The command line is read from left to right, first for the program and then for a command. -/

namespace IfStatement

/-- A command chooses what is done with a source file. -/
inductive Command where
  /-- Runs every part of the check. -/
  | check
  /-- Shows the token table alone. -/
  | tokens
  /-- Shows the version of the program. -/
  | version
deriving DecidableEq

/-- A command is called by its exact name. -/
def Command.ofName? (name : String) : Option Command :=
  if name = "check" then some .check
  else if name = "tokens" then some .tokens
  else if name = "version" then some .version
  else none

/-- A help topic is what a help text describes. -/
inductive HelpTopic where
  /-- The program as a whole. -/
  | program
  /-- One of its commands. -/
  | command (command : Command)
  /-- The help command itself. -/
  | help
deriving DecidableEq

/-- A misuse is the reason for which the command line asks for nothing that can be done. -/
inductive Misuse where
  /-- No option of this spelling exists at this level. -/
  | unknownOption (argument : String)
  /-- An option is given twice. -/
  | repeatedOption (argument : String)
  /-- No further file name has a use. -/
  | surplusArgument (argument : String)
  /-- A command that needs a file name has none. -/
  | missingFile
  /-- A file name is empty. -/
  | emptyFile
  /-- No help exists on this topic. -/
  | unknownTopic (argument : String)
deriving DecidableEq

/-- The message of a misuse names the argument at fault. -/
def Misuse.message : Misuse → String
  | .unknownOption argument => "unknown option '" ++ argument ++ "'"
  | .repeatedOption argument => "option '" ++ argument ++ "' is given twice"
  | .surplusArgument argument => "unexpected argument '" ++ argument ++ "'"
  | .missingFile => "a file name is required"
  | .emptyFile => "a file name must not be empty"
  | .unknownTopic argument => "no help on '" ++ argument ++ "'"

/-- An interruption ends the reading of the command line before all of it is read. -/
inductive Interruption where
  /-- Help was asked for. -/
  | help (topic : HelpTopic)
  /-- The version was asked for. -/
  | version
  /-- The command line was misused. -/
  | misuse (cause : Misuse)
deriving DecidableEq

/-- A request is what a whole command line asks for. -/
inductive Request where
  /-- Check a file, and report in JSON or show the tokens first. -/
  | check (file : String) (json showTokens : Bool)
  /-- Show the token table of a file. -/
  | tokens (file : String) (json : Bool)
  /-- Show the version. -/
  | version
  /-- Nothing, as no file was named. -/
  | nothing
deriving DecidableEq

/-- A flag is an option that is either given or not. -/
inductive Flag where
  /-- Write JSON instead of text. -/
  | json
  /-- Leave out the token table. -/
  | noTokens
deriving DecidableEq

/-- The spelling of a flag. -/
def Flag.spelling : Flag → String
  | .json => "--json"
  | .noTokens => "--no-tokens"

/-- The flags that a level of the command line knows, where `none` is the program's own level. -/
def flagsOf : Option Command → List Flag
  | none | some .check => [.json, .noTokens]
  | some .tokens => [.json]
  | some .version => []

/-- An argument plays one of these roles at its level. -/
inductive Role where
  /-- The name of a command, which opens the next level. -/
  | command (command : Command)
  /-- The name of the help command. -/
  | helpCommand
  /-- A flag of the level. -/
  | flag (flag : Flag)
  /-- The option that asks for help. -/
  | help
  /-- The option that asks for the version. -/
  | version
  /-- The mark after which every argument is a file name. -/
  | separator
  /-- A file name. -/
  | file
  /-- An option that the level does not know. -/
  | unknown
deriving DecidableEq

/-- A long option has to be spelled out, and only the program itself knows the version. -/
def longRole (level : Option Command) (argument : String) : Role :=
  if argument = "--help" then .help
  else if argument = "--version" ∧ level = none then .version
  else
    match (flagsOf level).find? (·.spelling == argument) with
    | some flag => .flag flag
    | none => .unknown

/-- A word without a dash is a command only at the program's own level. -/
def wordRole (level : Option Command) (argument : String) : Role :=
  if level = none then
    if argument = "help" then .helpCommand
    else
      match Command.ofName? argument with
      | some command => .command command
      | none => .file
  else .file

/-- The dashes at the front of an argument decide what it can be. -/
def roleOf (level : Option Command) (argument : String) : Role :=
  match argument.toList with
  | ['-'] => .file
  | ['-', '-'] => .separator
  | '-' :: '-' :: _ => longRole level argument
  -- The first letter of a cluster of short options takes effect before the others are read.
  | '-' :: 'h' :: _ => .help
  | '-' :: 'V' :: _ => if level = none then .version else .unknown
  | '-' :: _ => .unknown
  | _ => wordRole level argument

/-- The options that one level of the command line has been given so far. -/
structure Options where
  /-- Whether JSON is asked for. -/
  json : Bool
  /-- Whether the token table is to be left out. -/
  noTokens : Bool
  /-- The file name, if one has been met. -/
  file : Option String
deriving DecidableEq

/-- A level starts without any option. -/
def Options.initial : Options := ⟨false, false, none⟩

/-- Whether a flag has been given. -/
def Options.has (options : Options) : Flag → Bool
  | .json => options.json
  | .noTokens => options.noTokens

/-- Gives a flag. -/
def Options.give (options : Options) : Flag → Options
  | .json => { options with json := true }
  | .noTokens => { options with noTokens := true }

/-- The options as they are, unless they name an empty file. -/
def Options.settled (options : Options) : Except Interruption Options :=
  if options.file = some "" then .error (.misuse .emptyFile) else .ok options

/-- Gives a flag that has not been given before. -/
def Options.giveOnce (options : Options) (flag : Flag) : Except Interruption Options :=
  if options.has flag then .error (.misuse (.repeatedOption flag.spelling))
  else .ok (options.give flag)

/-- Names the file of a level that takes one and has none so far. -/
def Options.nameFile (options : Options) (level : Option Command) (name : String) :
    Except Interruption Options :=
  if options.file.isSome ∨ level = some .version then .error (.misuse (.surplusArgument name))
  else .ok { options with file := some name }

/-- The request of a command whose arguments have all been read. -/
def Command.request (command : Command) (options : Options) : Except Interruption Request :=
  match command, options.file with
  | .version, _ => .ok .version
  | .check, some file => .ok (.check file options.json (!options.noTokens))
  | .tokens, some file => .ok (.tokens file options.json)
  | _, none => .error (.misuse .missingFile)

/--
Reads the arguments of a command.

An empty file name is noticed at the next option or at the end, whichever comes first.
-/
def Command.read (command : Command) (options : Options) (onlyFiles : Bool) :
    List String → Except Interruption Request
  | [] => do command.request (← options.settled)
  | argument :: rest =>
    match if onlyFiles then Role.file else roleOf (some command) argument with
    | .separator => command.read options true rest
    | .file => do command.read (← options.nameFile (some command) argument) onlyFiles rest
    | .flag flag => do command.read (← (← options.settled).giveOnce flag) onlyFiles rest
    | .help => do
      let _ ← options.settled
      .error (.help (.command command))
    | _ => .error (.misuse (.unknownOption argument))

/-- Help is on the program, or on the one topic that the remaining arguments name. -/
def helpOn : List String → Interruption
  | [] => .help .program
  | [name] =>
    match Command.ofName? name with
    | some command => .help (.command command)
    | none => if name = "help" then .help .help else .misuse (.unknownTopic name)
  | name :: next :: _ =>
    -- No topic has topics of its own.
    if name = "help" ∨ (Command.ofName? name).isSome then .misuse (.unknownTopic next)
    else .misuse (.unknownTopic name)

/-- Without a command the program checks the file it is given, if any. -/
def Options.request (options : Options) : Request :=
  match options.file with
  | some file => .check file options.json (!options.noTokens)
  | none => .nothing

/--
Reads the arguments of the program up to its command, which reads the others.

What the program's own level has been given is of no use to a command.
-/
def readProgram (options : Options) (onlyFiles : Bool) :
    List String → Except Interruption Request
  | [] => do return (← options.settled).request
  | argument :: rest =>
    match if onlyFiles then Role.file else roleOf none argument with
    | .command command => do
      let request ← command.read .initial false rest
      let _ ← options.settled
      return request
    | .helpCommand => .error (helpOn rest)
    | .separator => readProgram options true rest
    | .file => do readProgram (← options.nameFile none argument) onlyFiles rest
    | .flag flag => do readProgram (← (← options.settled).giveOnce flag) onlyFiles rest
    | .help => do
      let _ ← options.settled
      .error (.help .program)
    | .version => do
      let _ ← options.settled
      .error .version
    | .unknown => .error (.misuse (.unknownOption argument))

/-- The request that a command line makes, unless its reading is interrupted. -/
def Request.ofArguments (arguments : List String) : Except Interruption Request :=
  readProgram .initial false arguments

end IfStatement
