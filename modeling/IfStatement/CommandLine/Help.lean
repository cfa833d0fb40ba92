import IfStatement.CommandLine

/-! Help texts describe the program and each of its commands. -/

namespace IfStatement

/-- Each line of a text ends with a line break. -/
def joinLines (lines : List String) : String :=
  String.join (lines.map (· ++ "\n"))

/-- The help text on a topic. -/
def HelpTopic.text : HelpTopic → String
  | .program => joinLines
    ["Tokenize a source file and check its if statement",
     "",
     "Usage: ifcheck [OPTIONS] [FILE] [COMMAND]",
     "",
     "Commands:",
     "  check    Run lexical, syntax and semantic analysis",
     "  tokens   Tokenize a source file and print the token table",
     "  version  Print version information",
     "  help     Print this message or the help of the given subcommand(s)",
     "",
     "Arguments:",
     "  [FILE]  Input source file",
     "",
     "Options:",
     "      --json       Print a JSON report instead of text",
     "      --no-tokens  Do not print the token table",
     "  -h, --help       Print help",
     "  -V, --version    Print version"]
  | .command .check => joinLines
    ["Run lexical, syntax and semantic analysis",
     "",
     "Usage: ifcheck check [OPTIONS] <INPUT>",
     "",
     "Arguments:",
     "  <INPUT>  Input source file",
     "",
     "Options:",
     "      --json       Print a JSON report instead of text",
     "      --no-tokens  Do not print the token table",
     "  -h, --help       Print help"]
  | .command .tokens => joinLines
    ["Tokenize a source file and print the token table",
     "",
     "Usage: ifcheck tokens [OPTIONS] <INPUT>",
     "",
     "Arguments:",
     "  <INPUT>  Input source file",
     "",
     "Options:",
     "      --json  Print the token table as JSON",
     "  -h, --help  Print help"]
  | .command .version => joinLines
    ["Print version information",
     "",
     "Usage: ifcheck version",
     "",
     "Options:",
     "  -h, --help  Print help"]
  | .help => joinLines
    ["Print this message or the help of the given subcommand(s)",
     "",
     "Usage: ifcheck help [COMMAND]...",
     "",
     "Arguments:",
     "  [COMMAND]...  Print help for the subcommand(s)"]

/-- The name and number of this version of the program. -/
def versionText : String := "ifcheck 0.1.0\n"

end IfStatement
