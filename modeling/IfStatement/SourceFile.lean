/-! A source file gives UTF-8 text, or a reason for which it does not. -/

namespace IfStatement

/-- A read failure is the reason for which a name gives no text. -/
inductive ReadFailure where
  /-- Nothing has this name. -/
  | notFound
  /-- The name is that of a directory. -/
  | isDirectory
  /-- The name goes through a file as if it were a directory. -/
  | notDirectory
  /-- The file holds bytes that are not UTF-8. -/
  | notText
  /-- The file could not be read for another reason. -/
  | other (description : String)
deriving DecidableEq

/-- The message of a read failure names the cause and its system error number. -/
def ReadFailure.message : ReadFailure → String
  | .notFound => "No such file or directory (os error 2)"
  | .isDirectory => "Is a directory (os error 21)"
  | .notDirectory => "Not a directory (os error 20)"
  | .notText => "stream did not contain valid UTF-8"
  | .other description => description

/-- The text of a file is the UTF-8 reading of all its bytes. -/
def decodeText (bytes : ByteArray) : Except ReadFailure String :=
  match String.fromUTF8? bytes with
  | some text => .ok text
  | none => .error .notText

end IfStatement
