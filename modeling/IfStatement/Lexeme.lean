import IfStatement.Token
import IfStatement.Unicode.WhiteSpace
import IfStatement.Unicode.Alphabetic
import IfStatement.Unicode.Numeric

/-! A lexeme is the longest run of characters that its first character allows. -/

namespace IfStatement

/-- A character may continue a word when it is alphabetic or numeric. -/
def isAlphanumeric (character : Char) : Bool :=
  isAlphabetic character || isNumeric character

/-- A lexeme is a run of characters from the text together with its kind. -/
structure Lexeme where
  /-- The role of the run. -/
  kind : TokenKind
  /-- The characters of the run, which is never empty. -/
  characters : List Char
deriving DecidableEq

/-- Only the extent of white space matters, so its characters are not kept as a spelling. -/
def Lexeme.spelling (lexeme : Lexeme) : String :=
  if lexeme.kind = .whitespace then "" else String.ofList lexeme.characters

/-- The characters that are a lexeme by themselves, whatever follows them. -/
def TokenKind.ofPunctuation? : Char → Option TokenKind
  | '(' => some .openParen
  | ')' => some .closeParen
  | '{' => some .openBrace
  | '}' => some .closeBrace
  | ';' => some .semicolon
  | _ => none

/-- A comparison starts with one of three signs, or with `!` where `=` comes next. -/
def startsComparison (first : Char) (rest : List Char) : Bool :=
  first == '>' || first == '<' || first == '=' || (first == '!' && rest.head? == some '=')

/-- A comparison also takes the `=` that directly follows its first sign. -/
def comparisonTail (rest : List Char) : List Char :=
  if rest.head? = some '=' then ['='] else []

/--
The lexeme at the front of a nonempty text, if one starts there.

The classes are tried in a fixed order, since a letter number is both alphabetic and numeric.
-/
def Lexeme.atFront? (first : Char) (rest : List Char) : Option Lexeme :=
  if isWhiteSpace first then
    some ⟨.whitespace, first :: rest.takeWhile isWhiteSpace⟩
  else if isAlphabetic first then
    let word := first :: rest.takeWhile isAlphanumeric
    some ⟨.ofWord (String.ofList word), word⟩
  else if isNumeric first then
    some ⟨.number, first :: rest.takeWhile isNumeric⟩
  else match TokenKind.ofPunctuation? first with
    | some kind => some ⟨kind, [first]⟩
    | none =>
      if startsComparison first rest then
        some ⟨.relationalOperator, first :: comparisonTail rest⟩
      else none

/-- A lexeme takes at least its first character. -/
theorem Lexeme.length_pos_of_atFront? {first : Char} {rest : List Char} {lexeme : Lexeme}
    (found : Lexeme.atFront? first rest = some lexeme) : 0 < lexeme.characters.length := by
  -- Every class builds its run by putting the first character in front.
  unfold Lexeme.atFront? at found
  split at found
  · cases found; simp
  split at found
  · cases found; simp
  split at found
  · cases found; simp
  split at found
  · cases found; simp
  split at found
  · cases found; simp
  · cases found

end IfStatement
