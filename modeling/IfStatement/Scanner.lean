import IfStatement.CheckError
import IfStatement.Lexeme

/-! A scanner cuts a text into tokens from left to right and can go on after an error. -/

namespace IfStatement

/-- A scanner holds the text that is still unread and the offset at which it starts. -/
structure Scanner where
  /-- The characters that are still unread. -/
  rest : List Char
  /-- The number of characters that have been read. -/
  position : Nat
deriving DecidableEq

/-- A new scanner has the whole text before it. -/
def Scanner.ofText (text : List Char) : Scanner := ⟨text, 0⟩

/-- Reading past some characters drops them from the unread text. -/
def Scanner.skip (scanner : Scanner) (count : Nat) : Scanner :=
  ⟨scanner.rest.drop count, scanner.position + count⟩

/-- The token that a lexeme makes when it starts at the position of the scanner. -/
def Scanner.token (scanner : Scanner) (lexeme : Lexeme) : Token :=
  ⟨lexeme.kind, lexeme.spelling,
    ⟨scanner.position, scanner.position + lexeme.characters.length⟩⟩

/--
Reads the next token, which at the end of the text is the end marker again and again.

A character that starts no lexeme is an error, and just that character is read past.
-/
def Scanner.next (scanner : Scanner) : Except CheckError Token × Scanner :=
  match scanner.rest with
  | [] => (.ok (Token.endOfInput scanner.position), scanner)
  | first :: rest =>
    match Lexeme.atFront? first rest with
    | some lexeme => (.ok (scanner.token lexeme), scanner.skip lexeme.characters.length)
    | none =>
      (.error (.invalidCharacter first ⟨scanner.position, scanner.position + 1⟩), scanner.skip 1)

/-- Reading any token but the end marker leaves less text unread. -/
theorem Scanner.next_rest_lt {scanner after : Scanner} {token : Token}
    (read : scanner.next = (.ok token, after)) (more : token.kind ≠ .endOfInput) :
    after.rest.length < scanner.rest.length := by
  unfold Scanner.next at read
  split at read
  -- The end marker is the one token that reads nothing.
  · cases read; exact absurd rfl more
  · rename_i first rest unread
    split at read
    · rename_i lexeme found
      -- Any other token reads its lexeme, which is not empty.
      have positive := Lexeme.length_pos_of_atFront? found
      cases read
      simp only [Scanner.skip, unread, List.length_drop, List.length_cons]
      omega
    · cases read

/--
Reads tokens up to and including the end marker, or up to the first error.

After an error the tokens are lost, but the scanner stays just past the offending character.
-/
def Scanner.tokenize (scanner : Scanner) : Except CheckError (List Token) × Scanner :=
  match _ : scanner.next with
  | (.error error, after) => (.error error, after)
  | (.ok token, after) =>
    if _ : token.kind = .endOfInput then (.ok [token], after)
    else
      match after.tokenize with
      | (.ok tokens, final) => (.ok (token :: tokens), final)
      | (.error error, final) => (.error error, final)
termination_by scanner.rest.length
decreasing_by exact Scanner.next_rest_lt ‹_› ‹_›

/-- The tokens of a text end with the end marker, unless a character starts no lexeme. -/
def tokenize (text : List Char) : Except CheckError (List Token) :=
  (Scanner.ofText text).tokenize.1

end IfStatement
