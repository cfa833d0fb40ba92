import IfStatement.Scanner

/-! A cursor keeps its whole text and takes tokens as slices of it, none of which may be missing. -/

namespace IfStatement

/-- A cursor keeps the whole text, and marks with two offsets what it reads of it. -/
structure Cursor where
  /-- All the characters of the text, read or not. -/
  text : List Char
  /-- The offset at which the current token starts. -/
  start : Nat
  /-- The offset of the next character. -/
  position : Nat

/-- A new cursor stands at the start of its text. -/
def Cursor.ofText (text : List Char) : Cursor := ⟨text, 0, 0⟩

/-- The next character, if there is one. -/
def Cursor.peek? (cursor : Cursor) : Option Char := cursor.text[cursor.position]?

/-- Moving on is never refused, not even behind the end of the text. -/
def Cursor.advance (cursor : Cursor) : Cursor := { cursor with position := cursor.position + 1 }

/-- Moves on as long as there is a next character of the class. -/
def Cursor.advanceWhile (inClass : Char → Bool) (cursor : Cursor) : Cursor :=
  match _ : cursor.peek? with
  | some next => if inClass next then cursor.advance.advanceWhile inClass else cursor
  | none => cursor
termination_by cursor.text.length - cursor.position
decreasing_by
  have inside := (List.getElem?_eq_some_iff.mp ‹cursor.peek? = some next›).1
  simp only [Cursor.advance]
  omega

/-- The span between the two offsets. -/
def Cursor.span (cursor : Cursor) : Span := ⟨cursor.start, cursor.position⟩

/-- The offsets of a cursor are in order and inside its text. -/
structure Cursor.InText (cursor : Cursor) : Prop where
  ordered : cursor.start ≤ cursor.position
  inside : cursor.position ≤ cursor.text.length

instance : DecidablePred Cursor.InText := fun cursor =>
  decidable_of_iff (cursor.start ≤ cursor.position ∧ cursor.position ≤ cursor.text.length)
    ⟨fun ⟨ordered, inside⟩ => ⟨ordered, inside⟩, fun inText => ⟨inText.ordered, inText.inside⟩⟩

/-- The slice between the two offsets, which is missing when they are not in the text. -/
def Cursor.slice? (cursor : Cursor) : Option (List Char) :=
  if cursor.InText then some (cursor.span.slice cursor.text) else none

/-- The token that is spelled by the slice between the two offsets, if there is such a slice. -/
def Cursor.token? (cursor : Cursor) (kindOf : String → TokenKind) :
    Option (Except CheckError Token × Cursor) := do
  let slice ← cursor.slice?
  let lexeme := String.ofList slice
  return (.ok ⟨kindOf lexeme, lexeme, cursor.span⟩, cursor)

/-- The error about a character that starts nothing. -/
def Cursor.refuse (cursor : Cursor) (found : Char) : Except CheckError Token × Cursor :=
  (.error (.invalidCharacter found ⟨cursor.start, cursor.start + 1⟩), cursor)

/-- Reads the token of a sign that the cursor has just moved past. -/
def Cursor.readSign? (cursor : Cursor) (sign : Char) :
    Option (Except CheckError Token × Cursor) :=
  match TokenKind.ofPunctuation? sign with
  | some kind => cursor.token? fun _ => kind
  | none =>
    if sign = '!' then
      if cursor.peek? = some '=' then cursor.advance.token? fun _ => .relationalOperator
      else some (cursor.refuse sign)
    else if sign = '>' ∨ sign = '<' ∨ sign = '=' then
      let ended := if cursor.peek? = some '=' then cursor.advance else cursor
      ended.token? fun _ => .relationalOperator
    else some (cursor.refuse sign)

/-- Reads the next token, unless that takes a slice that is not there. -/
def Cursor.next? (cursor : Cursor) : Option (Except CheckError Token × Cursor) :=
  let begun := { cursor with start := cursor.position }
  match begun.peek? with
  | none => some (.ok ⟨.endOfInput, "", begun.span⟩, begun)
  | some first =>
    if isWhiteSpace first then
      let ended := begun.advanceWhile isWhiteSpace
      some (.ok ⟨.whitespace, "", ended.span⟩, ended)
    else if isAlphabetic first then
      (begun.advanceWhile isAlphanumeric).token? .ofWord
    else if isNumeric first then
      (begun.advanceWhile isNumeric).token? fun _ => .number
    else begun.advance.readSign? first

/-- Moving on while a class lasts stays with the text and does not lead back. -/
theorem Cursor.advanceWhile_forward (inClass : Char → Bool) (cursor : Cursor) :
    (cursor.advanceWhile inClass).text = cursor.text ∧
      cursor.position ≤ (cursor.advanceWhile inClass).position := by
  -- Each character that is passed leads on by one, and whatever comes behind it leads on further.
  fun_induction Cursor.advanceWhile inClass cursor with
  | case1 cursor next found inside ih =>
    obtain ⟨kept, forward⟩ := ih
    exact ⟨kept, Nat.le_of_succ_le forward⟩
  | case2 cursor next found outside => exact ⟨rfl, Nat.le_refl _⟩
  | case3 cursor ended => exact ⟨rfl, Nat.le_refl _⟩

/-- Moving on from a character of the class passes at least that character. -/
theorem Cursor.advanceWhile_passes {inClass : Char → Bool} {cursor : Cursor} {next : Char}
    (found : cursor.peek? = some next) (inside : inClass next = true) :
    (cursor.advanceWhile inClass).text = cursor.text ∧
      cursor.position < (cursor.advanceWhile inClass).position := by
  -- The class goes on from behind the character.
  obtain ⟨kept, forward⟩ := cursor.advance.advanceWhile_forward inClass
  have first : cursor.advanceWhile inClass = cursor.advance.advanceWhile inClass := by
    rw [Cursor.advanceWhile]
    split
    · rename_i character here
      rw [found, Option.some.injEq] at here
      rw [← here, if_pos inside]
    · rename_i ended
      rw [found] at ended
      cases ended
  rw [first]
  exact ⟨kept, forward⟩

/-- Taking a token leaves the cursor where it is. -/
theorem Cursor.eq_of_token? {cursor after : Cursor} {kindOf : String → TokenKind}
    {result : Except CheckError Token} (taken : cursor.token? kindOf = some (result, after)) :
    after = cursor := by
  -- There is no token without the slice, and the slice is taken from where the cursor is.
  unfold Cursor.token? at taken
  cases slice : cursor.slice? with
  | none =>
    rw [slice] at taken
    cases taken
  | some characters =>
    rw [slice] at taken
    cases taken
    rfl

/-- Reading the token of a sign leaves the cursor where it is, or one character further on. -/
theorem Cursor.eq_or_advance_of_readSign? {cursor after : Cursor} {sign : Char}
    {result : Except CheckError Token} (read : cursor.readSign? sign = some (result, after)) :
    after = cursor ∨ after = cursor.advance := by
  -- Only an equals sign that belongs to the sign in front of it is passed.
  unfold Cursor.readSign? at read
  split at read
  · exact .inl (Cursor.eq_of_token? read)
  split at read
  · split at read
    · exact .inr (Cursor.eq_of_token? read)
    · cases read
      exact .inl rfl
  split at read
  · simp only at read
    split at read
    · exact .inr (Cursor.eq_of_token? read)
    · exact .inl (Cursor.eq_of_token? read)
  · cases read
    exact .inl rfl

/-- Where there is a next character, reading stays with the text and passes that character. -/
theorem Cursor.next?_passes {cursor after : Cursor} {first : Char}
    {result : Except CheckError Token} (found : cursor.peek? = some first)
    (read : cursor.next? = some (result, after)) :
    after.text = cursor.text ∧ cursor.position < after.position := by
  have here : Cursor.peek? ⟨cursor.text, cursor.position, cursor.position⟩ = some first := found
  simp only [Cursor.next?, here] at read
  -- The class of the character decides what is read, and all of them pass the character itself.
  split at read
  · rename_i blank
    cases read
    exact Cursor.advanceWhile_passes here blank
  split at read
  · rename_i alphabetic
    have alphanumeric : isAlphanumeric first = true := by simp [isAlphanumeric, alphabetic]
    rw [Cursor.eq_of_token? read]
    exact Cursor.advanceWhile_passes here alphanumeric
  split at read
  · rename_i numeric
    rw [Cursor.eq_of_token? read]
    exact Cursor.advanceWhile_passes here numeric
  · rcases Cursor.eq_or_advance_of_readSign? read with rfl | rfl
    · exact ⟨rfl, Nat.lt_succ_self _⟩
    · exact ⟨rfl, Nat.lt_succ_of_lt (Nat.lt_succ_self _)⟩

/-- Reading any token but the end marker moves a cursor on inside its text. -/
theorem Cursor.position_lt_of_next? {cursor after : Cursor} {token : Token}
    (read : cursor.next? = some (.ok token, after)) (more : token.kind ≠ .endOfInput) :
    after.text.length - after.position < cursor.text.length - cursor.position := by
  cases found : cursor.peek? with
  | none =>
    -- Behind the text there is only the end marker to read.
    have ended : Cursor.peek? ⟨cursor.text, cursor.position, cursor.position⟩ = none := found
    simp only [Cursor.next?, ended] at read
    cases read
    exact absurd rfl more
  | some first =>
    obtain ⟨kept, forward⟩ := Cursor.next?_passes found read
    have inside : cursor.position < cursor.text.length :=
      (List.getElem?_eq_some_iff.mp found).1
    rw [kept]
    omega

/--
Reads tokens up to and including the end marker, or up to the first error.

Nothing is read any more once a token has taken a slice that is not there.
-/
def Cursor.tokenize? (cursor : Cursor) : Option (Except CheckError (List Token) × Cursor) :=
  match _ : cursor.next? with
  | none => none
  | some (.error error, after) => some (.error error, after)
  | some (.ok token, after) =>
    if _ : token.kind = .endOfInput then some (.ok [token], after)
    else after.tokenize?.map fun (rest, final) => (rest.map (token :: ·), final)
termination_by cursor.text.length - cursor.position
decreasing_by exact Cursor.position_lt_of_next? ‹_› ‹_›

end IfStatement
