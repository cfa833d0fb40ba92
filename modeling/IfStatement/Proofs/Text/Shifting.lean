import IfStatement.Proofs.Text.Cutting

/-! A scanner reads the same wherever it stands, except that its spans count from its position. -/

namespace IfStatement

/-- A span that lies this much further into a text. -/
def Span.shift (distance : Nat) (span : Span) : Span :=
  ⟨distance + span.start, distance + span.stop⟩

/-- A token that lies this much further into a text. -/
def Token.shift (distance : Nat) (token : Token) : Token :=
  ⟨token.kind, token.lexeme, token.span.shift distance⟩

/-- An error that lies this much further into a text, if it lies in one at all. -/
def CheckError.shift (distance : Nat) : CheckError → CheckError
  | .invalidCharacter found span => .invalidCharacter found (span.shift distance)
  | .unmetCheckpoint checkpoint span => .unmetCheckpoint checkpoint (span.shift distance)
  | .undeclaredVariable name span => .undeclaredVariable name (span.shift distance)
  | .unreadableFile cause => .unreadableFile cause

/-- What is read, or the error, this much further into a text. -/
def shiftResult {α : Type} (shift : Nat → α → α) (distance : Nat) :
    Except CheckError α → Except CheckError α
  | .ok value => .ok (shift distance value)
  | .error error => .error (error.shift distance)

/-- All tokens of a list lie this much further into a text. -/
def shiftTokens (distance : Nat) (tokens : List Token) : List Token :=
  tokens.map (Token.shift distance)

/-- A scanner of the same unread text that has read this much before it. -/
def Scanner.shift (distance : Nat) (scanner : Scanner) : Scanner :=
  ⟨scanner.rest, distance + scanner.position⟩

/-- The next token is read in the same way, and counted from further on. -/
theorem Scanner.next_shift (distance : Nat) (scanner : Scanner) :
    (scanner.shift distance).next =
      (shiftResult Token.shift distance scanner.next.1, scanner.next.2.shift distance) := by
  obtain ⟨text, position⟩ := scanner
  -- What is at the front of the text decides, and the position is only added to.
  cases text with
  | nil => rfl
  | cons first rest =>
    cases found : Lexeme.atFront? first rest with
    | none =>
      simp only [Scanner.next, Scanner.shift, found, Scanner.skip]
      rfl
    | some lexeme =>
      simp only [Scanner.next, Scanner.shift, found, Scanner.skip, Scanner.token, shiftResult,
        Token.shift, Span.shift, Nat.add_assoc]

/-- Tokens are cut in the same way, and counted from further on. -/
theorem Cuts.shift {scanner final : Scanner} {lexed : List Token}
    (cuts : Cuts scanner lexed final) (distance : Nat) :
    Cuts (scanner.shift distance) (shiftTokens distance lexed) (final.shift distance) := by
  -- Whether a slice spells a token does not depend on where the slice is.
  induction cuts with
  | nil => exact .nil
  | @cons slice follow position kind lexeme later final spells cuts ih =>
    -- The slice at the front is counted from the further position, and so is all that follows.
    have rest : Cuts ⟨follow, distance + position + slice.length⟩ (shiftTokens distance later)
        (final.shift distance) := by
      rw [Nat.add_assoc]
      exact ih
    rw [shiftTokens, List.map_cons, Token.shift, Span.shift]
    simp only [← Nat.add_assoc]
    exact .cons spells rest

/-- All tokens are read in the same way, and counted from further on. -/
theorem Scanner.tokenize_shift (distance : Nat) (scanner : Scanner) :
    (scanner.shift distance).tokenize =
      (shiftResult shiftTokens distance scanner.tokenize.1,
        scanner.tokenize.2.shift distance) := by
  -- The two scanners cut the same slices, and stop at the same character or at the end.
  obtain ⟨lexed, ⟨text, position⟩, cuts, stops⟩ := exists_cuts scanner
  rw [(cuts.shift distance).tokenize, cuts.tokenize]
  rcases stops with rfl | ⟨first, rest, rfl, invalid⟩
  · rw [Scanner.shift, Scanner.tokenize_nil, Scanner.tokenize_nil]
    simp only [Except.map, shiftResult, shiftTokens, List.map_append]
    rfl
  · rw [Scanner.shift, Scanner.tokenize_invalid invalid, Scanner.tokenize_invalid invalid]
    rfl

end IfStatement
