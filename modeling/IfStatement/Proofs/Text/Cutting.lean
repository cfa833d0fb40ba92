import IfStatement.Proofs.Text.Spelling
import IfStatement.Scanner

/-! The scanner cuts a text into slices that each spell a token, up to its end or to an error. -/

namespace IfStatement

/-- Tokens are cut from the front of the unread text when consecutive slices of it spell them. -/
inductive Cuts : Scanner → List Token → Scanner → Prop where
  /-- Without a token the scanner stays where it is. -/
  | nil {scanner : Scanner} : Cuts scanner [] scanner
  /-- The first token is spelled by a slice at the front, and the others are cut from the rest. -/
  | cons {slice follow : List Char} {position : Nat} {kind : TokenKind} {lexeme : String}
    {later : List Token} {final : Scanner} (spells : Spells slice follow kind lexeme)
    (cuts : Cuts ⟨follow, position + slice.length⟩ later final) :
    Cuts ⟨slice ++ follow, position⟩
      (⟨kind, lexeme, ⟨position, position + slice.length⟩⟩ :: later) final

/-- No slice spells the end of the text. -/
theorem Spells.kind_ne_endOfInput {slice follow : List Char} {kind : TokenKind} {lexeme : String}
    (spells : Spells slice follow kind lexeme) : kind ≠ .endOfInput := by
  -- Neither words nor signs have the kind of the end marker, and the other kinds are fixed.
  rintro rfl
  cases spells with
  | word _ _ _ classified => simp [IsWordKind] at classified
  | punctuation _ listed => simp [punctuationSigns] at listed

/-- A slice that spells something is not empty. -/
theorem Spells.length_pos {slice follow : List Char} {kind : TokenKind} {lexeme : String}
    (spells : Spells slice follow kind lexeme) : 0 < slice.length := by
  cases spells <;> simp

/-- A slice at the front is what the scanner reads next. -/
theorem Scanner.next_slice {slice follow : List Char} {kind : TokenKind} {lexeme : String}
    (spells : Spells slice follow kind lexeme) (position : Nat) :
    Scanner.next ⟨slice ++ follow, position⟩ =
      (.ok ⟨kind, lexeme, ⟨position, position + slice.length⟩⟩,
        ⟨follow, position + slice.length⟩) := by
  -- The lexeme found at the front is the slice itself, so skipping it leaves what follows.
  obtain ⟨first, rest, text, found, rfl⟩ := spells.atFront?
  have follows : (first :: rest).drop slice.length = follow := by rw [← text, List.drop_left]
  simp only [Scanner.next, text, found, Scanner.token, Scanner.skip, follows]

/-- A text has ended, or starts with a slice that spells a token, or with an invalid character. -/
theorem front_cases (text : List Char) :
    text = [] ∨
      (∃ slice follow kind lexeme, text = slice ++ follow ∧ Spells slice follow kind lexeme) ∨
      ∃ first rest, text = first :: rest ∧ Lexeme.atFront? first rest = none := by
  -- Either a lexeme is found at the first character or nothing can start with it.
  cases text with
  | nil => exact .inl rfl
  | cons first rest =>
    cases found : Lexeme.atFront? first rest with
    | none => exact .inr (.inr ⟨first, rest, rfl, found⟩)
    | some lexeme =>
      obtain ⟨follow, text, spells⟩ := Spells.of_atFront? found
      exact .inr (.inl ⟨_, follow, _, _, text, spells⟩)

/-- An error is all that the scanner makes of a text that starts with it. -/
theorem Scanner.tokenize_of_error {scanner after : Scanner} {error : CheckError}
    (read : scanner.next = (.error error, after)) : scanner.tokenize = (.error error, after) := by
  -- Of the two branches, the one for a token contradicts the error that was read.
  rw [Scanner.tokenize]
  split <;> rename_i same <;> cases read.symm.trans same
  rfl

/-- A token before the end comes first, and the others are read after it. -/
theorem Scanner.tokenize_of_ok {scanner after : Scanner} {token : Token}
    (read : scanner.next = (.ok token, after)) (more : token.kind ≠ .endOfInput) :
    scanner.tokenize = (after.tokenize.1.map (token :: ·), after.tokenize.2) := by
  -- Only one side is unfolded, since the other one holds the reading of the rest.
  conv => lhs; rw [Scanner.tokenize]
  split <;> rename_i same <;> cases read.symm.trans same
  rw [dif_neg more]
  split <;> rename_i result <;> rw [result] <;> rfl

/-- The end marker comes last. -/
theorem Scanner.tokenize_of_last {scanner after : Scanner} {token : Token}
    (read : scanner.next = (.ok token, after)) (last : token.kind = .endOfInput) :
    scanner.tokenize = (.ok [token], after) := by
  rw [Scanner.tokenize]
  split <;> rename_i same <;> cases read.symm.trans same
  rw [dif_pos last]

/-- At the end of the text there is nothing but the end marker. -/
theorem Scanner.tokenize_nil (position : Nat) :
    Scanner.tokenize ⟨[], position⟩ = (.ok [.endOfInput position], ⟨[], position⟩) :=
  Scanner.tokenize_of_last rfl rfl

/-- An invalid character at the front ends the reading, and only that character is read past. -/
theorem Scanner.tokenize_invalid {first : Char} {rest : List Char}
    (invalid : Lexeme.atFront? first rest = none) (position : Nat) :
    Scanner.tokenize ⟨first :: rest, position⟩ =
      (.error (.invalidCharacter first ⟨position, position + 1⟩), ⟨rest, position + 1⟩) := by
  -- No lexeme is found, so that the error is all there is.
  apply Scanner.tokenize_of_error
  simp [Scanner.next, invalid, Scanner.skip]

/-- A slice at the front becomes the first token, and the others come from what follows it. -/
theorem Scanner.tokenize_slice {slice follow : List Char} {kind : TokenKind} {lexeme : String}
    (spells : Spells slice follow kind lexeme) (position : Nat) :
    Scanner.tokenize ⟨slice ++ follow, position⟩ =
      ((Scanner.tokenize ⟨follow, position + slice.length⟩).1.map
          (⟨kind, lexeme, ⟨position, position + slice.length⟩⟩ :: ·),
        (Scanner.tokenize ⟨follow, position + slice.length⟩).2) :=
  Scanner.tokenize_of_ok (Scanner.next_slice spells position) spells.kind_ne_endOfInput

/-- Tokens that are cut from the front come before whatever the scanner reads after them. -/
theorem Cuts.tokenize {scanner final : Scanner} {tokens : List Token}
    (cuts : Cuts scanner tokens final) :
    scanner.tokenize = (final.tokenize.1.map (tokens ++ ·), final.tokenize.2) := by
  -- The induction is on the cut, and each slice puts its token in front of the later ones.
  induction cuts with
  | @nil scanner =>
    rcases scanner.tokenize with ⟨_ | _, _⟩ <;> rfl
  | cons spells _ ih =>
    rw [Scanner.tokenize_slice spells, ih]
    rename_i final _
    rcases final.tokenize with ⟨_ | _, _⟩ <;> rfl

/-- Cutting tokens moves the scanner past the characters that they are cut from. -/
theorem Cuts.split {scanner final : Scanner} {tokens : List Token}
    (cuts : Cuts scanner tokens final) :
    ∃ read, scanner.rest = read ++ final.rest ∧
      final.position = scanner.position + read.length := by
  -- Each slice joins the characters that were read for the later tokens.
  induction cuts with
  | nil => exact ⟨[], rfl, rfl⟩
  | @cons slice follow _ _ _ _ _ _ _ ih =>
    obtain ⟨read, rest, position⟩ := ih
    simp only at rest position
    refine ⟨slice ++ read, by simp [rest], ?_⟩
    rw [position, List.length_append, Nat.add_assoc]

/-- No token is cut from a text that has ended. -/
theorem Cuts.eq_nil_of_ended {scanner final : Scanner} {lexed : List Token}
    (cuts : Cuts scanner lexed final) (ended : scanner.rest = []) : lexed = [] := by
  cases cuts with
  | nil => rfl
  | cons spells _ =>
    have positive := spells.length_pos
    obtain ⟨nothing, _⟩ := List.append_eq_nil_iff.mp ended
    rw [nothing] at positive
    cases positive

/-- Tokens can be cut from every text until it ends or an invalid character comes first. -/
theorem exists_cuts (scanner : Scanner) :
    ∃ tokens final, Cuts scanner tokens final ∧
      (final.rest = [] ∨
        ∃ first rest, final.rest = first :: rest ∧ Lexeme.atFront? first rest = none) := by
  obtain ⟨text, position⟩ := scanner
  -- What follows a slice is a shorter text, and the tokens cut from it come after the first one.
  induction length : text.length using Nat.strongRecOn generalizing text position with
  | ind size ih =>
    rcases front_cases text with rfl | ⟨slice, follow, kind, lexeme, rfl, spells⟩ |
      ⟨first, rest, rfl, invalid⟩
    · exact ⟨[], _, .nil, .inl rfl⟩
    · have shorter : follow.length < size := by
        have positive := spells.length_pos
        rw [List.length_append] at length
        omega
      obtain ⟨later, final, cuts, stops⟩ := ih _ shorter follow (position + slice.length) rfl
      exact ⟨_, final, .cons spells cuts, stops⟩
    · exact ⟨[], _, .nil, .inr ⟨first, rest, rfl, invalid⟩⟩

/-- The scanner succeeds exactly when its whole text is cut, and adds the end marker. -/
theorem Scanner.tokenize_eq_ok_iff_cuts {scanner : Scanner} {tokens : List Token} :
    scanner.tokenize.1 = .ok tokens ↔
      ∃ lexed final, Cuts scanner lexed final ∧ final.rest = [] ∧
        tokens = lexed ++ [.endOfInput final.position] := by
  -- As much as possible is cut, and what stops the cutting decides the outcome.
  constructor
  · intro read
    obtain ⟨lexed, ⟨text, position⟩, cuts, stops⟩ := exists_cuts scanner
    rw [cuts.tokenize] at read
    rcases stops with rfl | ⟨first, rest, rfl, invalid⟩
    · rw [Scanner.tokenize_nil] at read
      cases read
      exact ⟨lexed, _, cuts, rfl, rfl⟩
    · rw [Scanner.tokenize_invalid invalid] at read
      cases read
  · rintro ⟨lexed, ⟨text, position⟩, cuts, rfl, rfl⟩
    rw [cuts.tokenize, Scanner.tokenize_nil]
    rfl

/-- A text that does not become tokens has an invalid character in the place that is blamed. -/
theorem tokenize_error {text : List Char} {error : CheckError}
    (failed : tokenize text = .error error) :
    ∃ found offset, error = .invalidCharacter found ⟨offset, offset + 1⟩ ∧
      text[offset]? = some found := by
  -- What stops the cutting is an invalid character, since the end would be a success.
  obtain ⟨lexed, ⟨rest, position⟩, cuts, stops⟩ := exists_cuts (Scanner.ofText text)
  rw [tokenize, cuts.tokenize] at failed
  rcases stops with rfl | ⟨first, rest, rfl, invalid⟩
  · rw [Scanner.tokenize_nil] at failed
    cases failed
  · rw [Scanner.tokenize_invalid invalid] at failed
    cases failed
    refine ⟨first, position, rfl, ?_⟩
    -- The position of the scanner counts the characters before the invalid one.
    obtain ⟨read, split, behind⟩ := cuts.split
    simp only [Scanner.ofText, Nat.zero_add] at split behind
    rw [split, behind, List.getElem?_append_right (Nat.le_refl _), Nat.sub_self]
    rfl

end IfStatement
