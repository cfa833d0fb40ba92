import IfStatement.Proofs.Text.Spelling

/-! White space is apart from the classes of words and numbers, and so are all the signs. -/

namespace IfStatement

/-- A table covers nothing but the code points in its ranges. -/
theorem exists_range_of_covers {ranges : List (Nat × Nat)} {code : Nat}
    (covered : covers ranges code = true) :
    ∃ range ∈ ranges, range.1 ≤ code ∧ code ≤ range.2 := by
  -- The look-up goes on to later ranges only where the first one ends too early.
  induction ranges with
  | nil => cases covered
  | cons range later ih =>
    obtain ⟨first, last⟩ := range
    simp only [covers, Bool.and_eq_true, Bool.or_eq_true, decide_eq_true_eq] at covered
    obtain ⟨lower, upper | covered⟩ := covered
    · exact ⟨(first, last), List.mem_cons_self, lower, upper⟩
    · obtain ⟨range, member, within⟩ := ih covered
      exact ⟨range, List.mem_cons_of_mem _ member, within⟩

/-- The code points of white space, one by one. -/
def whiteSpaceCodes : List Nat :=
  whiteSpaceRanges.flatMap fun range => List.range' range.1 (range.2 + 1 - range.1)

/-- White space has one of the listed code points. -/
theorem mem_whiteSpaceCodes {character : Char} (blank : isWhiteSpace character = true) :
    character.toNat ∈ whiteSpaceCodes := by
  -- A range lists all the code points from its first to its last.
  obtain ⟨range, member, lower, upper⟩ := exists_range_of_covers blank
  rw [whiteSpaceCodes, List.mem_flatMap]
  refine ⟨range, member, ?_⟩
  rw [List.mem_range'_1]
  omega

/-- White space never continues a word. -/
theorem not_isAlphanumeric_of_isWhiteSpace {character : Char}
    (blank : isWhiteSpace character = true) : isAlphanumeric character = false := by
  -- The listed code points are few enough to look each of them up in both tables.
  have apart : ∀ code ∈ whiteSpaceCodes,
      (covers alphabeticRanges code || covers numericRanges code) = false := by
    decide +kernel
  exact apart character.toNat (mem_whiteSpaceCodes blank)

/-- A character that continues a word is no white space. -/
theorem not_isWhiteSpace_of_isAlphanumeric {character : Char}
    (continues : isAlphanumeric character = true) : isWhiteSpace character = false := by
  cases blank : isWhiteSpace character with
  | false => rfl
  | true =>
    rw [not_isAlphanumeric_of_isWhiteSpace blank] at continues
    cases continues

/-- An alphabetic character can continue a word. -/
theorem isAlphanumeric_of_isAlphabetic {character : Char}
    (alphabetic : isAlphabetic character = true) : isAlphanumeric character = true := by
  rw [isAlphanumeric, alphabetic, Bool.true_or]

/-- A numeric character can continue a word. -/
theorem isAlphanumeric_of_isNumeric {character : Char}
    (numeric : isNumeric character = true) : isAlphanumeric character = true := by
  rw [isAlphanumeric, numeric, Bool.or_true]

/-- The signs of which punctuation and comparisons are made. -/
def signs : List Char := ['(', ')', '{', '}', ';', '!', '>', '<', '=']

/-- No sign belongs to a class. -/
theorem hasNoClass_of_mem_signs {sign : Char} (member : sign ∈ signs) : HasNoClass sign := by
  have classless : signs.all fun sign =>
      !isWhiteSpace sign && !isAlphabetic sign && !isNumeric sign := by
    decide +kernel
  simpa [HasNoClass, and_assoc] using List.all_eq_true.mp classless sign member

/-- A character has no class when it is neither white space nor able to continue a word. -/
theorem hasNoClass_iff {character : Char} :
    HasNoClass character ↔
      isWhiteSpace character = false ∧ isAlphanumeric character = false := by
  simp [HasNoClass, isAlphanumeric]

end IfStatement
