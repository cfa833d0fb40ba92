import IfStatement.Proofs.Text.Cutting
import IfStatement.Proofs.Unicode.Classes

/-! The scanner reports exactly the characters that are invalid where they stand. -/

namespace IfStatement

/-- The signs that a token can start with, whatever comes behind them. -/
def freeSigns : List Char := ['(', ')', '{', '}', ';', '>', '<', '=']

/-- A place is invalid when its character is in no class, and no sign that may stand there. -/
def InvalidAt (text : List Char) (index : Nat) : Prop :=
  ∃ character ∈ text[index]?, HasNoClass character ∧ character ∉ freeSigns ∧
    ¬ (character = '!' ∧ text[index + 1]? = some '=')

instance (character : Char) : Decidable (HasNoClass character) :=
  inferInstanceAs (Decidable (_ ∧ _ ∧ _))

instance (text : List Char) : DecidablePred (InvalidAt text) :=
  fun index => Option.decidableExistsMem text[index]?

/-- The invalid places of a text, from left to right. -/
def invalidPositions (text : List Char) : List Nat :=
  (List.range text.length).filter (InvalidAt text)

/-- The error that blames the character at a place of the unread text. -/
def Scanner.errorAt? (scanner : Scanner) (index : Nat) : Option CheckError :=
  scanner.rest[index]?.map fun found =>
    .invalidCharacter found ⟨scanner.position + index, scanner.position + index + 1⟩

/-- An error is read past by one character, so that less text is left. -/
theorem Scanner.next_error_rest_lt {scanner after : Scanner} {error : CheckError}
    (read : scanner.next = (.error error, after)) : after.rest.length < scanner.rest.length := by
  -- At the end there is no error, so that there was a character to skip.
  unfold Scanner.next at read
  split at read
  · cases read
  · rename_i unread
    split at read
    · cases read
    · cases read
      simp [Scanner.skip, unread]

/-- Reads one token after the other up to the end marker, and goes on after errors. -/
def Scanner.readings (scanner : Scanner) : List (Except CheckError Token) :=
  match _ : scanner.next with
  | (.error error, after) => .error error :: after.readings
  | (.ok token, after) =>
    if _ : token.kind = .endOfInput then [.ok token] else .ok token :: after.readings
termination_by scanner.rest.length
decreasing_by
  · exact Scanner.next_error_rest_lt ‹_›
  · exact Scanner.next_rest_lt ‹_› ‹_›

/-- The error of a reading that has failed. -/
def readingError? : Except CheckError Token → Option CheckError
  | .error error => some error
  | .ok _ => none

/-- The errors that are met on the way to the end marker, in their order. -/
def Scanner.errors (scanner : Scanner) : List CheckError :=
  scanner.readings.filterMap readingError?

/-- At the end of the text there are no errors. -/
theorem Scanner.errors_nil (position : Nat) : Scanner.errors ⟨[], position⟩ = [] := by
  rw [Scanner.errors, Scanner.readings]
  simp [Scanner.next, Token.endOfInput, readingError?]

/-- A slice that spells a token adds no error. -/
theorem Scanner.errors_slice {slice follow : List Char} {kind : TokenKind} {lexeme : String}
    (spells : Spells slice follow kind lexeme) (position : Nat) :
    Scanner.errors ⟨slice ++ follow, position⟩ =
      Scanner.errors ⟨follow, position + slice.length⟩ := by
  -- The scanner reads the token of the slice, after which it goes on.
  have read := Scanner.next_slice spells position
  rw [Scanner.errors, Scanner.readings]
  split <;> rename_i same <;> cases read.symm.trans same
  rw [dif_neg spells.kind_ne_endOfInput]
  rfl

/-- A character that starts no lexeme adds its error, and is read past. -/
theorem Scanner.errors_invalid {first : Char} {rest : List Char}
    (invalid : Lexeme.atFront? first rest = none) (position : Nat) :
    Scanner.errors ⟨first :: rest, position⟩ =
      .invalidCharacter first ⟨position, position + 1⟩ :: Scanner.errors ⟨rest, position + 1⟩ := by
  have read : Scanner.next ⟨first :: rest, position⟩ =
      (.error (.invalidCharacter first ⟨position, position + 1⟩), ⟨rest, position + 1⟩) := by
    simp [Scanner.next, invalid, Scanner.skip]
  rw [Scanner.errors, Scanner.readings]
  split <;> rename_i same <;> cases read.symm.trans same
  rfl

/-- Whether a place is invalid does not depend on the text before it. -/
theorem invalidAt_append (front back : List Char) (index : Nat) :
    InvalidAt (front ++ back) (front.length + index) ↔ InvalidAt back index := by
  have shift : ∀ offset, (front ++ back)[front.length + offset]? = back[offset]? := by
    intro offset
    rw [List.getElem?_append_right (Nat.le_add_right _ _), Nat.add_sub_cancel_left]
  rw [InvalidAt, InvalidAt, shift, Nat.add_assoc, shift]

/-- Whether a character is invalid depends on itself and on the one behind it. -/
theorem invalidAt_middle (before : List Char) (character : Char) (after : List Char) :
    InvalidAt (before ++ character :: after) before.length ↔
      HasNoClass character ∧ character ∉ freeSigns ∧
        ¬ (character = '!' ∧ after.head? = some '=') := by
  have place := invalidAt_append before (character :: after) 0
  rw [Nat.add_zero] at place
  rw [place, InvalidAt]
  simp [List.head?_eq_getElem?]

/-- More text leaves places as they are, unless it puts an equals sign behind a final `!`. -/
theorem invalidAt_append_left {front : List Char} {index : Nat} (inside : index < front.length)
    (back : List Char) :
    InvalidAt (front ++ back) index ↔
      InvalidAt front index ∧ ¬ (front.drop index = ['!'] ∧ back.head? = some '=') := by
  obtain ⟨before, character, after, rfl, rfl⟩ :
      ∃ before character after, front = before ++ character :: after ∧ before.length = index :=
    ⟨front.take index, front[index], front.drop (index + 1), by simp, by simp; omega⟩
  rw [List.append_assoc, List.cons_append, invalidAt_middle, invalidAt_middle, List.drop_left]
  -- Only behind the last character is there another one now.
  cases after <;> simp [and_assoc]

/-- The invalid places of a text are those in its front, and those in its back moved on. -/
theorem invalidPositions_append (front back : List Char) :
    invalidPositions (front ++ back) =
      (List.range front.length).filter (InvalidAt (front ++ back)) ++
        (invalidPositions back).map (front.length + ·) := by
  -- The places in the back come after those in the front, moved on by its length.
  rw [invalidPositions, List.length_append, List.range_add, List.filter_append, List.filter_map,
    invalidPositions]
  congr 3
  funext index
  simp only [Function.comp_apply, invalidAt_append]

/-- The errors of a text are those of its front, and those of its back from where that starts. -/
theorem map_errorAt?_append (front back : List Char) (position : Nat) :
    (invalidPositions (front ++ back)).map (Scanner.errorAt? ⟨front ++ back, position⟩) =
      ((List.range front.length).filter (InvalidAt (front ++ back))).map
          (Scanner.errorAt? ⟨front ++ back, position⟩) ++
        (invalidPositions back).map (Scanner.errorAt? ⟨back, position + front.length⟩) := by
  -- A scanner behind the front blames the same characters with the same spans.
  have shift : ∀ index, Scanner.errorAt? ⟨front ++ back, position⟩ (front.length + index) =
      Scanner.errorAt? ⟨back, position + front.length⟩ index := by
    intro index
    simp only [Scanner.errorAt?, Nat.add_assoc]
    rw [List.getElem?_append_right (Nat.le_add_right _ _), Nat.add_sub_cancel_left]
  rw [invalidPositions_append, List.map_append, List.map_map]
  congr 2
  funext index
  exact shift index

/-- A character of some class is valid wherever it stands. -/
private theorem not_invalidAt_of_class {text : List Char} {index : Nat} {character : Char}
    (found : text[index]? = some character) (classed : ¬ HasNoClass character) :
    ¬ InvalidAt text index := by
  rintro ⟨other, member, classless, _⟩
  rw [found] at member
  cases member
  exact classed classless

/-- A free sign is valid wherever it stands, and so is a `!` in front of an equals sign. -/
private theorem not_invalidAt_of_sign {text : List Char} {index : Nat} {character : Char}
    (found : text[index]? = some character)
    (sign : character ∈ freeSigns ∨ character = '!' ∧ text[index + 1]? = some '=') :
    ¬ InvalidAt text index := by
  rintro ⟨other, member, _, notFree, alone⟩
  rw [found] at member
  cases member
  exact sign.elim notFree alone

/-- No place inside a slice that spells a token is invalid. -/
theorem Spells.not_invalidAt {slice follow : List Char} {kind : TokenKind} {lexeme : String}
    (spells : Spells slice follow kind lexeme) {index : Nat} (inside : index < slice.length) :
    ¬ InvalidAt (slice ++ follow) index := by
  have found : (slice ++ follow)[index]? = some slice[index] := by
    rw [List.getElem?_append_left inside, List.getElem?_eq_getElem inside]
  have member : slice[index] ∈ slice := List.getElem_mem inside
  cases spells with
  | blank _ run =>
    refine not_invalidAt_of_class found ?_
    exact fun classless => classless.1 (run.1 _ member)
  | word _ _ run =>
    refine not_invalidAt_of_class found ?_
    intro classless
    have continues := run.1 _ member
    rw [(hasNoClass_iff.mp classless).2] at continues
    cases continues
  | number _ _ _ run =>
    refine not_invalidAt_of_class found ?_
    exact fun classless => classless.2.2 (run.1 _ member)
  | punctuation _ listed =>
    have free : ∀ entry ∈ punctuationSigns, entry.1 ∈ freeSigns := by decide
    rw [List.mem_singleton] at member
    refine not_invalidAt_of_sign found (.inl ?_)
    rw [member]
    exact free _ listed
  | @comparison first more _ _ compares =>
    refine not_invalidAt_of_sign found ?_
    -- The one sign that is not free is the `!` in front of an equals sign.
    rcases compares with long | ⟨short, _⟩
    · simp only [List.mem_cons, List.cons.injEq, List.not_mem_nil, or_false] at long
      rcases long with ⟨rfl, rfl⟩ | ⟨rfl, rfl⟩ | ⟨rfl, rfl⟩ | ⟨rfl, rfl⟩ <;>
        rcases index with _ | _ | index <;> simp_all [freeSigns]
    · simp only [List.mem_cons, List.cons.injEq, List.not_mem_nil, or_false] at short
      rcases short with ⟨rfl, rfl⟩ | ⟨rfl, rfl⟩ | ⟨rfl, rfl⟩ <;> simp_all [freeSigns]

/-- The first character of a text is invalid when no lexeme starts with it. -/
theorem invalidAt_of_atFront? {first : Char} {rest : List Char}
    (invalid : Lexeme.atFront? first rest = none) : InvalidAt (first :: rest) 0 := by
  -- All classes have been tried, and what is left of the signs was none of them.
  obtain ⟨classless, noPunctuation, noComparison⟩ := classless_of_atFront? invalid
  refine ⟨first, rfl, classless, ?_, ?_⟩
  · intro free
    simp only [freeSigns, List.mem_cons, List.not_mem_nil, or_false] at free
    rcases free with rfl | rfl | rfl | rfl | rfl | rfl | rfl | rfl <;>
      simp [TokenKind.ofPunctuation?, startsComparison] at noPunctuation noComparison
  · rintro ⟨rfl, equals⟩
    rw [List.getElem?_cons_succ, ← List.head?_eq_getElem?] at equals
    simp [startsComparison, equals] at noComparison

/--
The errors of the scanner are those of the invalid places of the unread text.

A slice of a token holds no such place, and an error takes up exactly one.
-/
theorem Scanner.errors_eq (scanner : Scanner) :
    scanner.errors.map some = (invalidPositions scanner.rest).map scanner.errorAt? := by
  obtain ⟨text, position⟩ := scanner
  -- The induction is on the length of the text, since a token takes up any number of characters.
  induction length : text.length using Nat.strongRecOn generalizing text position with
  | ind size ih =>
    rcases front_cases text with rfl | ⟨slice, follow, kind, lexeme, rfl, spells⟩ |
      ⟨first, rest, rfl, invalid⟩
    · rw [Scanner.errors_nil]
      rfl
    · have shorter : follow.length < size := by
        have positive := spells.length_pos
        rw [List.length_append] at length
        omega
      have clean : (List.range slice.length).filter (InvalidAt (slice ++ follow)) = [] := by
        rw [List.filter_eq_nil_iff]
        intro index member
        rw [decide_eq_true_eq]
        exact spells.not_invalidAt (List.mem_range.mp member)
      rw [Scanner.errors_slice spells, ih _ shorter follow _ rfl, map_errorAt?_append, clean]
      rfl
    · have shorter : rest.length < size := by
        rw [List.length_cons] at length
        omega
      have blamed : (List.range [first].length).filter (InvalidAt ([first] ++ rest)) = [0] := by
        simpa using invalidAt_of_atFront? invalid
      have split : first :: rest = [first] ++ rest := rfl
      rw [Scanner.errors_invalid invalid, List.map_cons, ih _ shorter rest _ rfl, split,
        map_errorAt?_append, blamed]
      rfl

/-- Tokens that are cut from the front of a text come without errors. -/
theorem Cuts.errors {scanner final : Scanner} {tokens : List Token}
    (cuts : Cuts scanner tokens final) : scanner.errors = final.errors := by
  induction cuts with
  | nil => rfl
  | cons spells _ ih => rw [Scanner.errors_slice spells, ih]

/-- Reading all tokens at once fails with the first of the errors, and succeeds without any. -/
theorem Scanner.tokenize_error_iff (scanner : Scanner) (error : CheckError) :
    scanner.tokenize.1 = .error error ↔ scanner.errors.head? = some error := by
  -- Up to where the cutting stops there is no error, and at that place there is one or the end.
  obtain ⟨tokens, ⟨text, position⟩, cuts, stops⟩ := exists_cuts scanner
  rw [cuts.tokenize, cuts.errors]
  rcases stops with rfl | ⟨first, rest, rfl, invalid⟩
  · rw [Scanner.tokenize_nil, Scanner.errors_nil]
    exact iff_of_false nofun nofun
  · rw [Scanner.tokenize_invalid invalid, Scanner.errors_invalid invalid, List.head?_cons,
      Option.some.injEq]
    exact ⟨fun same => Except.error.inj same, fun same => congrArg Except.error same⟩

/-- Reading all tokens at once succeeds exactly when there is no error. -/
theorem Scanner.tokenize_ok_iff (scanner : Scanner) :
    (∃ tokens, scanner.tokenize.1 = .ok tokens) ↔ scanner.errors = [] := by
  have fails := scanner.tokenize_error_iff
  cases result : scanner.tokenize.1 with
  | ok tokens =>
    refine iff_of_true ⟨tokens, rfl⟩ ?_
    rw [← List.head?_eq_none_iff, Option.eq_none_iff_forall_ne_some]
    intro error first
    rw [← fails, result] at first
    cases first
  | error error =>
    refine iff_of_false nofun ?_
    intro none
    have first := (fails error).mp result
    rw [none] at first
    cases first

/-- An invalid place lies in its text. -/
theorem InvalidAt.lt_length {text : List Char} {index : Nat} (invalid : InvalidAt text index) :
    index < text.length := by
  obtain ⟨character, member, _⟩ := invalid
  exact (List.getElem?_eq_some_iff.mp member).1

/-- The listed places are the invalid ones. -/
theorem mem_invalidPositions {text : List Char} {index : Nat} :
    index ∈ invalidPositions text ↔ InvalidAt text index := by
  rw [invalidPositions, List.mem_filter, List.mem_range, decide_eq_true_eq]
  exact and_iff_right_of_imp InvalidAt.lt_length

/-- The first invalid place has no other one before it. -/
theorem head?_invalidPositions (text : List Char) (index : Nat) :
    (invalidPositions text).head? = some index ↔
      InvalidAt text index ∧ ∀ earlier < index, ¬ InvalidAt text earlier := by
  -- The places are tried in ascending order, so that the first to be listed is the least.
  rw [invalidPositions, List.head?_filter, List.find?_range_eq_some]
  simp only [decide_eq_true_eq, List.mem_range, Bool.not_eq_true', decide_eq_false_iff_not]
  constructor
  · rintro ⟨invalid, _, first⟩
    exact ⟨invalid, first⟩
  · rintro ⟨invalid, first⟩
    exact ⟨invalid, invalid.lt_length, first⟩

/-- The error that blames the character at a place of a text. -/
def invalidCharacterAt? (text : List Char) (index : Nat) : Option CheckError :=
  text[index]?.map fun found => .invalidCharacter found ⟨index, index + 1⟩

/-- The error at a place names its character and spans just that one. -/
theorem invalidCharacterAt?_eq_some_iff {text : List Char} {index : Nat} {error : CheckError} :
    invalidCharacterAt? text index = some error ↔
      ∃ found, text[index]? = some found ∧ error = .invalidCharacter found ⟨index, index + 1⟩ := by
  simp only [invalidCharacterAt?, Option.map_eq_some_iff, eq_comm (a := error)]

/-- The errors of a fresh scanner are those of the invalid places of its text. -/
theorem Scanner.errors_ofText (text : List Char) :
    (Scanner.ofText text).errors.map some =
      (invalidPositions text).map (invalidCharacterAt? text) := by
  have same : (Scanner.ofText text).errorAt? = invalidCharacterAt? text := by
    funext index
    simp [Scanner.errorAt?, invalidCharacterAt?, Scanner.ofText]
  rw [Scanner.errors_eq, same]
  rfl

/-- A text fails with the error of its first invalid place. -/
theorem tokenize_error_iff_first_invalid (text : List Char) (error : CheckError) :
    tokenize text = .error error ↔
      ∃ index, InvalidAt text index ∧ (∀ earlier < index, ¬ InvalidAt text earlier) ∧
        invalidCharacterAt? text index = some error := by
  -- The first of the errors is the one of the first listed place.
  have heads := congrArg List.head? (Scanner.errors_ofText text)
  rw [List.head?_map, List.head?_map] at heads
  have first : tokenize text = .error error ↔
      ∃ index, (invalidPositions text).head? = some index ∧
        invalidCharacterAt? text index = some error := by
    rw [tokenize, Scanner.tokenize_error_iff, ← Option.map_eq_some_iff, ← heads]
    simp
  rw [first]
  constructor
  · rintro ⟨index, least, blamed⟩
    obtain ⟨invalid, before⟩ := (head?_invalidPositions text index).mp least
    exact ⟨index, invalid, before, blamed⟩
  · rintro ⟨index, invalid, before, blamed⟩
    exact ⟨index, (head?_invalidPositions text index).mpr ⟨invalid, before⟩, blamed⟩

/-- A text has tokens when none of its places is invalid. -/
theorem tokenize_ok_iff_no_invalid (text : List Char) :
    (∃ tokens, tokenize text = .ok tokens) ↔ ∀ index, ¬ InvalidAt text index := by
  have errors := Scanner.errors_ofText text
  have none : (Scanner.ofText text).errors = [] ↔ invalidPositions text = [] := by
    rw [← List.map_eq_nil_iff (f := some), errors, List.map_eq_nil_iff]
  rw [tokenize, Scanner.tokenize_ok_iff, none, List.eq_nil_iff_forall_not_mem]
  simp only [mem_invalidPositions]

/--
The errors on the way to the end are those of the invalid places, one for each and in order.

A text therefore has tokens when no place is invalid, and fails with its first invalid place if not.
-/
theorem errors_eq_invalid_places (text : List Char) :
    (Scanner.ofText text).errors.map some =
        (invalidPositions text).map (invalidCharacterAt? text) ∧
      ((∃ tokens, tokenize text = .ok tokens) ↔ ∀ index, ¬ InvalidAt text index) ∧
      ∀ error, tokenize text = .error error ↔
        ∃ index, InvalidAt text index ∧ (∀ earlier < index, ¬ InvalidAt text earlier) ∧
          invalidCharacterAt? text index = some error :=
  ⟨Scanner.errors_ofText text, tokenize_ok_iff_no_invalid text,
    tokenize_error_iff_first_invalid text⟩

end IfStatement
