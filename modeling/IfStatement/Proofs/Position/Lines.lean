import IfStatement.Position

/-! The position of an offset is the place of its character among the lines of the text. -/

namespace IfStatement

/-- The lines of a text, without the breaks that end them. -/
def linesOf (text : List Char) : List (List Char) := text.splitOn '\n'

/-- The offset at which a line starts, when every line before it takes up one more for its break. -/
def startOfLine : List (List Char) → Nat → Nat
  | first :: later, line + 1 => first.length + 1 + startOfLine later line
  | _, _ => 0

/-- A place in a text is a line and a column of it, both counted from one. -/
structure Position.PlaceOf (position : Position) (text : List Char) (offset : Nat) : Prop where
  line_pos : 1 ≤ position.line
  column_pos : 1 ≤ position.column
  /-- The place is on a line, or just behind its last character. -/
  inside : ∃ content, (linesOf text)[position.line - 1]? = some content ∧
    position.column ≤ content.length + 1
  offset_eq : offset = startOfLine (linesOf text) (position.line - 1) + (position.column - 1)

/-- The character at a place among some lines. -/
def characterAt? (lines : List (List Char)) (line column : Nat) : Option Char :=
  lines[line - 1]?.bind fun content => content[column - 1]?

/-- A break ends the line before it. -/
theorem linesOf_break (rest : List Char) : linesOf ('\n' :: rest) = [] :: linesOf rest := by
  rw [linesOf, List.splitOn, List.splitOnP_cons_eq_if_modifyHead]
  rfl

/-- Any other character is put in front of the first line. -/
theorem linesOf_cons {character : Char} (other : character ≠ '\n') (rest : List Char) :
    ∃ first later, linesOf rest = first :: later ∧
      linesOf (character :: rest) = (character :: first) :: later := by
  -- Even an empty text has a first line.
  have nonempty : linesOf rest ≠ [] := List.splitOnP_ne_nil _ _
  obtain ⟨first, later, lines⟩ := List.exists_cons_of_ne_nil nonempty
  refine ⟨first, later, lines, ?_⟩
  rw [linesOf, List.splitOn] at lines
  rw [linesOf, List.splitOn, List.splitOnP_cons_eq_if_modifyHead, lines]
  simp [other]

/-- A text without a break is a single line. -/
theorem linesOf_unbroken {text : List Char} (unbroken : '\n' ∉ text) : linesOf text = [text] := by
  -- Each character is put in front of the one line of those behind it.
  induction text with
  | nil => rfl
  | cons character rest ih =>
    rw [List.mem_cons, not_or] at unbroken
    obtain ⟨other, unbrokenRest⟩ := unbroken
    obtain ⟨first, later, lines, joined⟩ := linesOf_cons (Ne.symm other) rest
    rw [ih unbrokenRest] at lines
    cases lines
    exact joined

/-- No line starts before the first one. -/
theorem startOfLine_zero (lines : List (List Char)) : startOfLine lines 0 = 0 := by
  cases lines <;> rfl

/-- The line behind the first one starts after it and its break. -/
theorem startOfLine_cons (first : List Char) (later : List (List Char)) (line : Nat) :
    startOfLine (first :: later) (line + 1) = first.length + 1 + startOfLine later line := rfl

/--
Scanning some characters passes whole lines first and then a part of the next one.

The scan begins anywhere, so that its column goes on counting as long as no break is passed.
-/
theorem foldl_after_lines (text : List Char) (count : Nat) (inside : count ≤ text.length)
    (line column : Nat) :
    ∃ passed offset content, (linesOf text)[passed]? = some content ∧ offset ≤ content.length ∧
      count = startOfLine (linesOf text) passed + offset ∧
      (∀ character ∈ text[count]?, character ≠ '\n' → content[offset]? = some character) ∧
      (text.take count).foldl Position.after ⟨line, column⟩ =
        ⟨line + passed, if passed = 0 then column + offset else offset + 1⟩ := by
  -- The induction is on the text, of which each character is a break or part of the first line.
  induction text generalizing count line column with
  | nil =>
    have nothing : count = 0 := by simpa using inside
    subst nothing
    exact ⟨0, 0, [], rfl, Nat.le_refl 0, rfl, by simp, rfl⟩
  | cons character rest ih =>
    cases count with
    | zero =>
      -- Nothing is passed, and the first character is where the scan begins.
      by_cases isBreak : character = '\n'
      · subst isBreak
        rw [linesOf_break]
        exact ⟨0, 0, [], rfl, Nat.le_refl 0, rfl, by simp, rfl⟩
      · obtain ⟨first, later, _, lines⟩ := linesOf_cons isBreak rest
        rw [lines]
        exact ⟨0, 0, character :: first, rfl, Nat.zero_le _, rfl, by simp, rfl⟩
    | succ count =>
      have inside : count ≤ rest.length := by simpa using inside
      by_cases isBreak : character = '\n'
      · obtain ⟨passed, offset, content, found, within, counted, here, scanned⟩ :=
          ih count inside (line + 1) 1
        subst isBreak
        rw [linesOf_break]
        refine ⟨passed + 1, offset, content, found, within, ?_, here, ?_⟩
        · rw [startOfLine_cons, List.length_nil]
          omega
        · rw [List.take_succ_cons, List.foldl_cons, Position.after, if_pos rfl, scanned]
          simp only [Nat.add_one_ne_zero, if_false]
          congr 1
          · omega
          · split <;> omega
      · obtain ⟨passed, offset, content, found, within, counted, here, scanned⟩ :=
          ih count inside line (column + 1)
        obtain ⟨first, later, lines, joined⟩ := linesOf_cons isBreak rest
        rw [joined]
        rw [lines] at found counted
        rw [List.take_succ_cons, List.foldl_cons, Position.after, if_neg isBreak, scanned]
        cases passed with
        | zero =>
          -- The character joins the line on which the scan ends.
          cases found
          refine ⟨0, offset + 1, character :: content, rfl, Nat.succ_le_succ within, ?_, here, ?_⟩
          · rw [startOfLine_zero] at counted ⊢
            omega
          · simp only [if_true]
            congr 1
            omega
        | succ passed =>
          refine ⟨passed + 1, offset, content, found, within, ?_, here, ?_⟩
          · rw [startOfLine_cons] at counted ⊢
            rw [List.length_cons]
            omega
          · simp only [Nat.add_one_ne_zero, if_false]

/-- The position of an offset is its place in the text, and that of the character there. -/
theorem Position.ofOffset_place {text : List Char} {offset : Nat} (inside : offset ≤ text.length) :
    (Position.ofOffset text offset).PlaceOf text offset ∧
      ∀ character ∈ text[offset]?, character ≠ '\n' →
        characterAt? (linesOf text) (Position.ofOffset text offset).line
          (Position.ofOffset text offset).column = some character := by
  -- The scan begins at the first place, so that what it has passed is one less than what it counts.
  obtain ⟨passed, column, content, found, within, counted, here, scanned⟩ :=
    foldl_after_lines text offset inside 1 1
  have position : Position.ofOffset text offset = ⟨passed + 1, column + 1⟩ := by
    rw [Position.ofOffset, Position.first, scanned]
    congr 1
    · omega
    · split <;> omega
  rw [position]
  constructor
  · exact ⟨by simp, by simp, ⟨content, found, by simpa using within⟩, counted⟩
  · intro character member visible
    rw [characterAt?, Nat.add_sub_cancel, found, Option.bind_some, Nat.add_sub_cancel]
    exact here character member visible

end IfStatement
