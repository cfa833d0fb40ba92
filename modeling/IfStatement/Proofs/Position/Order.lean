import IfStatement.Proofs.Position.Lines

/-! Later offsets have later positions, and each offset has its only place among the lines. -/

namespace IfStatement

/-- A position comes before another on an earlier line, or further left on the same one. -/
def Position.Before (position later : Position) : Prop :=
  position.line < later.line ∨ position.line = later.line ∧ position.column < later.column

/-- What comes before a position comes before all that is behind it. -/
theorem Position.Before.trans {first second third : Position} (ahead : first.Before second)
    (behind : second.Before third) : first.Before third := by
  -- Only when all three are on one line do the columns decide.
  simp only [Position.Before] at *
  omega

instance : Trans Position.Before Position.Before Position.Before := ⟨Position.Before.trans⟩

/-- Passing over a character leads to a later position. -/
theorem Position.before_after (position : Position) (character : Char) :
    position.Before (position.after character) := by
  -- A break leads to the next line, and anything else to the next column.
  unfold Position.after
  split
  · exact .inl (Nat.lt_succ_self position.line)
  · exact .inr ⟨rfl, Nat.lt_succ_self position.column⟩

/-- Passing over some characters leads to a later position. -/
theorem Position.before_foldl (position : Position) {passed : List Char} (some_ : passed ≠ []) :
    position.Before (passed.foldl Position.after position) := by
  -- The first character already leads on, and the others cannot lead back.
  induction passed generalizing position with
  | nil => exact absurd rfl some_
  | cons character rest ih =>
    rw [List.foldl_cons]
    have ahead := position.before_after character
    by_cases last : rest = []
    · rw [last]
      exact ahead
    · exact ahead.trans (ih (position.after character) last)

/-- Characters without a break among them take up one column each. -/
theorem foldl_after_unbroken {passed : List Char} (unbroken : '\n' ∉ passed)
    (position : Position) :
    passed.foldl Position.after position =
      ⟨position.line, position.column + passed.length⟩ := by
  induction passed generalizing position with
  | nil => rfl
  | cons character rest ih =>
    have other : character ≠ '\n' := fun isBreak => unbroken (by simp [isBreak])
    have others : '\n' ∉ rest := fun member => unbroken (List.mem_cons_of_mem character member)
    rw [List.foldl_cons, Position.after, if_neg other, ih others, List.length_cons]
    congr 1
    simp only
    omega

/-- A scan goes on from the position of the offset that it has come to. -/
theorem Position.ofOffset_add (text : List Char) (offset count : Nat) :
    Position.ofOffset text (offset + count) =
      ((text.drop offset).take count).foldl Position.after (.ofOffset text offset) := by
  -- The characters up to the further offset are those up to the nearer one and those between.
  rw [Position.ofOffset, Position.ofOffset, List.take_add, List.foldl_append]

/-- Behind a slice without a break, the position is as many columns further on. -/
theorem Position.ofOffset_unbroken (before : List Char) {slice : List Char}
    (unbroken : '\n' ∉ slice) (follow : List Char) {count : Nat} (inside : count ≤ slice.length) :
    Position.ofOffset (before ++ (slice ++ follow)) (before.length + count) =
      ⟨(Position.ofOffset (before ++ (slice ++ follow)) before.length).line,
        (Position.ofOffset (before ++ (slice ++ follow)) before.length).column + count⟩ := by
  -- What is passed is a part of the slice.
  have still : '\n' ∉ slice.take count := fun member => unbroken (List.mem_of_mem_take member)
  rw [Position.ofOffset_add, List.drop_left, List.take_append_of_le_length inside,
    foldl_after_unbroken still, List.length_take, Nat.min_eq_left inside]

/-- A slice without a break stands as a whole in the line of its position. -/
theorem Position.ofOffset_shows (before : List Char) {slice : List Char}
    (unbroken : '\n' ∉ slice) (follow : List Char) :
    let text := before ++ (slice ++ follow)
    let position := Position.ofOffset text before.length
    ∃ content, (linesOf text)[position.line - 1]? = some content ∧
      slice <+: content.drop (position.column - 1) := by
  intro text position
  have length : text.length = before.length + (slice.length + follow.length) := by
    simp only [text, List.length_append]
  have place : position.PlaceOf text before.length := (Position.ofOffset_place (by omega)).1
  obtain ⟨content, found, _⟩ := place.inside
  have columnPos := place.column_pos
  refine ⟨content, found, List.prefix_iff_getElem?.mpr ?_⟩
  intro index within
  -- Each character of the slice is shown at its own column of that one line.
  have here : text[before.length + index]? = some slice[index] := by
    rw [List.getElem?_append_right (Nat.le_add_right _ _), Nat.add_sub_cancel_left,
      List.getElem?_append_left within, List.getElem?_eq_getElem within]
  have visible : slice[index] ≠ '\n' := by
    intro isBreak
    exact unbroken (isBreak ▸ List.getElem_mem within)
  have inside : before.length + index ≤ text.length := by omega
  have shown := (Position.ofOffset_place inside).2 slice[index] here visible
  rw [Position.ofOffset_unbroken before unbroken follow (Nat.le_of_lt within), characterAt?,
    found, Option.bind_some] at shown
  rw [List.getElem?_drop, ← shown]
  congr 1
  show position.column - 1 + index = position.column + index - 1
  omega

/-- Further into a text, positions come later. -/
theorem Position.ofOffset_before {text : List Char} {offset later : Nat} (ahead : offset < later)
    (inside : later ≤ text.length) :
    (Position.ofOffset text offset).Before (.ofOffset text later) := by
  -- There is at least one character between the two offsets.
  obtain ⟨count, rfl⟩ := Nat.exists_eq_add_of_le (Nat.le_of_lt ahead)
  rw [Position.ofOffset_add]
  apply Position.before_foldl
  apply List.ne_nil_of_length_pos
  rw [List.length_take, List.length_drop]
  omega

/-- The next line starts behind the characters of a line and its break. -/
theorem startOfLine_succ {lines : List (List Char)} {line : Nat} {content : List Char}
    (found : lines[line]? = some content) :
    startOfLine lines (line + 1) = startOfLine lines line + (content.length + 1) := by
  induction lines generalizing line with
  | nil => cases found
  | cons first later ih =>
    rw [startOfLine_cons]
    cases line with
    | zero =>
      cases found
      rw [startOfLine_zero, startOfLine_zero]
      omega
    | succ line =>
      rw [startOfLine_cons, ih found]
      omega

/-- Lines start in their order. -/
theorem startOfLine_mono (lines : List (List Char)) {line later : Nat} (ordered : line ≤ later) :
    startOfLine lines line ≤ startOfLine lines later := by
  -- Both starts lie behind the first line, or the one in front is at the very start.
  induction lines generalizing line later with
  | nil => exact Nat.zero_le _
  | cons first rest ih =>
    cases line with
    | zero =>
      rw [startOfLine_zero]
      exact Nat.zero_le _
    | succ line =>
      obtain ⟨next, rfl⟩ : ∃ next, later = next + 1 := Nat.exists_eq_succ_of_ne_zero (by omega)
      have behind := ih (Nat.le_of_succ_le_succ ordered)
      rw [startOfLine_cons, startOfLine_cons]
      omega

/-- A line takes up all offsets before the next line, so that no offset is on two lines. -/
theorem startOfLine_unique {lines : List (List Char)} {line other offset further : Nat}
    {content : List Char} (found : lines[line]? = some content) (within : offset ≤ content.length)
    (same : startOfLine lines line + offset = startOfLine lines other + further) :
    other ≤ line := by
  -- Any later line starts behind the last offset of this one.
  apply Nat.le_of_not_lt
  intro later
  have next := startOfLine_succ found
  have start : startOfLine lines (line + 1) ≤ startOfLine lines other :=
    startOfLine_mono lines later
  omega

/-- An offset has no more than one place. -/
theorem Position.PlaceOf.unique {position other : Position} {text : List Char} {offset : Nat}
    (place : position.PlaceOf text offset) (second : other.PlaceOf text offset) :
    position = other := by
  obtain ⟨content, found, within⟩ := place.inside
  obtain ⟨content', found', within'⟩ := second.inside
  have same := place.offset_eq.symm.trans second.offset_eq
  have linePos := place.line_pos
  have linePos' := second.line_pos
  have columnPos := place.column_pos
  have columnPos' := second.column_pos
  -- Neither line can be behind the other, and on one line the columns are the same.
  have below := startOfLine_unique found (by omega) same
  have above := startOfLine_unique found' (by omega) same.symm
  have line : position.line - 1 = other.line - 1 := Nat.le_antisymm above below
  rw [line] at same
  obtain ⟨row, column⟩ := position
  obtain ⟨row', column'⟩ := other
  simp only [Position.mk.injEq] at *
  omega

/-- Behind its last line, a text and one more break would end. -/
theorem startOfLine_length (text : List Char) :
    startOfLine (linesOf text) (linesOf text).length = text.length + 1 := by
  -- Each character is a break, which ends its line, or it makes the first line longer.
  induction text with
  | nil => rfl
  | cons character rest ih =>
    by_cases isBreak : character = '\n'
    · subst isBreak
      rw [linesOf_break, List.length_cons, startOfLine_cons, ih]
      simp only [List.length_nil, List.length_cons]
      omega
    · obtain ⟨first, later, lines, joined⟩ := linesOf_cons isBreak rest
      rw [lines, List.length_cons, startOfLine_cons] at ih
      rw [joined, List.length_cons, startOfLine_cons]
      simp only [List.length_cons]
      omega

/-- The end of a text is just behind the last character of its last line. -/
theorem Position.ofOffset_length (text : List Char) :
    ∃ content, (linesOf text).getLast? = some content ∧
      Position.ofOffset text text.length = ⟨(linesOf text).length, content.length + 1⟩ := by
  have nonempty : linesOf text ≠ [] := List.splitOnP_ne_nil _ _
  have lines : 0 < (linesOf text).length := List.length_pos_iff.mpr nonempty
  obtain ⟨content, last⟩ : ∃ content, (linesOf text).getLast? = some content :=
    ⟨_, List.getLast?_eq_some_getLast nonempty⟩
  refine ⟨content, last, ?_⟩
  -- The place that is claimed is one of the end, and the end has no other.
  have found : (linesOf text)[(linesOf text).length - 1]? = some content := by
    rw [← List.getLast?_eq_getElem?, last]
  have ends := startOfLine_succ found
  rw [Nat.sub_add_cancel lines, startOfLine_length] at ends
  have place : Position.PlaceOf ⟨(linesOf text).length, content.length + 1⟩ text text.length :=
    ⟨lines, Nat.succ_pos _, ⟨content, found, Nat.le_refl _⟩, by simp only; omega⟩
  exact (Position.ofOffset_place (Nat.le_refl text.length)).1.unique place

end IfStatement
