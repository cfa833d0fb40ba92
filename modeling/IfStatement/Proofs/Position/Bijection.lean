import Mathlib.Algebra.GroupWithZero.Nat
import Mathlib.Data.Set.Function
import IfStatement.Proofs.Position.LineStarts
import IfStatement.Proofs.Position.Order

/-! The offsets of a text and the positions on its lines are two numberings of the same places. -/

namespace IfStatement

/-- A position is in a text when it is on one of its lines, or just behind the end of one. -/
structure Position.InText (position : Position) (text : List Char) : Prop where
  line_pos : 1 ≤ position.line
  column_pos : 1 ≤ position.column
  inside : ∃ content, (linesOf text)[position.line - 1]? = some content ∧
    position.column ≤ content.length + 1

/-- The offset of a position counts the earlier lines with their breaks, and then the columns. -/
def Position.offsetIn (position : Position) (text : List Char) : Nat :=
  (((linesOf text).take (position.line - 1)).map (·.length + 1)).sum + (position.column - 1)

/-- A line starts behind all the lines before it and their breaks. -/
theorem startOfLine_eq_sum (lines : List (List Char)) (line : Nat) :
    startOfLine lines line = ((lines.take line).map (·.length + 1)).sum := by
  induction lines generalizing line with
  | nil => simp [startOfLine]
  | cons first later ih =>
    cases line with
    | zero => simp [startOfLine]
    | succ line =>
      rw [startOfLine_cons, ih, List.take_succ_cons, List.map_cons, List.sum_cons]

/-- The place of an offset is a position in the text, and that position counts to the offset. -/
theorem Position.placeOf_iff {position : Position} {text : List Char} {offset : Nat} :
    position.PlaceOf text offset ↔ position.InText text ∧ offset = position.offsetIn text := by
  rw [Position.offsetIn, ← startOfLine_eq_sum]
  constructor
  · rintro ⟨line, column, inside, counted⟩
    exact ⟨⟨line, column, inside⟩, counted⟩
  · rintro ⟨⟨line, column, inside⟩, counted⟩
    exact ⟨line, column, inside, counted⟩

/-- The position of an offset is in the text. -/
theorem Position.inText_ofOffset {text : List Char} {offset : Nat}
    (inside : offset ≤ text.length) : (Position.ofOffset text offset).InText text :=
  (Position.placeOf_iff.mp (Position.ofOffset_place inside).1).1

/-- Counting up to the position of an offset gives the offset back. -/
theorem Position.offsetIn_ofOffset {text : List Char} {offset : Nat}
    (inside : offset ≤ text.length) : (Position.ofOffset text offset).offsetIn text = offset :=
  (Position.placeOf_iff.mp (Position.ofOffset_place inside).1).2.symm

/-- No position in a text counts further than to the end. -/
theorem Position.InText.offsetIn_le {position : Position} {text : List Char}
    (inText : position.InText text) : position.offsetIn text ≤ text.length := by
  obtain ⟨content, found, within⟩ := inText.inside
  have columnPos := inText.column_pos
  -- The line with its break ends where the next one would start, the last one behind the text.
  have next := startOfLine_succ found
  have line : position.line - 1 + 1 ≤ (linesOf text).length :=
    (List.getElem?_eq_some_iff.mp found).1
  have last := startOfLine_mono (linesOf text) line
  rw [startOfLine_length] at last
  rw [Position.offsetIn, ← startOfLine_eq_sum]
  omega

/-- Each position in a text is the position of the offset to which it counts. -/
theorem Position.InText.ofOffset_offsetIn {position : Position} {text : List Char}
    (inText : position.InText text) :
    Position.ofOffset text (position.offsetIn text) = position :=
  (Position.ofOffset_place inText.offsetIn_le).1.unique (Position.placeOf_iff.mpr ⟨inText, rfl⟩)

/--
Offsets up to the end of a text and positions in it correspond to each other in their order.

Each character but a break stands at the position of its offset, and all offsets past the end
have the position of the end.
-/
theorem Position.ofOffset_bijection (text : List Char) :
    Set.BijOn (Position.ofOffset text) {offset | offset ≤ text.length}
        {position | position.InText text} ∧
      Set.InvOn (Position.offsetIn · text) (Position.ofOffset text)
        {offset | offset ≤ text.length} {position | position.InText text} ∧
      (∀ offset later, offset < later → later ≤ text.length →
        (Position.ofOffset text offset).Before (.ofOffset text later)) ∧
      (∀ offset character, text[offset]? = some character → character ≠ '\n' →
        characterAt? (linesOf text) (Position.ofOffset text offset).line
          (Position.ofOffset text offset).column = some character) ∧
      ∀ offset, text.length < offset →
        Position.ofOffset text offset = .ofOffset text text.length := by
  have inverse : Set.InvOn (Position.offsetIn · text) (Position.ofOffset text)
      {offset | offset ≤ text.length} {position | position.InText text} :=
    ⟨fun _ inside => Position.offsetIn_ofOffset inside, fun _ inText => inText.ofOffset_offsetIn⟩
  refine ⟨?_, inverse, ?_, ?_, ?_⟩
  · exact inverse.bijOn (fun _ inside => Position.inText_ofOffset inside)
      (fun _ inText => inText.offsetIn_le)
  · intro offset later ahead inside
    exact Position.ofOffset_before ahead inside
  · intro offset character here visible
    have inside := (List.getElem?_eq_some_iff.mp here).1
    exact (Position.ofOffset_place (Nat.le_of_lt inside)).2 character here visible
  · intro offset behind
    exact Position.ofOffset_of_length_le (Nat.le_of_lt behind)

end IfStatement
