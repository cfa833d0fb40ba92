import IfStatement.Proofs.Position.LineStarts

/-! Locating an offset takes only a line start, a difference and a sum that are there. -/

namespace IfStatement

/-- An offset is on the line with this start, which is the last one that it has reached. -/
structure LineStarts.OnLine (lines : LineStarts) (offset start : Nat) : Prop where
  /-- At least one line has started. -/
  line_pos : 1 ≤ lines.lineOf offset
  /-- No more lines have started than there are. -/
  line_le : lines.lineOf offset ≤ lines.offsets.size
  /-- The last of them has this start. -/
  found : lines.offsets[lines.lineOf offset - 1]? = some start
  /-- The offset has reached the start. -/
  reached : start ≤ offset
  /-- The offset has reached no start behind it. -/
  greatest : ∀ other ∈ lines.offsets, other ≤ offset → other ≤ start

/-- Every offset is on a line of the text, and those past the end are on the last one. -/
theorem LineStarts.onLine_ofText (text : List Char) (offset : Nat) :
    ∃ start, (LineStarts.ofText text).OnLine offset start := by
  obtain ⟨passed, start, found, reached, pending, line, _⟩ :=
    LineStarts.lineOf_lastStart text offset
  have ascending := List.pairwise_iff_getElem.mp (LineStarts.ofText_ascending text)
  obtain ⟨inside, here⟩ := List.getElem?_eq_some_iff.mp found
  refine ⟨start, by omega, ?_, ?_, by omega, ?_⟩
  · rw [line, LineStarts.ofText, List.size_toArray]
    exact inside
  · rw [line, Nat.add_sub_cancel, LineStarts.ofText, List.getElem?_toArray]
    exact found
  · intro other member otherReached
    rw [LineStarts.ofText, List.mem_toArray] at member
    obtain ⟨index, listed, rfl⟩ := List.getElem_of_mem member
    -- A start behind the one that is found would not have been reached.
    rcases Nat.lt_trichotomy index passed with earlier | rfl | later
    · have smaller := ascending index passed listed inside earlier
      omega
    · omega
    · have next : passed + 1 < (0 :: breakOffsets text 0).length := by omega
      have ahead := pending _ (List.getElem?_eq_getElem next)
      rcases Nat.lt_or_eq_of_le later with further | rfl
      · have larger := ascending (passed + 1) index next listed further
        omega
      · exact absurd otherReached (Nat.not_le_of_lt ahead)

/-- Where the line of an offset is known, nothing that locating it takes is missing. -/
theorem LineStarts.OnLine.locate?_eq {lines : LineStarts} {offset start : Nat}
    (onLine : lines.OnLine offset start) (fits : offset + 1 < UInt64.size) :
    lines.locate? offset = some (lines.position offset) := by
  have unguarded : max (lines.lineOf offset) 1 = lines.lineOf offset :=
    Nat.max_eq_left onLine.line_pos
  have reached := onLine.reached
  have column : offset - start + 1 < UInt64.size := by omega
  have begin : lines.offsets.getD (lines.lineOf offset - 1) 0 = start := by
    rw [Array.getD_eq_getD_getElem?, onLine.found, Option.getD_some]
  simp only [LineStarts.locate?, unguarded, subWord?, if_pos onLine.line_pos, if_pos reached,
    addWord?, if_pos column, Option.bind_eq_bind, Option.bind_some, onLine.found,
    LineStarts.position, begin]
  rfl

/-- An offset is located as soon as the next one fits in a machine word. -/
theorem LineStarts.locate?_ofText (text : List Char) {offset : Nat}
    (fits : offset + 1 < UInt64.size) :
    (LineStarts.ofText text).locate? offset = some ((LineStarts.ofText text).position offset) := by
  obtain ⟨_, onLine⟩ := LineStarts.onLine_ofText text offset
  exact onLine.locate?_eq fits

end IfStatement
