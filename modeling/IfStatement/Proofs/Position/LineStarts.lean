import IfStatement.Position

/-! Looking a position up among the line starts gives what scanning the text gives. -/

namespace IfStatement

private theorem lt_of_mem_breakOffsets {text : List Char} {offset start : Nat}
    (member : start ∈ breakOffsets text offset) : offset < start := by
  -- The start that a break leads to is one more than its own offset.
  induction text generalizing offset with
  | nil => simp [breakOffsets] at member
  | cons character rest ih =>
    have later : start ∈ breakOffsets rest (offset + 1) → offset < start :=
      fun member => Nat.lt_trans (Nat.lt_succ_self offset) (ih member)
    by_cases isBreak : character = '\n'
    · rw [breakOffsets, if_pos isBreak, List.mem_cons] at member
      rcases member with rfl | member
      · exact Nat.lt_succ_self offset
      · exact later member
    · rw [breakOffsets, if_neg isBreak] at member
      exact later member

private theorem le_of_mem_breakOffsets {text : List Char} {offset start : Nat}
    (member : start ∈ breakOffsets text offset) : start ≤ offset + text.length := by
  -- A line starts behind a character of the text, or at least just behind its last one.
  induction text generalizing offset with
  | nil => simp [breakOffsets] at member
  | cons character rest ih =>
    rw [List.length_cons]
    have later : start ∈ breakOffsets rest (offset + 1) →
        start ≤ offset + (rest.length + 1) := by
      intro member
      have bound := ih member
      omega
    by_cases isBreak : character = '\n'
    · rw [breakOffsets, if_pos isBreak, List.mem_cons] at member
      rcases member with rfl | member
      · omega
      · exact later member
    · rw [breakOffsets, if_neg isBreak] at member
      exact later member

private theorem breakOffsets_ascending (text : List Char) (offset : Nat) :
    (breakOffsets text offset).Pairwise (· < ·) := by
  -- Later breaks lead to starts behind the one that comes first.
  induction text generalizing offset with
  | nil => exact .nil
  | cons character rest ih =>
    by_cases isBreak : character = '\n'
    · rw [breakOffsets, if_pos isBreak]
      exact .cons (fun _ member => lt_of_mem_breakOffsets member) (ih (offset + 1))
    · rw [breakOffsets, if_neg isBreak]
      exact ih (offset + 1)

/-- Lines start one behind the other, and the first at the start of the text. -/
theorem LineStarts.ofText_ascending (text : List Char) :
    (0 :: breakOffsets text 0).Pairwise (· < ·) :=
  .cons (fun _ member => lt_of_mem_breakOffsets member) (breakOffsets_ascending text 0)

/-- Behind the end of the text there is nothing to scan, so that the position stays as it is. -/
theorem Position.ofOffset_of_length_le {text : List Char} {offset : Nat}
    (behind : text.length ≤ offset) :
    Position.ofOffset text offset = .ofOffset text text.length := by
  rw [Position.ofOffset, Position.ofOffset, List.take_of_length_le behind, List.take_length]

/--
Scanning ends on the line whose start is the last one at or before the offset.

The scan begins anywhere in a text, on a line that has started at or before its place.
-/
theorem foldl_after_line (text : List Char) (count : Nat) (inside : count ≤ text.length)
    (line offset start : Nat) (started : start ≤ offset) :
    ∃ passed begin, (start :: breakOffsets text offset)[passed]? = some begin ∧
      (text.take count).foldl Position.after ⟨line, offset - start + 1⟩ =
        ⟨line + passed, offset + count - begin + 1⟩ ∧
      begin ≤ offset + count ∧
      ∀ next ∈ (start :: breakOffsets text offset)[passed + 1]?, offset + count < next := by
  -- The induction is on the text, and the current line start moves on at every break.
  induction text generalizing count line offset start with
  | nil =>
    obtain rfl : count = 0 := by simpa using inside
    exact ⟨0, start, rfl, rfl, started, by simp [breakOffsets]⟩
  | cons character rest ih =>
    cases count with
    | zero =>
      -- Nothing is scanned, and every break leads behind the place itself.
      refine ⟨0, start, rfl, rfl, started, fun next member => ?_⟩
      exact lt_of_mem_breakOffsets (List.mem_of_getElem? (by simpa using member))
    | succ count =>
      have inside : count ≤ rest.length := by simpa using inside
      by_cases isBreak : character = '\n'
      · -- The break starts a new line just behind itself.
        obtain ⟨passed, begin, found, scanned, reached, before⟩ :=
          ih count inside (line + 1) (offset + 1) (offset + 1) (Nat.le_refl _)
        rw [breakOffsets, if_pos isBreak]
        refine ⟨passed + 1, begin, by simpa using found, ?_, by omega, fun next member => ?_⟩
        · simp only [List.take_succ_cons, List.foldl_cons, Position.after, if_pos isBreak]
          rw [Nat.sub_self, Nat.zero_add] at scanned
          rw [scanned]
          congr 1 <;> omega
        · have behind := before next (by simpa using member)
          omega
      · -- Any other character stays on the line and takes up one of its columns.
        obtain ⟨passed, begin, found, scanned, reached, before⟩ :=
          ih count inside line (offset + 1) start (Nat.le_succ_of_le started)
        rw [breakOffsets, if_neg isBreak]
        refine ⟨passed, begin, found, ?_, by omega, fun next member => ?_⟩
        · simp only [List.take_succ_cons, List.foldl_cons, Position.after, if_neg isBreak]
          rw [Nat.sub_add_comm started] at scanned
          rw [scanned]
          congr 1
          omega
        · have behind := before next member
          omega

/-- Halving the candidates ends at the only place that has the starts up to the offset before it. -/
theorem LineStarts.countUpTo_eq {lines : LineStarts} {offset low high line : Nat}
    (above : low ≤ line) (below : line ≤ high) (bounded : high ≤ lines.offsets.size)
    (started : ∀ index < line, lines.offsets.getD index 0 ≤ offset)
    (pending : ∀ index, line ≤ index → index < lines.offsets.size →
      offset < lines.offsets.getD index 0) :
    lines.countUpTo offset low high = line := by
  -- The place stays between the two ends, and their distance shrinks in every round.
  induction gap : high - low using Nat.strongRecOn generalizing low high with
  | ind size ih =>
    rw [LineStarts.countUpTo]
    by_cases more : low < high
    · simp only [if_pos more]
      by_cases reached : lines.offsets.getD ((low + high) / 2) 0 ≤ offset
      · -- A start that the offset has reached lies before the place.
        rw [if_pos reached]
        have higher : (low + high) / 2 < line := by
          apply Nat.lt_of_not_le
          intro notHigher
          have ahead := pending _ notHigher (by omega)
          omega
        exact ih _ (by omega) (by omega) below bounded rfl
      · rw [if_neg reached]
        -- A start that is still ahead lies at the place or behind it.
        have lower : line ≤ (low + high) / 2 := by
          apply Nat.le_of_not_lt
          intro notLower
          exact reached (started _ notLower)
        exact ih _ (by omega) above lower (by omega) rfl
    -- With no candidate left, both ends meet at the place.
    · rw [if_neg more]
      omega

/-- The line of an offset is found where its start is reached and the next one is not. -/
theorem LineStarts.lineOf_eq {starts : List Nat} (ascending : starts.Pairwise (· < ·))
    {passed begin offset : Nat} (found : starts[passed]? = some begin) (reached : begin ≤ offset)
    (before : ∀ next ∈ starts[passed + 1]?, offset < next) :
    LineStarts.lineOf ⟨starts.toArray⟩ offset = passed + 1 := by
  -- The starts ascend, so that one bound carries over to all on its side.
  obtain ⟨inside, rfl⟩ := List.getElem?_eq_some_iff.mp found
  rw [List.pairwise_iff_getElem] at ascending
  apply LineStarts.countUpTo_eq (Nat.zero_le _) inside (Nat.le_refl _)
  · intro index earlier
    have within : index < starts.length := by omega
    rw [Array.getD_eq_getD_getElem?, List.getElem?_toArray, List.getElem?_eq_getElem within,
      Option.getD_some]
    rcases Nat.lt_or_eq_of_le (Nat.le_of_lt_succ earlier) with lower | rfl
    · have smaller := ascending index passed within inside lower
      omega
    · exact reached
  · intro index later within
    rw [List.size_toArray] at within
    rw [Array.getD_eq_getD_getElem?, List.getElem?_toArray, List.getElem?_eq_getElem within,
      Option.getD_some]
    have nextInside : passed + 1 < starts.length := by omega
    have behind := before starts[passed + 1] (List.getElem?_eq_getElem nextInside)
    rcases Nat.lt_or_eq_of_le later with higher | rfl
    · have larger := ascending (passed + 1) index nextInside within higher
      omega
    · exact behind

/-- The last start that the offset has reached is found by the search, and by scanning the text. -/
theorem LineStarts.lineOf_lastStart (text : List Char) (offset : Nat) :
    ∃ passed begin, (0 :: breakOffsets text 0)[passed]? = some begin ∧
      begin ≤ min offset text.length ∧
      (∀ next ∈ (0 :: breakOffsets text 0)[passed + 1]?, offset < next) ∧
      (LineStarts.ofText text).lineOf offset = passed + 1 ∧
      Position.ofOffset text offset = ⟨passed + 1, min offset text.length - begin + 1⟩ := by
  -- The scan says which start is the last one reached, and the search finds that one.
  obtain ⟨passed, begin, found, scanned, reached, before⟩ :=
    foldl_after_line text (min offset text.length) (Nat.min_le_right _ _) 1 0 0 (Nat.le_refl 0)
  simp only [Nat.zero_add, Nat.sub_self] at scanned reached before
  have pending : ∀ next ∈ (0 :: breakOffsets text 0)[passed + 1]?, offset < next := by
    intro next member
    have ahead := before next member
    have inside := le_of_mem_breakOffsets (List.mem_of_getElem? (by simpa using member))
    omega
  have line : (LineStarts.ofText text).lineOf offset = passed + 1 :=
    LineStarts.lineOf_eq (LineStarts.ofText_ascending text) found (by omega) pending
  refine ⟨passed, begin, found, reached, pending, line, ?_⟩
  rw [← List.take_eq_take_min] at scanned
  rw [Position.ofOffset, Position.first, scanned, Nat.add_comm]

/--
Looking up and scanning both find the last line that has started, and count columns from there.

Only the scan stops counting at the end of the text, behind which no line starts.
-/
theorem LineStarts.position_lastStart (text : List Char) (offset : Nat) :
    ∃ passed begin, (0 :: breakOffsets text 0)[passed]? = some begin ∧
      begin ≤ min offset text.length ∧
      (LineStarts.ofText text).position offset = ⟨passed + 1, offset - begin + 1⟩ ∧
      Position.ofOffset text offset = ⟨passed + 1, min offset text.length - begin + 1⟩ := by
  obtain ⟨passed, begin, found, reached, _, line, scanned⟩ :=
    LineStarts.lineOf_lastStart text offset
  have start : (LineStarts.ofText text).offsets.getD passed 0 = begin := by
    rw [LineStarts.ofText, Array.getD_eq_getD_getElem?, List.getElem?_toArray, found,
      Option.getD_some]
  -- Some line has started by any offset, since the first one starts with the text.
  have unguarded : max (passed + 1) 1 = passed + 1 := Nat.max_eq_left (Nat.le_add_left 1 passed)
  refine ⟨passed, begin, found, reached, ?_, scanned⟩
  simp only [LineStarts.position, line, unguarded, Nat.add_sub_cancel, start]

/-- Up to the end of the text, the line table gives the position that scanning the text gives. -/
theorem LineStarts.position_ofText {text : List Char} {offset : Nat}
    (inside : offset ≤ text.length) :
    (LineStarts.ofText text).position offset = .ofOffset text offset := by
  -- Up to the end, neither of the two has stopped counting.
  obtain ⟨_, _, _, _, located, scanned⟩ := LineStarts.position_lastStart text offset
  rw [located, scanned, Nat.min_eq_left inside]

/--
The line table gives the position that scanning gives, and goes on counting columns past the end.

Behind the end of the text, scanning gives the position of the end for every offset.
-/
theorem LineStarts.position_counts_on (text : List Char) (offset : Nat) :
    (LineStarts.ofText text).position offset =
        ⟨(Position.ofOffset text offset).line,
          (Position.ofOffset text offset).column + (offset - min offset text.length)⟩ ∧
      (offset ≤ text.length →
        (LineStarts.ofText text).position offset = .ofOffset text offset) ∧
      (text.length ≤ offset →
        Position.ofOffset text offset = .ofOffset text text.length ∧
        (LineStarts.ofText text).position offset =
          ⟨(Position.ofOffset text text.length).line,
            (Position.ofOffset text text.length).column + (offset - text.length)⟩) := by
  obtain ⟨passed, begin, _, reached, located, scanned⟩ :=
    LineStarts.position_lastStart text offset
  have general : (LineStarts.ofText text).position offset =
      ⟨(Position.ofOffset text offset).line,
        (Position.ofOffset text offset).column + (offset - min offset text.length)⟩ := by
    rw [located, scanned]
    congr 1
    simp only
    omega
  refine ⟨general, LineStarts.position_ofText, ?_⟩
  intro behind
  have still := Position.ofOffset_of_length_le behind
  rw [still, Nat.min_eq_right behind] at general
  exact ⟨still, general⟩

end IfStatement
