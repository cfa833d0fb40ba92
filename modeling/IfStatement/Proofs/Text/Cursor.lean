import IfStatement.Cursor
import IfStatement.Proofs.Text.Resuming

/-! No slice that a cursor takes is missing from its text, and it reads what a scanner reads. -/

namespace IfStatement

/-- The scanner that has the same text left to read as a cursor. -/
def Cursor.scanner (cursor : Cursor) : Scanner :=
  ⟨cursor.text.drop cursor.position, cursor.position⟩

/-- The next character is the first one of those that are left. -/
theorem Cursor.peek?_eq_head? (cursor : Cursor) :
    cursor.peek? = (cursor.text.drop cursor.position).head? := by
  rw [Cursor.peek?, List.head?_drop]

/-- Behind the next character there is what a cursor has left once it has moved on. -/
theorem Cursor.unread_of_peek? {cursor : Cursor} {next : Char} (found : cursor.peek? = some next) :
    cursor.text.drop cursor.position = next :: cursor.text.drop (cursor.position + 1) := by
  obtain ⟨inside, rfl⟩ := List.getElem?_eq_some_iff.mp found
  exact List.drop_eq_getElem_cons inside

/-- Moving on while a class lasts passes all that can be taken of it. -/
theorem Cursor.advanceWhile_eq (inClass : Char → Bool) (cursor : Cursor) :
    cursor.advanceWhile inClass = { cursor with
      position := cursor.position +
        ((cursor.text.drop cursor.position).takeWhile inClass).length } := by
  -- Each character that is passed is the first one of what can be taken.
  fun_induction Cursor.advanceWhile inClass cursor with
  | case1 cursor next found inside ih =>
    rw [ih, Cursor.unread_of_peek? found, List.takeWhile_cons_of_pos inside, List.length_cons]
    simp only [Cursor.advance]
    congr 1
    omega
  | case2 cursor next found outside =>
    rw [Cursor.unread_of_peek? found, List.takeWhile_cons_of_neg outside]
    rfl
  | case3 cursor ended =>
    rw [Cursor.peek?_eq_head?, List.head?_eq_none_iff] at ended
    rw [ended]
    rfl

section Unread

variable {text slice follow : List Char} {position : Nat}

/-- A slice of what is left is there to be taken. -/
theorem Cursor.token?_eq (unread : text.drop position = slice ++ follow)
    (inside : position ≤ text.length) (kindOf : String → TokenKind) :
    Cursor.token? ⟨text, position, position + slice.length⟩ kindOf =
      some (.ok ⟨kindOf (String.ofList slice), String.ofList slice,
        ⟨position, position + slice.length⟩⟩, ⟨text, position, position + slice.length⟩) := by
  -- What is left from the offset on has room for the slice.
  have lengths := congrArg List.length unread
  rw [List.length_drop, List.length_append] at lengths
  have inText : Cursor.InText ⟨text, position, position + slice.length⟩ :=
    ⟨Nat.le_add_right position slice.length, by
      show position + slice.length ≤ text.length
      omega⟩
  have taken : (text.take (position + slice.length)).drop position = slice := by
    rw [List.drop_take, unread, Nat.add_sub_cancel_left, List.take_left]
  simp only [Cursor.token?, Cursor.slice?, Cursor.span, Span.slice, if_pos inText, taken]
  rfl

/-- Moving on while a class lasts ends behind the run of that class. -/
theorem Cursor.advanceWhile_run {inClass : Char → Bool} {first : Char} {more : List Char}
    (run : IsRun inClass (first :: more) follow)
    (unread : text.drop position = first :: more ++ follow) (start : Nat) :
    Cursor.advanceWhile inClass ⟨text, start, position⟩ =
      ⟨text, start, position + (first :: more).length⟩ := by
  have starts : inClass first := run.1 first List.mem_cons_self
  rw [Cursor.advanceWhile_eq, unread, List.cons_append, List.takeWhile_cons_of_pos starts,
    run.takeWhile]

/-- A comparison is read with the equals sign that belongs to it, and without one behind it. -/
theorem Cursor.readSign?_comparison {first : Char} {more : List Char}
    (compares : IsComparison (first :: more) follow)
    (unread : text.drop position = first :: more ++ follow) :
    Cursor.readSign? ⟨text, position, position + 1⟩ first =
      Cursor.token? ⟨text, position, position + (first :: more).length⟩
        fun _ => .relationalOperator := by
  have behind : Cursor.peek? ⟨text, position, position + 1⟩ = (more ++ follow).head? := by
    rw [Cursor.peek?_eq_head?, ← List.tail_drop, unread]
    rfl
  -- Both forms of a comparison have few enough first signs to look at each of them.
  rcases compares with long | ⟨short, alone⟩
  · simp only [List.mem_cons, List.cons.injEq, List.not_mem_nil, or_false] at long
    rcases long with ⟨rfl, rfl⟩ | ⟨rfl, rfl⟩ | ⟨rfl, rfl⟩ | ⟨rfl, rfl⟩ <;>
      · rw [Cursor.readSign?, behind]
        rfl
  · simp only [List.mem_cons, List.cons.injEq, List.not_mem_nil, or_false] at short
    rcases short with ⟨rfl, rfl⟩ | ⟨rfl, rfl⟩ | ⟨rfl, rfl⟩ <;>
      · rw [List.nil_append] at behind
        simp only [Cursor.readSign?, TokenKind.ofPunctuation?, behind, if_neg alone]
        rfl

/-- A slice that spells a token is what a cursor reads next. -/
theorem Cursor.next?_slice {kind : TokenKind} {lexeme : String}
    (spells : Spells slice follow kind lexeme) (unread : text.drop position = slice ++ follow)
    (start : Nat) :
    Cursor.next? ⟨text, start, position⟩ =
      some (.ok ⟨kind, lexeme, ⟨position, position + slice.length⟩⟩,
        ⟨text, position, position + slice.length⟩) := by
  have inside : position ≤ text.length := by
    have lengths := congrArg List.length unread
    rw [List.length_drop, List.length_append] at lengths
    have positive := spells.length_pos
    omega
  have here : Cursor.peek? ⟨text, position, position⟩ = (slice ++ follow).head? := by
    rw [Cursor.peek?_eq_head?, unread]
  have taken := Cursor.token?_eq unread inside
  -- Each way to spell a token is one branch of the reading.
  cases spells with
  | blank starts run =>
    simp only [Cursor.next?, here, List.cons_append, List.head?_cons, if_pos starts,
      Cursor.advanceWhile_run run unread]
    rfl
  | word visible starts run classified =>
    simp only [Cursor.next?, here, List.cons_append, List.head?_cons, if_neg visible,
      if_pos starts, Cursor.advanceWhile_run run unread, taken, isWordKind_iff.mp classified]
  | number visible noWord starts run =>
    simp only [Cursor.next?, here, List.cons_append, List.head?_cons, if_neg visible,
      if_neg noWord, if_pos starts, Cursor.advanceWhile_run run unread, taken]
  | punctuation classless listed =>
    obtain ⟨visible, noWord, noNumber⟩ := classless
    have sign := ofPunctuation?_eq_some_iff.mpr listed
    simp only [Cursor.next?, here, List.cons_append, List.head?_cons, if_neg visible,
      if_neg noWord, if_neg noNumber, Cursor.readSign?, sign]
    exact taken _
  | comparison classless compares =>
    obtain ⟨visible, noWord, noNumber⟩ := classless
    simp only [Cursor.next?, here, List.cons_append, List.head?_cons, if_neg visible,
      if_neg noWord, if_neg noNumber]
    exact (Cursor.readSign?_comparison compares unread).trans (taken _)

/-- A character that starts no lexeme is refused, and the cursor stands just behind it. -/
theorem Cursor.next?_invalid {first : Char} (invalid : Lexeme.atFront? first follow = none)
    (unread : text.drop position = first :: follow) (start : Nat) :
    Cursor.next? ⟨text, start, position⟩ =
      some (.error (.invalidCharacter first ⟨position, position + 1⟩),
        ⟨text, position, position + 1⟩) := by
  have here : Cursor.peek? ⟨text, position, position⟩ = some first := by
    rw [Cursor.peek?_eq_head?, unread]
    rfl
  have behind : Cursor.peek? ⟨text, position, position + 1⟩ = follow.head? := by
    rw [Cursor.peek?_eq_head?, ← List.tail_drop, unread]
    rfl
  -- The character belongs to no class, and it is neither punctuation nor a comparison.
  obtain ⟨⟨visible, noWord, noNumber⟩, noPunctuation, noComparison⟩ := classless_of_atFront? invalid
  simp only [startsComparison, Bool.or_eq_true, Bool.and_eq_true, beq_iff_eq, not_or, not_and]
    at noComparison
  obtain ⟨⟨⟨notGreater, notLess⟩, notEqual⟩, alone⟩ := noComparison
  have noSign : ¬ (first = '>' ∨ first = '<' ∨ first = '=') := by
    simp only [notGreater, notLess, notEqual, or_self, not_false_eq_true]
  have refused : Cursor.readSign? ⟨text, position, position + 1⟩ first =
      some (Cursor.refuse ⟨text, position, position + 1⟩ first) := by
    rw [Cursor.readSign?, noPunctuation, behind]
    by_cases bang : first = '!'
    · simp only [if_pos bang, if_neg (alone bang)]
    · simp only [if_neg bang, if_neg noSign]
  simp only [Cursor.next?, here, if_neg visible, if_neg noWord, if_neg noNumber]
  exact refused

end Unread

/-- A cursor reads what a scanner reads that has the same text left, and moves on as far. -/
theorem Cursor.next?_eq (cursor : Cursor) :
    cursor.next? = some (cursor.scanner.next.1,
      ⟨cursor.text, cursor.position, cursor.scanner.next.2.position⟩) := by
  obtain ⟨text, start, position⟩ := cursor
  -- Nothing is left, or a slice that spells a token, or a character that starts none.
  rcases front_cases (text.drop position) with
    unread | ⟨slice, follow, kind, lexeme, unread, spells⟩ | ⟨first, rest, unread, invalid⟩
  · have ended : Cursor.peek? ⟨text, position, position⟩ = none := by
      rw [Cursor.peek?_eq_head?, unread]
      rfl
    simp only [Cursor.next?, Cursor.scanner, Scanner.next, unread, ended]
    rfl
  · rw [Cursor.next?_slice spells unread start, Cursor.scanner, unread,
      Scanner.next_slice spells position]
  · rw [Cursor.next?_invalid invalid unread start]
    simp only [Cursor.scanner, Scanner.next, unread, invalid, Scanner.skip]

/-- The scanner with the text that is left behind what a cursor has read is the one that read it. -/
theorem Cursor.scanner_next (cursor : Cursor) (start : Nat) :
    (Cursor.mk cursor.text start cursor.scanner.next.2.position).scanner =
      cursor.scanner.next.2 := by
  rcases cursor.scanner.next_cases with ⟨_, read⟩ | ⟨front, follow, _, _, split, _, _, read⟩
  · rw [read]
    rfl
  · have unread : cursor.text.drop cursor.position = front ++ follow := split
    rw [read, Cursor.scanner, ← List.drop_drop, Cursor.scanner]
    simp only [unread, List.drop_left]

/-- Reading a token or an error never leads back. -/
theorem Scanner.position_le_next (scanner : Scanner) :
    scanner.position ≤ scanner.next.2.position := by
  rcases scanner.next_cases with ⟨_, read⟩ | ⟨front, follow, _, _, _, _, _, read⟩
  · simp only [read, Nat.le_refl]
  · simp only [read, Nat.le_add_right]

/-- Where a cursor reads on, so does its scanner, and what is left for both is the same again. -/
theorem Cursor.next_of_next? {cursor after : Cursor} {result : Except CheckError Token}
    (read : cursor.next? = some (result, after)) :
    cursor.scanner.next = (result, after.scanner) ∧ after.text = cursor.text ∧
      after.start ≤ after.position := by
  rw [Cursor.next?_eq, Option.some.injEq, Prod.mk.injEq] at read
  obtain ⟨rfl, rfl⟩ := read
  exact ⟨Prod.ext rfl (cursor.scanner_next cursor.position).symm, rfl,
    cursor.scanner.position_le_next⟩

/-- A cursor reads all the tokens that its scanner reads, and the same is left for both again. -/
theorem Cursor.tokenize?_eq (cursor : Cursor) :
    ∃ after, cursor.tokenize? = some (cursor.scanner.tokenize.1, after) ∧
      after.text = cursor.text ∧ after.start ≤ after.position ∧
      after.scanner = cursor.scanner.tokenize.2 := by
  fun_induction Cursor.tokenize? cursor with
  | case1 cursor missing =>
    rw [Cursor.next?_eq] at missing
    cases missing
  | case2 cursor error after read =>
    obtain ⟨scanned, kept, ordered⟩ := Cursor.next_of_next? read
    rw [Scanner.tokenize_of_error scanned]
    exact ⟨after, rfl, kept, ordered, rfl⟩
  | case3 cursor token after read last =>
    obtain ⟨scanned, kept, ordered⟩ := Cursor.next_of_next? read
    rw [Scanner.tokenize_of_last scanned last]
    exact ⟨after, rfl, kept, ordered, rfl⟩
  | case4 cursor token after read more ih =>
    -- The tokens behind the first one are read from where that one has led.
    obtain ⟨scanned, kept, _⟩ := Cursor.next_of_next? read
    obtain ⟨final, others, keptOn, ordered, same⟩ := ih
    rw [Scanner.tokenize_of_ok scanned more, others]
    exact ⟨final, rfl, keptOn.trans kept, ordered, same⟩

/-- The cursor that a step leaves behind, unless the step takes a slice that is not there. -/
def Cursor.step? (cursor : Cursor) : ScanStep → Option Cursor
  | .one => cursor.next?.map Prod.snd
  | .all => cursor.tokenize?.map Prod.snd

/-- The cursor that some steps leave behind. -/
def Cursor.afterSteps? (cursor : Cursor) (steps : List ScanStep) : Option Cursor :=
  steps.foldlM Cursor.step? cursor

/-- A step of a cursor takes only slices that are there, and is the step of a scanner. -/
theorem Cursor.InText.step {cursor : Cursor} (inText : cursor.InText) (step : ScanStep) :
    ∃ after, cursor.step? step = some after ∧ after.text = cursor.text ∧ after.InText ∧
      after.scanner = cursor.scanner.step step := by
  obtain ⟨after, stepped, kept, ordered, same⟩ : ∃ after, cursor.step? step = some after ∧
      after.text = cursor.text ∧ after.start ≤ after.position ∧
      after.scanner = cursor.scanner.step step := by
    cases step with
    | one =>
      obtain ⟨scanned, kept, ordered⟩ := Cursor.next_of_next? cursor.next?_eq
      exact ⟨_, congrArg (Option.map Prod.snd) cursor.next?_eq, kept, ordered,
        (congrArg Prod.snd scanned).symm⟩
    | all =>
      obtain ⟨after, read, kept, ordered, same⟩ := cursor.tokenize?_eq
      exact ⟨after, congrArg (Option.map Prod.snd) read, kept, ordered, same⟩
  -- No step leads a scanner out of its text, and so none leads the cursor out of it.
  have on : cursor.scanner.On cursor.text := ⟨rfl, inText.inside⟩
  have inside := (on.step step).1.inside
  rw [← same, ← kept] at inside
  exact ⟨after, stepped, kept, ⟨ordered, inside⟩, same⟩

/-- Taken one after the other, steps lead a cursor along its text, as they lead a scanner. -/
theorem Cursor.InText.afterSteps {cursor : Cursor} (inText : cursor.InText)
    (steps : List ScanStep) :
    ∃ after, cursor.afterSteps? steps = some after ∧ after.text = cursor.text ∧ after.InText ∧
      after.scanner = cursor.scanner.afterSteps steps := by
  -- Each step keeps both offsets in the text, so that the next one is not refused either.
  induction steps generalizing cursor with
  | nil => exact ⟨cursor, rfl, rfl, inText, rfl⟩
  | cons step rest ih =>
    obtain ⟨next, stepped, kept, inside, same⟩ := inText.step step
    obtain ⟨after, found, keptOn, insideOn, sameOn⟩ := ih inside
    refine ⟨after, ?_, keptOn.trans kept, insideOn, ?_⟩
    · rw [Cursor.afterSteps?, List.foldlM_cons, stepped]
      exact found
    · rw [sameOn, same]
      rfl

/-- A new cursor is in its text. -/
theorem Cursor.inText_ofText (text : List Char) : (Cursor.ofText text).InText :=
  ⟨Nat.le_refl 0, Nat.zero_le text.length⟩

/-- A new cursor reads what a new scanner reads. -/
theorem Cursor.scanner_ofText (text : List Char) :
    (Cursor.ofText text).scanner = Scanner.ofText text :=
  rfl

end IfStatement
