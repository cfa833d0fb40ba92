import IfStatement.Proofs.Position.LineStarts
import IfStatement.Proofs.Position.Order
import IfStatement.Proofs.Text.RoundTrip
import IfStatement.Proofs.Text.Tiling
import IfStatement.Report

/-! The rows of a token table lead through the text without a gap, from its start to its end. -/

namespace IfStatement

/-- The position that a row shows. -/
def TableRow.position (row : TableRow) : Position := ⟨row.line, row.column⟩

/-- Between two rows lies the text that starts at the place of one and ends at that of the other. -/
def TextBetween (text : List Char) (row next : TableRow) (between : List Char) : Prop :=
  ∃ before follow, text = before ++ (between ++ follow) ∧
    row.position.PlaceOf text before.length ∧
    next.position.PlaceOf text (before.length + between.length)

/-- What the rows of a token table tell about the text whose tokens they list. -/
structure FaithfulRows (rows : List TableRow) (text : List Char) : Prop where
  /-- The first row is at the start of the text. -/
  starts : ∃ row, rows.head? = some row ∧ row.position = .first
  /-- Every row is at a place of the text. -/
  placed : ∀ row ∈ rows, ∃ offset, row.position.PlaceOf text offset
  /-- Rows come one behind the other. -/
  ascending : (rows.map TableRow.position).Pairwise Position.Before
  /-- A visible row shows what is in its line from its column on, and the next one is behind it. -/
  visible : ∀ index row, rows[index]? = some row → row.kind ≠ .whitespace →
    row.kind ≠ .endOfInput → ∃ content next, (linesOf text)[row.line - 1]? = some content ∧
      row.lexeme.toList <+: content.drop (row.column - 1) ∧ '\n' ∉ row.lexeme.toList ∧
      rows[index + 1]? = some next ∧ next.line = row.line ∧
      next.column = row.column + row.lexeme.length
  /-- Up to the row behind a row of white space, there is white space and nothing else. -/
  blank : ∀ index row, rows[index]? = some row → row.kind = .whitespace →
    ∃ next between, rows[index + 1]? = some next ∧ TextBetween text row next between ∧
      between ≠ [] ∧ ∀ character ∈ between, isWhiteSpace character
  /-- The last row is the end marker, just behind the last character of the last line. -/
  ends : ∃ row content, rows.getLast? = some row ∧ row.kind = .endOfInput ∧
    (linesOf text).getLast? = some content ∧ row.line = (linesOf text).length ∧
    row.column = content.length + 1

/-- The first token that is cut, or else the end marker, starts where the scanner stands. -/
theorem Cuts.next_start {scanner final : Scanner} {lexed : List Token}
    (cuts : Cuts scanner lexed final) :
    ∃ next, (lexed ++ [.endOfInput final.position])[0]? = some next ∧
      next.span.start = scanner.position := by
  -- Nothing is between the scanner and the first token.
  cases cuts with
  | nil => exact ⟨_, rfl, rfl⟩
  | cons => exact ⟨_, rfl, rfl⟩

/-- A token that is cut from a text is spelled by a slice of it, and the next one starts behind. -/
theorem Cuts.slice_at {scanner final : Scanner} {lexed : List Token}
    (cuts : Cuts scanner lexed final) {index : Nat} {token : Token}
    (here : lexed[index]? = some token) :
    ∃ passed slice follow next, scanner.rest = passed ++ (slice ++ follow) ∧
      token.span.start = scanner.position + passed.length ∧
      Spells slice follow token.kind token.lexeme ∧
      (lexed ++ [.endOfInput final.position])[index + 1]? = some next ∧
      next.span.start = scanner.position + passed.length + slice.length := by
  -- The induction is on the cut, and each slice is passed on the way to the later ones.
  induction cuts generalizing index with
  | nil => cases here
  | @cons slice follow position kind lexeme later final spells cuts ih =>
    cases index with
    | zero =>
      cases here
      obtain ⟨next, first, start⟩ := cuts.next_start
      exact ⟨[], slice, follow, next, rfl, rfl, spells, first, start⟩
    | succ index =>
      obtain ⟨passed, inner, behind, next, split, start, spelled, after, stop⟩ := ih here
      refine ⟨slice ++ passed, inner, behind, next, ?_, ?_, spelled, after, ?_⟩
      · simp only at split
        rw [split, List.append_assoc]
      · rw [start, List.length_append]
        simp only
        omega
      · rw [stop, List.length_append]
        simp only
        omega

/-- Any token of a text that has one behind it is no end marker. -/
theorem more_iff_of_tokenize {text : List Char} {tokens : List Token}
    (lexed : tokenize text = .ok tokens) {index : Nat} {token : Token}
    (here : tokens[index]? = some token) :
    token.kind ≠ .endOfInput ↔ index + 1 < tokens.length := by
  -- All tokens but the last are cut from the text.
  obtain ⟨cut, final, cuts, _, rfl⟩ := Scanner.tokenize_eq_ok_iff_cuts.mp lexed
  obtain ⟨inside, _⟩ := List.getElem?_eq_some_iff.mp here
  rw [List.length_append, List.length_singleton] at inside ⊢
  by_cases last : index < cut.length
  · rw [List.getElem?_append_left last] at here
    obtain ⟨_, _, _, _, _, _, spells, _⟩ := cuts.slice_at here
    exact iff_of_true spells.kind_ne_endOfInput (by omega)
  · obtain rfl : index = cut.length := by omega
    rw [List.getElem?_append_right (Nat.le_refl _), Nat.sub_self] at here
    cases here
    exact iff_of_false (fun more => more rfl) (by omega)

/-- A row stands where scanning the text finds the start of its token. -/
theorem position_ofToken {text : List Char} {tokens : List Token}
    (lexed : tokenize text = .ok tokens) : ∀ token ∈ tokens,
    (TableRow.ofToken (.ofText text) token).position = .ofOffset text token.span.start :=
  fun token member => LineStarts.position_ofText (span_start_le_of_tokenize lexed token member)

/-- A slice of the text spells a row, and the next row stands behind that slice. -/
theorem row_slice {text : List Char} {tokens : List Token} (lexed : tokenize text = .ok tokens)
    {index : Nat} {row : TableRow} (here : (tokenTable text tokens)[index]? = some row)
    (more : row.kind ≠ .endOfInput) :
    ∃ before slice follow next, text = before ++ (slice ++ follow) ∧
      Spells slice follow row.kind row.lexeme ∧
      row.position = .ofOffset text before.length ∧
      (tokenTable text tokens)[index + 1]? = some next ∧
      next.position = .ofOffset text (before.length + slice.length) := by
  rw [tokenTable, List.getElem?_map, Option.map_eq_some_iff] at here
  obtain ⟨token, here, rfl⟩ := here
  have behind := (more_iff_of_tokenize lexed here).mp more
  have member := List.mem_of_getElem? here
  have places := position_ofToken lexed
  have place := places token member
  obtain ⟨cut, final, cuts, _, rfl⟩ := Scanner.tokenize_eq_ok_iff_cuts.mp lexed
  -- The row behind it is that of the token that starts where its own token stops.
  rw [List.length_append, List.length_singleton] at behind
  rw [List.getElem?_append_left (by omega)] at here
  obtain ⟨before, slice, follow, next, split, start, spells, after, stop⟩ := cuts.slice_at here
  simp only [Scanner.ofText, Nat.zero_add] at split start stop
  refine ⟨before, slice, follow, .ofToken (.ofText text) next, split, spells, ?_, ?_, ?_⟩
  · rw [place, start]
  · rw [tokenTable, List.getElem?_map, after]
    rfl
  · rw [places next (List.mem_of_getElem? after), stop]

section Rows

variable {text : List Char} {tokens : List Token} {index : Nat} {row : TableRow}

/-- The first row stands at the start of the text. -/
theorem firstRow_of_tokenize (lexed : tokenize text = .ok tokens) :
    ∃ row, (tokenTable text tokens).head? = some row ∧ row.position = .first := by
  have places := position_ofToken lexed
  obtain ⟨cut, final, cuts, _, rfl⟩ := Scanner.tokenize_eq_ok_iff_cuts.mp lexed
  -- The first token starts where the scanner has begun.
  obtain ⟨token, first, start⟩ := cuts.next_start
  refine ⟨.ofToken (.ofText text) token, ?_, ?_⟩
  · rw [tokenTable, List.head?_map, List.head?_eq_getElem?, first]
    rfl
  · rw [places token (List.mem_of_getElem? first), start]
    rfl

/-- Every row stands at a place of the text. -/
theorem row_placed (lexed : tokenize text = .ok tokens) (member : row ∈ tokenTable text tokens) :
    ∃ offset, row.position.PlaceOf text offset := by
  -- No token starts behind the end of the text.
  obtain ⟨token, inside, rfl⟩ := List.mem_map.mp member
  refine ⟨token.span.start, ?_⟩
  rw [position_ofToken lexed token inside]
  exact (Position.ofOffset_place (span_start_le_of_tokenize lexed token inside)).1

/-- A row is that of the end marker exactly when it is the last one. -/
theorem row_more_iff (lexed : tokenize text = .ok tokens)
    (here : (tokenTable text tokens)[index]? = some row) :
    row.kind ≠ .endOfInput ↔ index + 1 < (tokenTable text tokens).length := by
  rw [tokenTable, List.getElem?_map, Option.map_eq_some_iff] at here
  obtain ⟨token, here, rfl⟩ := here
  rw [tokenTable, List.length_map]
  exact more_iff_of_tokenize lexed here

/-- Each row stands before all that are behind it. -/
theorem rows_ascending (lexed : tokenize text = .ok tokens) :
    ((tokenTable text tokens).map TableRow.position).Pairwise Position.Before := by
  -- It is enough to compare neighbours, which are kept apart by a slice that is not empty.
  apply List.IsChain.pairwise
  rw [List.isChain_map, List.isChain_iff_getElem]
  intro index inside
  have here := List.getElem?_eq_getElem (Nat.lt_of_succ_lt inside)
  obtain ⟨before, slice, follow, next, split, spells, place, after, behind⟩ :=
    row_slice lexed here ((row_more_iff lexed here).mpr inside)
  rw [List.getElem?_eq_getElem inside, Option.some.injEq] at after
  have positive := spells.length_pos
  have length := congrArg List.length split
  rw [List.length_append, List.length_append] at length
  rw [after, place, behind]
  exact Position.ofOffset_before (by omega) (by omega)

/-- A visible row shows the text of its line, and the next row stands just behind its lexeme. -/
theorem row_visible (lexed : tokenize text = .ok tokens)
    (here : (tokenTable text tokens)[index]? = some row) (visible : row.kind ≠ .whitespace)
    (more : row.kind ≠ .endOfInput) :
    ∃ content next, (linesOf text)[row.line - 1]? = some content ∧
      row.lexeme.toList <+: content.drop (row.column - 1) ∧ '\n' ∉ row.lexeme.toList ∧
      (tokenTable text tokens)[index + 1]? = some next ∧ next.line = row.line ∧
      next.column = row.column + row.lexeme.length := by
  obtain ⟨before, slice, follow, next, rfl, spells, place, after, behind⟩ :=
    row_slice lexed here more
  -- The slice is the lexeme itself, and a break would be white space.
  obtain ⟨_, _, written, _⟩ := spells_iff.mp spells
  obtain rfl := (writtenAs_visible visible _ _).mp written
  have unbroken : '\n' ∉ row.lexeme.toList := by
    intro member
    have blank : isWhiteSpace '\n' = true := by decide +kernel
    rw [spells.visible visible '\n' member] at blank
    cases blank
  obtain ⟨content, found, shown⟩ := Position.ofOffset_shows before unbroken follow
  rw [← place] at found shown
  rw [Position.ofOffset_unbroken before unbroken follow (Nat.le_refl _), ← place] at behind
  refine ⟨content, next, found, shown, unbroken, after, congrArg Position.line behind, ?_⟩
  rw [← String.length_toList]
  exact congrArg Position.column behind

/-- From a row of white space up to the next row, there is nothing but white space. -/
theorem row_blank (lexed : tokenize text = .ok tokens)
    (here : (tokenTable text tokens)[index]? = some row) (blank : row.kind = .whitespace) :
    ∃ next between, (tokenTable text tokens)[index + 1]? = some next ∧
      TextBetween text row next between ∧ between ≠ [] ∧
      ∀ character ∈ between, isWhiteSpace character := by
  have more : row.kind ≠ .endOfInput := by
    rw [blank]
    decide
  obtain ⟨before, slice, follow, next, split, spells, place, after, behind⟩ :=
    row_slice lexed here more
  -- White space is written as any run of it.
  obtain ⟨_, _, written, _⟩ := spells_iff.mp spells
  rw [Symbol.WrittenAs, if_pos blank] at written
  have length := congrArg List.length split
  rw [List.length_append, List.length_append] at length
  refine ⟨next, slice, after, ⟨before, follow, split, ?_, ?_⟩, written⟩
  · rw [place]
    exact (Position.ofOffset_place (by omega)).1
  · rw [behind]
    exact (Position.ofOffset_place (by omega)).1

/-- The last row is the end marker, which stands at the end of the last line. -/
theorem lastRow_of_tokenize (lexed : tokenize text = .ok tokens) :
    ∃ row content, (tokenTable text tokens).getLast? = some row ∧ row.kind = .endOfInput ∧
      (linesOf text).getLast? = some content ∧ row.line = (linesOf text).length ∧
      row.column = content.length + 1 := by
  have places := position_ofToken lexed
  obtain ⟨cut, final, cuts, ended, rfl⟩ := Scanner.tokenize_eq_ok_iff_cuts.mp lexed
  obtain ⟨content, last, place⟩ := Position.ofOffset_length text
  have marker := places (.endOfInput final.position) (by simp)
  -- The end marker starts where the whole text has been cut.
  have stop : (Token.endOfInput final.position).span.start = text.length :=
    cuts.position_of_ended ended
  rw [stop, place] at marker
  refine ⟨.ofToken (.ofText text) (.endOfInput final.position), content, ?_, rfl, last,
    congrArg Position.line marker, congrArg Position.column marker⟩
  rw [tokenTable, List.map_append]
  exact List.getLast?_concat

end Rows

/-- The token table of a text tells nothing but what is in the text, and omits no part of it. -/
theorem tokenTable_faithful {text : List Char} {tokens : List Token}
    (lexed : tokenize text = .ok tokens) : FaithfulRows (tokenTable text tokens) text where
  starts := firstRow_of_tokenize lexed
  placed _ member := row_placed lexed member
  ascending := rows_ascending lexed
  visible _ _ here visible more := row_visible lexed here visible more
  blank _ _ here blank := row_blank lexed here blank
  ends := lastRow_of_tokenize lexed

set_option maxRecDepth 4000 in
/-- A line separator is white space that ends no line, so that a word behind it is not in front. -/
theorem tokenTable_faithful_lineSeparator :
    let tokens : List Token :=
      [⟨.identifier, "é", ⟨0, 1⟩⟩, ⟨.whitespace, "", ⟨1, 2⟩⟩, ⟨.relationalOperator, "=", ⟨2, 3⟩⟩,
       ⟨.whitespace, "", ⟨3, 6⟩⟩, ⟨.reservedWord, "if", ⟨6, 8⟩⟩, ⟨.semicolon, ";", ⟨8, 9⟩⟩,
       ⟨.endOfInput, "", ⟨9, 9⟩⟩]
    tokenize "é =\n\n\u2028if;".toList = .ok tokens ∧
      (tokenTable "é =\n\n\u2028if;".toList tokens).map TableRow.position =
        [⟨1, 1⟩, ⟨1, 2⟩, ⟨1, 3⟩, ⟨1, 4⟩, ⟨3, 2⟩, ⟨3, 4⟩, ⟨3, 5⟩] ∧
      FaithfulRows (tokenTable "é =\n\n\u2028if;".toList tokens) "é =\n\n\u2028if;".toList := by
  intro tokens
  have lexed : tokenize "é =\n\n\u2028if;".toList = .ok tokens := by cbv
  exact ⟨lexed, by decide +kernel, tokenTable_faithful lexed⟩

end IfStatement
