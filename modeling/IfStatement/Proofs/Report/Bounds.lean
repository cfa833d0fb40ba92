import IfStatement.Proofs.Position.Bounds
import IfStatement.Proofs.Report.ErrorPlace
import IfStatement.Proofs.Text.Cursor
import IfStatement.Report.Guarded

/-! Checking a text and listing its tokens take no slice, line or number that is missing. -/

namespace IfStatement

/-- An error inside a text is shown as soon as the offsets of the text fit in machine words. -/
theorem CheckError.PlacedIn.ofError?_eq {error : CheckError} {text : List Char}
    (placed : error.PlacedIn text) (fits : text.length + 1 < UInt64.size) :
    Diagnostic.ofError? (.ofText text) error = some (.ofError (.ofText text) error) := by
  obtain ⟨span, located, inside⟩ := placed
  have found : (LineStarts.ofText text).locate? span.start =
      some ((LineStarts.ofText text).position span.start) :=
    LineStarts.locate?_ofText text (by omega)
  simp only [Diagnostic.ofError?, Diagnostic.ofError, located, found]
  rfl

/-- Any tokens are listed as soon as the offsets behind their starts fit in machine words. -/
theorem tokenTable?_eq (text : List Char) {tokens : List Token}
    (fit : ∀ token ∈ tokens, token.span.start + 1 < UInt64.size) :
    tokenTable? text tokens = some (tokenTable text tokens) := by
  -- The tokens are listed one by one, and each of them is located by itself.
  induction tokens with
  | nil => rfl
  | cons token rest ih =>
    have listed := ih fun other member => fit other (List.mem_cons_of_mem token member)
    have found := LineStarts.locate?_ofText text (fit token List.mem_cons_self)
    rw [tokenTable?] at listed
    simp only [tokenTable?, List.mapM_cons, TableRow.ofToken?, found, listed]
    rfl

/-- A text is checked as soon as its offsets fit in machine words. -/
theorem Report.ofText?_eq {text : List Char} (fits : text.length + 1 < UInt64.size)
    (sourceFile : String) :
    Report.ofText? text sourceFile = some (Report.ofText text sourceFile) := by
  obtain ⟨_, read, _⟩ := (Cursor.ofText text).tokenize?_eq
  rw [Cursor.scanner_ofText] at read
  -- Whatever part of the check fails, its error is inside the text, and so are all tokens.
  cases lexed : tokenize text with
  | error error =>
    have shown := (placedIn_of_tokenize lexed).ofError?_eq fits
    have result : (Scanner.ofText text).tokenize.1 = .error error := lexed
    simp only [Report.ofText?, Report.ofText, read, result, lexed, Option.bind_eq_bind,
      Option.bind_some, shown]
    rfl
  | ok tokens =>
    have result : (Scanner.ofText text).tokenize.1 = .ok tokens := lexed
    have listed : tokenTable? text tokens = some (tokenTable text tokens) := by
      refine tokenTable?_eq text fun token member => ?_
      have inside := span_start_le_of_tokenize lexed token member
      omega
    simp only [Report.ofText?, Report.ofText, read, result, lexed, Option.bind_eq_bind,
      Option.bind_some, listed]
    rcases advanced : (StatementSearch.ofTokens tokens).advance with ⟨error | _, search⟩
    · have failed : checkStatement tokens = .error error := congrArg Prod.fst advanced
      have shown := (placedIn_of_checkStatement lexed failed).ofError?_eq fits
      simp only [Except.map, shown, Option.bind_some]
      rfl
    · cases checked : checkDeclarations tokens with
      | error error =>
        have shown := (placedIn_of_checkDeclarations lexed checked).ofError?_eq fits
        simp only [Except.map, shown, Option.bind_some]
        rfl
      | ok => rfl

/-- Nothing that is done with a text takes a slice, a line start or a number that is missing. -/
structure NothingMissing (text : List Char) : Prop where
  /-- Whatever has been read, both offsets are in the text, and a scanner goes on the same way. -/
  read : ∀ steps, ∃ cursor, (Cursor.ofText text).afterSteps? steps = some cursor ∧
    cursor.text = text ∧ cursor.InText ∧
    cursor.scanner = (Scanner.ofText text).afterSteps steps ∧
    cursor.next?.map Prod.fst = some cursor.scanner.next.1 ∧
    cursor.tokenize?.map Prod.fst = some cursor.scanner.tokenize.1
  /-- Some line has started by any offset, and the last of them is the one that it is on. -/
  started : ∀ offset,
    max ((LineStarts.ofText text).lineOf offset) 1 = (LineStarts.ofText text).lineOf offset ∧
      ∃ start, (LineStarts.ofText text).OnLine offset start
  /-- Any offset is located, be it past the end of the text. -/
  located : ∀ offset, offset + 1 < UInt64.size →
    (LineStarts.ofText text).locate? offset = some ((LineStarts.ofText text).position offset)
  /-- Any tokens are listed, be they from another text or from none. -/
  listed : ∀ tokens : List Token, (∀ token ∈ tokens, token.span.start + 1 < UInt64.size) →
    tokenTable? text tokens = some (tokenTable text tokens)
  /-- The text is checked, whatever its file is called. -/
  checked : text.length + 1 < UInt64.size → ∀ sourceFile,
    Report.ofText? text sourceFile = some (Report.ofText text sourceFile)

/-- A text can be read, checked and listed without taking anything that is missing. -/
theorem nothing_missing (text : List Char) : NothingMissing text where
  read steps := by
    obtain ⟨cursor, read, kept, inText, same⟩ := (Cursor.inText_ofText text).afterSteps steps
    obtain ⟨_, others, _⟩ := cursor.tokenize?_eq
    refine ⟨cursor, read, kept, inText, same, ?_, ?_⟩
    · rw [cursor.next?_eq, Option.map_some]
    · rw [others, Option.map_some]
  started offset := by
    obtain ⟨start, onLine⟩ := LineStarts.onLine_ofText text offset
    exact ⟨Nat.max_eq_left onLine.line_pos, start, onLine⟩
  located _ fits := LineStarts.locate?_ofText text fits
  listed _ fit := tokenTable?_eq text fit
  checked fits sourceFile := Report.ofText?_eq fits sourceFile

/-- The last offset of all that can be located is far behind the two lines of this text. -/
theorem nothing_missing_lastOffset :
    let text := "a;\n#b".toList
    let offset := UInt64.size - 2
    let token : Token := ⟨.identifier, "c", ⟨offset, 0⟩⟩
    (∃ cursor, (Cursor.ofText text).afterSteps? [.one, .all, .all] = some cursor ∧
        cursor.InText ∧ cursor.position = text.length) ∧
      (LineStarts.ofText text).locate? offset = some ⟨2, UInt64.size - 4⟩ ∧
      tokenTable? text [token] = some [⟨.identifier, "c", 2, UInt64.size - 4⟩] ∧
      Report.ofText? text "c" = some (Report.ofText text "c") := by
  intro text offset token
  have fits : offset + 1 < UInt64.size := by decide
  refine ⟨?_, ?_, ?_, (nothing_missing text).checked (by decide +kernel) "c"⟩
  · obtain ⟨cursor, read, _, inText, same, _⟩ := (nothing_missing text).read [.one, .all, .all]
    refine ⟨cursor, read, inText, (congrArg Scanner.position same).trans ?_⟩
    decide +kernel
  · rw [(nothing_missing text).located offset fits]
    decide +kernel
  · rw [(nothing_missing text).listed [token] (List.forall_mem_singleton.mpr fits)]
    decide +kernel

end IfStatement
