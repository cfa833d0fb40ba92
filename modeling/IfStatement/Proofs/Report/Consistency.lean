import IfStatement.Proofs.Position.Lines
import IfStatement.Proofs.Report.ErrorPlace
import IfStatement.Proofs.Text.InvalidCharacters

/-! The parts of a report fit together, and its diagnostic stands at what has caused it. -/

namespace IfStatement

/-- The first invalid character of a text has no invalid place before it. -/
structure FirstInvalid (text : List Char) (index : Nat) (found : Char) : Prop where
  found : text[index]? = some found
  invalid : InvalidAt text index
  first : ∀ earlier < index, ¬ InvalidAt text earlier

/-- The full table of a text has a row for each of its tokens, and only the last ends the text. -/
structure FullTable (rows : List TableRow) (text : List Char) : Prop where
  all : ∃ tokens, tokenize text = .ok tokens ∧ rows = tokenTable text tokens
  ended : ∃ before last, rows = before ++ [last] ∧ last.kind = .endOfInput ∧ last.lexeme = "" ∧
    ∀ row ∈ before, row.kind ≠ .endOfInput

/-- The row at a place is the first identifier row with its lexeme. -/
structure FirstListed (rows : List TableRow) (index : Nat) (row : TableRow) : Prop where
  found : rows[index]? = some row
  identifier : row.kind = .identifier
  first : ∀ earlier < index, ∀ other, rows[earlier]? = some other →
    ¬ (other.kind = .identifier ∧ other.lexeme = row.lexeme)

/-- A diagnostic that stands at a row of the token table. -/
def Diagnostic.atRow (phase : Phase) (message : String) (row : TableRow) : Diagnostic :=
  ⟨phase, message, some row.line, some row.column⟩

/-- What a report tells about a text that does not become tokens. -/
structure Report.TellsLexical (report : Report) (text : List Char) : Prop where
  success : report.success = false
  checkpoint : report.checkpoint = none
  tokens : report.tokens = []
  /-- The message quotes the first invalid character, which is what the text has at the place. -/
  diagnostic : ∃ (index : Nat) (found : Char) (position : Position),
    tokenize text = .error (.invalidCharacter found ⟨index, index + 1⟩) ∧
    FirstInvalid text index found ∧ position.PlaceOf text index ∧
    characterAt? (linesOf text) position.line position.column = some found ∧
    report.diagnostic = some ⟨.lexical,
      "Lexical error: invalid character found: '" ++ String.singleton found ++ "'",
      some position.line, some position.column⟩

/-- What a report tells about tokens that do not meet the grammar. -/
structure Report.TellsGrammar (report : Report) (text : List Char) : Prop where
  success : report.success = false
  tokens : FullTable report.tokens text
  /-- The grammar refuses the tokens at the checkpoint of the report. -/
  refused : ∃ tokens checkpoint span, tokenize text = .ok tokens ∧
    checkStatement tokens = .error (.unmetCheckpoint checkpoint span) ∧
    report.checkpoint = some checkpoint
  /-- The message describes the checkpoint of the report, and the place is that of a visible row. -/
  diagnostic : ∃ checkpoint row, report.checkpoint = some checkpoint ∧ row ∈ report.tokens ∧
    row.kind ≠ .whitespace ∧ report.diagnostic =
      some (.atRow .grammar ("Syntax error: failed to " ++ checkpoint.description) row)

/-- What a report tells about a condition that uses an undeclared name. -/
structure Report.TellsDeclaration (report : Report) (text : List Char) : Prop where
  success : report.success = false
  checkpoint : report.checkpoint = some .findCloseBrace
  tokens : FullTable report.tokens text
  /-- The message quotes the refused name, and the place is the first row that mentions it. -/
  diagnostic : ∃ index row, FirstListed report.tokens index row ∧
    (∃ tokens span, tokenize text = .ok tokens ∧ checkStatement tokens = .ok true ∧
      checkDeclarations tokens = .error (.undeclaredVariable row.lexeme span)) ∧
    report.diagnostic = some (.atRow .declaration
      ("Semantic error: variable '" ++ row.lexeme ++ "' used inside 'if' was not declared") row)

/-- What a report tells about a text that passes every part of the check. -/
structure Report.TellsDone (report : Report) (text : List Char) : Prop where
  success : report.success = true
  checkpoint : report.checkpoint = some .findCloseBrace
  tokens : FullTable report.tokens text
  /-- Neither the grammar nor a declaration stands in the way of the tokens. -/
  accepted : ∃ tokens, tokenize text = .ok tokens ∧ checkStatement tokens = .ok true ∧
    checkDeclarations tokens = .ok ()
  diagnostic : report.diagnostic = none

/-- What a report tells about a text when it has come as far as given. -/
def Report.Tells (report : Report) (text : List Char) : Progress → Prop
  | .lexical => report.TellsLexical text
  | .grammar => report.TellsGrammar text
  | .declaration => report.TellsDeclaration text
  | .done => report.TellsDone text

/-- The phase whose error stops a check that has come as far as given. -/
def Progress.stoppedBy? : Progress → Option Phase
  | .lexical => some .lexical
  | .grammar => some .grammar
  | .declaration => some .declaration
  | .done => none

/-- A phase stops a check in one place only. -/
theorem Progress.stoppedBy?_injective {progress other : Progress}
    (same : progress.stoppedBy? = other.stoppedBy?) : progress = other := by
  cases progress <;> cases other <;> first | rfl | cases same

/-- The diagnostic of a report is raised by the phase in which the check has stopped. -/
theorem Report.Tells.phase {report : Report} {text : List Char} {progress : Progress}
    (tells : report.Tells text progress) :
    report.diagnostic.map Diagnostic.phase = progress.stoppedBy? := by
  -- Every case says what its diagnostic is, the phase included.
  cases progress with
  | lexical =>
    obtain ⟨_, _, _, _, _, _, _, diagnostic⟩ := TellsLexical.diagnostic tells
    rw [diagnostic]
    rfl
  | grammar =>
    obtain ⟨_, _, _, _, _, diagnostic⟩ := TellsGrammar.diagnostic tells
    rw [diagnostic]
    rfl
  | declaration =>
    obtain ⟨_, _, _, _, diagnostic⟩ := TellsDeclaration.diagnostic tells
    rw [diagnostic]
    rfl
  | done =>
    rw [TellsDone.diagnostic tells]
    rfl

/-- A report is a success when nothing is left to check. -/
theorem Report.Tells.success {report : Report} {text : List Char} {progress : Progress}
    (tells : report.Tells text progress) : report.success = true ↔ progress = .done := by
  cases progress with
  | lexical => simp [TellsLexical.success tells]
  | grammar => simp [TellsGrammar.success tells]
  | declaration => simp [TellsDeclaration.success tells]
  | done => simp [TellsDone.success tells]

/-- An error that points at a token stands at the row of that token. -/
theorem Diagnostic.ofError_row (lines : LineStarts) {error : CheckError} {token : Token}
    (points : error.span? = some token.span) :
    Diagnostic.ofError lines error =
      .atRow error.phase error.message (.ofToken lines token) := by
  rw [Diagnostic.ofError, points]
  rfl

/-- The table of a text's tokens is the full one. -/
theorem fullTable_tokenTable {text : List Char} {tokens : List Token}
    (lexed : tokenize text = .ok tokens) : FullTable (tokenTable text tokens) text := by
  refine ⟨⟨tokens, lexed, rfl⟩, ?_⟩
  -- No slice of a text spells the end marker, which is put behind all the others.
  obtain ⟨cut, final, cuts, _, rfl⟩ := Scanner.tokenize_eq_ok_iff_cuts.mp lexed
  refine ⟨tokenTable text cut, .ofToken (.ofText text) (.endOfInput final.position), ?_, rfl, rfl,
    ?_⟩
  · rw [tokenTable, List.map_append]
    rfl
  · intro row member
    obtain ⟨token, inside, rfl⟩ := List.mem_map.mp member
    exact (cuts.tiles_ofText.2 token inside).kind_ne_endOfInput

/-- An invalid character is shown at its place among the lines of the text. -/
theorem diagnostic_of_tokenize {text : List Char} {error : CheckError}
    (failed : tokenize text = .error error) :
    ∃ (index : Nat) (found : Char) (position : Position),
      error = .invalidCharacter found ⟨index, index + 1⟩ ∧
      FirstInvalid text index found ∧ position.PlaceOf text index ∧
      characterAt? (linesOf text) position.line position.column = some found ∧
      Diagnostic.ofError (.ofText text) error = ⟨.lexical,
        "Lexical error: invalid character found: '" ++ String.singleton found ++ "'",
        some position.line, some position.column⟩ := by
  obtain ⟨index, invalid, first, blamed⟩ := (tokenize_error_iff_first_invalid text error).mp failed
  obtain ⟨found, here, rfl⟩ := Option.map_eq_some_iff.mp blamed
  have inside : index ≤ text.length := Nat.le_of_lt invalid.lt_length
  -- A line break is white space, so that the character is no part of a break.
  have visible : found ≠ '\n' := by
    rintro rfl
    obtain ⟨character, member, classless, _⟩ := invalid
    rw [here] at member
    cases member
    exact classless.1 rfl
  obtain ⟨place, shown⟩ := Position.ofOffset_place inside
  refine ⟨index, found, .ofOffset text index, rfl, ⟨here, invalid, first⟩, place,
    shown found here visible, ?_⟩
  rw [← LineStarts.position_ofText inside]
  rfl

/-- An unmet checkpoint is shown at a visible row, and is the one at which the search stands. -/
theorem diagnostic_of_advance {text : List Char} {tokens : List Token} {error : CheckError}
    {search : StatementSearch} (lexed : tokenize text = .ok tokens)
    (failed : (StatementSearch.ofTokens tokens).advance = (.error error, search)) :
    ∃ row ∈ tokenTable text tokens, row.kind ≠ .whitespace ∧
      (∃ span, error = .unmetCheckpoint search.checkpoint span) ∧
      Diagnostic.ofError (.ofText text) error = .atRow .grammar
        ("Syntax error: failed to " ++ search.checkpoint.description) row := by
  obtain ⟨read, reached, blamed, split, endless, _, _, refused, rfl, rfl⟩ :=
    StatementSearch.advance_error failed
  obtain ⟨cut, final, _, _, ended⟩ := Scanner.tokenize_eq_ok_iff_cuts.mp lexed
  cases blamed with
  | nil =>
    -- The end marker is a token, and it cannot have been read.
    have marker : Token.endOfInput final.position ∈ read := by
      rw [List.append_nil] at split
      rw [← split, ended]
      exact List.mem_append_right cut List.mem_cons_self
    exact absurd rfl (endless _ marker)
  | cons token rest =>
    have member : token ∈ tokens := by
      rw [split]
      exact List.mem_append_right read List.mem_cons_self
    refine ⟨.ofToken (.ofText text) token, List.mem_map_of_mem member, (refused token rfl).1,
      ⟨_, rfl⟩, ?_⟩
    exact Diagnostic.ofError_row (.ofText text) rfl

/-- A first mention among the tokens is the first one in their table. -/
theorem FirstMention.listed {tokens : List Token} {index : Nat} {token : Token}
    (mention : FirstMention tokens index token) (text : List Char) :
    FirstListed (tokenTable text tokens) index (.ofToken (.ofText text) token) := by
  -- The rows keep the order of the tokens, and each of them its kind and its lexeme.
  refine ⟨?_, mention.identifier, ?_⟩
  · rw [tokenTable, List.getElem?_map, mention.found]
    rfl
  · rintro earlier ahead _ listed ⟨identifier, same⟩
    rw [tokenTable, List.getElem?_map] at listed
    obtain ⟨other, atEarlier, rfl⟩ := Option.map_eq_some_iff.mp listed
    exact mention.first ⟨earlier, ahead, other, atEarlier, identifier, same⟩

/-- An undeclared variable is shown at the first row that mentions it. -/
theorem diagnostic_of_checkDeclarations {tokens : List Token} {error : CheckError}
    (failed : checkDeclarations tokens = .error error) (text : List Char) :
    ∃ index row, FirstListed (tokenTable text tokens) index row ∧
      (∃ span, error = .undeclaredVariable row.lexeme span) ∧
      Diagnostic.ofError (.ofText text) error = .atRow .declaration
        ("Semantic error: variable '" ++ row.lexeme ++ "' used inside 'if' was not declared")
        row := by
  obtain ⟨index, token, use, rfl⟩ := checkDeclarations_error failed
  exact ⟨index, _, use.1.listed text, ⟨_, rfl⟩, Diagnostic.ofError_row (.ofText text) rfl⟩

/-- A report tells what fits the part of the check that it has come to. -/
theorem Report.ofText_tells (text : List Char) (file : String) :
    (Report.ofText text file).Tells text (Report.ofText text file).progress := by
  -- The parts are checked in order, and the first one that fails decides which case it is.
  cases lexed : tokenize text with
  | error error =>
    simp only [Report.ofText, lexed]
    obtain ⟨index, found, position, rfl, invalid, place, shown, diagnostic⟩ :=
      diagnostic_of_tokenize lexed
    exact ⟨rfl, rfl, rfl, index, found, position, lexed, invalid, place, shown,
      congrArg some diagnostic⟩
  | ok tokens =>
    have table := fullTable_tokenTable lexed
    rcases advanced : (StatementSearch.ofTokens tokens).advance with ⟨verdict, search⟩
    have stated : checkStatement tokens = verdict := congrArg Prod.fst advanced
    cases verdict with
    | error error =>
      simp only [Report.ofText, lexed, advanced]
      obtain ⟨row, member, visible, ⟨span, rfl⟩, diagnostic⟩ := diagnostic_of_advance lexed advanced
      exact ⟨rfl, table, ⟨tokens, search.checkpoint, span, lexed, stated, rfl⟩, search.checkpoint,
        row, rfl, member, visible, congrArg some diagnostic⟩
    | ok valid =>
      obtain ⟨rfl, last⟩ := StatementSearch.advance_ok advanced
      have reached : some search.checkpoint = some .findCloseBrace := congrArg some last
      cases declared : checkDeclarations tokens with
      | error error =>
        simp only [Report.ofText, lexed, advanced, declared]
        obtain ⟨index, row, first, ⟨span, rfl⟩, diagnostic⟩ :=
          diagnostic_of_checkDeclarations declared text
        exact ⟨rfl, reached, table, index, row, first, ⟨tokens, span, lexed, stated, declared⟩,
          congrArg some diagnostic⟩
      | ok _ =>
        simp only [Report.ofText, lexed, advanced, declared]
        exact ⟨rfl, reached, table, ⟨tokens, lexed, stated, declared⟩, rfl⟩

/-- A report is about the file that it was asked for. -/
theorem Report.sourceFile_ofText (text : List Char) (file : String) :
    (Report.ofText text file).sourceFile = file := by
  unfold Report.ofText
  split
  · rfl
  · simp only
    split
    · rfl
    · split <;> rfl

/--
A report names its file and tells exactly what fits its progress.

Its success and the phase of its diagnostic are therefore decided by its progress, and decide it.
-/
theorem Report.ofText_consistent (text : List Char) (file : String) :
    let report := Report.ofText text file
    report.sourceFile = file ∧
      (∀ progress, report.Tells text progress ↔ progress = report.progress) ∧
      (report.success = true ↔ report.progress = .done) ∧
      (report.success = true ↔ report.diagnostic = none) ∧
      report.diagnostic.map Diagnostic.phase = report.progress.stoppedBy? := by
  intro report
  have tells : report.Tells text report.progress := Report.ofText_tells text file
  have phase := tells.phase
  refine ⟨Report.sourceFile_ofText text file, ?_, tells.success, ?_, phase⟩
  · intro progress
    constructor
    · intro other
      exact Progress.stoppedBy?_injective (other.phase.symm.trans phase)
    · rintro rfl
      exact tells
  · -- Only a check that is done is stopped by no phase.
    have done : Progress.stoppedBy? .done = none := rfl
    rw [tells.success, ← Option.map_eq_none_iff (f := Diagnostic.phase), phase, ← done]
    exact ⟨congrArg Progress.stoppedBy?, Progress.stoppedBy?_injective⟩

end IfStatement
