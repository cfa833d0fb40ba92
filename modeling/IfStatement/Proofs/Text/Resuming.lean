import IfStatement.Proofs.Text.Shifting
import IfStatement.Proofs.Text.Tiling

/-! A scanner can be resumed anywhere, as what it has left decides all that it still reads. -/

namespace IfStatement

/-- A step of a scanner reads a single token, or all that are left. -/
inductive ScanStep where
  /-- Reads the next token. -/
  | one
  /-- Reads all tokens up to the end marker. -/
  | all
deriving DecidableEq

/-- The scanner that a step leaves behind, whether the step has failed or not. -/
def Scanner.step (scanner : Scanner) : ScanStep → Scanner
  | .one => scanner.next.2
  | .all => scanner.tokenize.2

/-- The scanner that some steps leave behind. -/
def Scanner.afterSteps (scanner : Scanner) (steps : List ScanStep) : Scanner :=
  steps.foldl Scanner.step scanner

/-- What a scanner gives when it reads this many single tokens, and goes on after errors. -/
def Scanner.reads (scanner : Scanner) : Nat → List (Except CheckError Token)
  | 0 => []
  | count + 1 => scanner.next.1 :: scanner.next.2.reads count

/-- The place in the text of a token or an error. -/
def readSpan? : Except CheckError Token → Option Span
  | .ok token => some token.span
  | .error error => error.span?

/-- A scanner stands on a text when it has left what is behind its position. -/
structure Scanner.On (scanner : Scanner) (text : List Char) : Prop where
  rest : scanner.rest = text.drop scanner.position
  inside : scanner.position ≤ text.length

/--
What this many reads of a single token give tiles the text that they pass.

The end marker is not among the tiles, and the reads come to it once they are enough in number.
-/
def Scanner.TilesBy (scanner : Scanner) (count : Nat) (text : List Char) : Prop :=
  ∃ read spans ended,
    scanner.reads count = read ++ List.replicate ended (.ok (.endOfInput text.length)) ∧
    (∀ token, .ok token ∈ read → token.kind ≠ .endOfInput) ∧
    read.map readSpan? = spans.map some ∧
    Tiles spans scanner.position (scanner.afterSteps (List.replicate count .one)).position ∧
    (0 < ended → (scanner.afterSteps (List.replicate count .one)).position = text.length) ∧
    (text.length - scanner.position < count → 0 < ended)

/-- What a scanner does from where it stands on a text. -/
structure Scanner.Resumes (scanner : Scanner) (text : List Char) : Prop where
  /-- It has not read more than there is. -/
  inside : scanner.position ≤ text.length
  /-- No step leads back. -/
  forward : ∀ step, scanner.position ≤ (scanner.step step).position
  /-- The next token, or error, is the first one of what is left. -/
  next_eq : scanner.next.1 =
    shiftResult Token.shift scanner.position (Scanner.ofText (text.drop scanner.position)).next.1
  /-- Reading on leads to where that token or error stops, which is further on before the end. -/
  next_position : ∃ span, readSpan? scanner.next.1 = some span ∧
    scanner.next.2.position = span.stop ∧
    (scanner.position < span.stop ∨ scanner.next.1 = .ok (.endOfInput text.length))
  /-- All tokens that are still read, or the error on the way, are those of what is left. -/
  tokenize_eq : scanner.tokenize.1 =
    shiftResult shiftTokens scanner.position (IfStatement.tokenize (text.drop scanner.position))
  /-- Reading all tokens leads to the end. -/
  tokenize_ok : ∀ tokens, scanner.tokenize.1 = .ok tokens →
    scanner.tokenize.2.position = text.length
  /-- An error on the way leads to where that error stops. -/
  tokenize_error : ∀ error, scanner.tokenize.1 = .error error →
    ∃ span, error.span? = some span ∧ scanner.tokenize.2.position = span.stop
  /-- Tokens and errors that are read one by one tile the text, and the end comes in time. -/
  tiled : ∀ count, scanner.TilesBy count text
  /-- Once the end marker is read, nothing else is read any more. -/
  ended : ∀ token, scanner.next.1 = .ok token → token.kind = .endOfInput →
    token = .endOfInput text.length ∧ ∀ steps,
      (scanner.afterSteps steps).next.1 = .ok token ∧
        (scanner.afterSteps steps).tokenize.1 = .ok [token]

/-- A scanner reads the end marker at the end, and elsewhere a nonempty front of what is left. -/
theorem Scanner.next_cases (scanner : Scanner) :
    (scanner.rest = [] ∧ scanner.next = (.ok (.endOfInput scanner.position), scanner)) ∨
    ∃ front follow result, front ≠ [] ∧ scanner.rest = front ++ follow ∧
      (∀ token, result = .ok token → token.kind ≠ .endOfInput) ∧
      readSpan? result = some ⟨scanner.position, scanner.position + front.length⟩ ∧
      scanner.next = (result, ⟨follow, scanner.position + front.length⟩) := by
  -- Nothing, a slice that spells a token or an invalid character is at the front of what is left.
  obtain ⟨text, position⟩ := scanner
  rcases front_cases text with rfl | ⟨slice, follow, kind, lexeme, rfl, spells⟩ |
    ⟨first, rest, rfl, invalid⟩
  · exact .inl ⟨rfl, rfl⟩
  · refine .inr ⟨slice, follow, _, List.ne_nil_of_length_pos spells.length_pos, rfl, ?_, rfl,
      Scanner.next_slice spells position⟩
    intro token same
    cases same
    exact spells.kind_ne_endOfInput
  · refine .inr ⟨[first], rest, .error (.invalidCharacter first ⟨position, position + 1⟩),
      List.cons_ne_nil first [], rfl, ?_, rfl, ?_⟩
    · intro token same
      cases same
    · simp [Scanner.next, invalid, Scanner.skip]

/-- Reading all tokens leads to the end, or to where the error on the way stops. -/
theorem Scanner.tokenize_cases (scanner : Scanner) :
    ∃ front follow, scanner.rest = front ++ follow ∧
      scanner.tokenize.2 = ⟨follow, scanner.position + front.length⟩ ∧
      ((∃ tokens, scanner.tokenize.1 = .ok tokens ∧ follow = []) ∨
        ∃ error span, scanner.tokenize.1 = .error error ∧ error.span? = some span ∧
          span.stop = scanner.position + front.length) := by
  -- What stops the cutting is the end, or a character that is still read past.
  obtain ⟨lexed, ⟨text, position⟩, cuts, stops⟩ := exists_cuts scanner
  obtain ⟨read, split, behind⟩ := cuts.split
  simp only at split behind
  rw [cuts.tokenize]
  rcases stops with rfl | ⟨first, rest, rfl, invalid⟩
  · rw [Scanner.tokenize_nil]
    exact ⟨read, [], split, by rw [behind], .inl ⟨_, rfl, rfl⟩⟩
  · rw [Scanner.tokenize_invalid invalid]
    have further : scanner.position + (read ++ [first]).length = position + 1 := by
      rw [List.length_append, List.length_singleton, behind]
      omega
    refine ⟨read ++ [first], rest, ?_, ?_, .inr ⟨_, _, rfl, rfl, further.symm⟩⟩
    · rw [split, List.append_assoc]
      rfl
    · rw [further]

/-- A fresh scanner stands at the start of its text. -/
theorem Scanner.on_ofText (text : List Char) : (Scanner.ofText text).On text :=
  ⟨rfl, Nat.zero_le text.length⟩

section On

variable {scanner : Scanner} {text : List Char}

/-- Reading a front of what is left leads to where the rest of it starts. -/
theorem Scanner.On.pass (on : scanner.On text) {front follow : List Char}
    (split : scanner.rest = front ++ follow) :
    Scanner.On ⟨follow, scanner.position + front.length⟩ text := by
  have unread : text.drop scanner.position = front ++ follow := on.rest ▸ split
  constructor
  · rw [← List.drop_drop, unread, List.drop_left]
  · -- The front is a part of what there is behind the position.
    have length := congrArg List.length unread
    rw [List.length_drop, List.length_append] at length
    have inside := on.inside
    simp only
    omega

/-- Every step leads on along the text. -/
theorem Scanner.On.step (on : scanner.On text) (step : ScanStep) :
    (scanner.step step).On text ∧ scanner.position ≤ (scanner.step step).position := by
  -- Either step reads a front of what is left, which may be empty.
  cases step with
  | one =>
    rw [Scanner.step]
    rcases scanner.next_cases with ⟨_, read⟩ | ⟨front, follow, result, _, split, _, _, read⟩
    · rw [read]
      exact ⟨on, Nat.le_refl _⟩
    · rw [read]
      exact ⟨on.pass split, Nat.le_add_right _ _⟩
  | all =>
    rw [Scanner.step]
    obtain ⟨front, follow, split, read, _⟩ := scanner.tokenize_cases
    rw [read]
    exact ⟨on.pass split, Nat.le_add_right _ _⟩

/-- Whatever has been read, a scanner stands on its text. -/
theorem Scanner.On.afterSteps (on : scanner.On text) (steps : List ScanStep) :
    (scanner.afterSteps steps).On text := by
  -- Each step keeps the scanner on the text, so that all of them do.
  induction steps generalizing scanner with
  | nil => exact on
  | cons step rest ih => exact ih (on.step step).1

/-- A scanner on a text is a fresh one of what is left, moved on to its position. -/
theorem Scanner.On.eq_shift (on : scanner.On text) :
    scanner = (Scanner.ofText (text.drop scanner.position)).shift scanner.position := by
  rw [Scanner.ofText, Scanner.shift, ← on.rest]
  rfl

/-- With nothing left, a scanner stands at the end of its text. -/
theorem Scanner.On.position_of_ended (on : scanner.On text) (ended : scanner.rest = []) :
    scanner.position = text.length := by
  -- The rest of the text has the length that is missing to the end.
  have unread := congrArg List.length on.rest
  rw [ended, List.length_drop, List.length_nil] at unread
  have inside := on.inside
  omega

/-- At the end, no step leads anywhere. -/
theorem Scanner.afterSteps_of_ended (ended : scanner.rest = []) (steps : List ScanStep) :
    scanner.afterSteps steps = scanner := by
  -- One step leaves the scanner as it is, and so do all.
  obtain ⟨rest, position⟩ := scanner
  obtain rfl : rest = [] := ended
  induction steps with
  | nil => rfl
  | cons step rest ih =>
    have still : Scanner.step ⟨[], position⟩ step = ⟨[], position⟩ := by
      cases step with
      | one => rfl
      | all => rw [Scanner.step, Scanner.tokenize_nil]
    rw [Scanner.afterSteps, List.foldl_cons, still]
    exact ih

/-- At the end, reading on gives the end marker as often as it is tried. -/
theorem Scanner.On.reads_of_ended (on : scanner.On text) (ended : scanner.rest = [])
    (count : Nat) : scanner.reads count = List.replicate count (.ok (.endOfInput text.length)) := by
  -- Reading the end marker leaves the scanner where it is.
  have position := on.position_of_ended ended
  obtain ⟨rest, place⟩ := scanner
  obtain rfl : rest = [] := ended
  obtain rfl : place = text.length := position
  induction count with
  | zero => rfl
  | succ count ih =>
    rw [Scanner.reads, List.replicate_succ]
    exact congrArg (_ :: ·) ih

/-- What is read one by one tiles the text, and the end marker comes when the text is used up. -/
theorem Scanner.On.tiled (on : scanner.On text) (count : Nat) :
    scanner.TilesBy count text := by
  -- The induction is on the number of tokens, each of which leads on while there is text left.
  induction count generalizing scanner with
  | zero => exact ⟨[], [], 0, rfl, nofun, rfl, rfl, nofun, nofun⟩
  | succ count ih =>
    rcases scanner.next_cases with ⟨ended, _⟩ |
      ⟨front, follow, result, nonempty, split, more, place, read⟩
    · -- At the end, every read gives the end marker and no text is passed.
      refine ⟨[], [], count + 1, on.reads_of_ended ended (count + 1), nofun, rfl, ?_, ?_, ?_⟩
      · rw [Scanner.afterSteps_of_ended ended]
        rfl
      · rw [Scanner.afterSteps_of_ended ended]
        exact fun _ => on.position_of_ended ended
      · exact fun _ => Nat.succ_pos count
    · -- Elsewhere the first span ends where those of the later reads begin.
      obtain ⟨later, spans, ended, reads, others, places, tiles, stops, comes⟩ := ih (on.pass split)
      have positive := List.length_pos_iff.mpr nonempty
      have inside : scanner.position + front.length ≤ text.length := (on.pass split).inside
      have after : scanner.afterSteps (List.replicate (count + 1) .one) =
          Scanner.afterSteps ⟨follow, scanner.position + front.length⟩
            (List.replicate count .one) := by
        rw [List.replicate_succ, Scanner.afterSteps, List.foldl_cons, Scanner.step, read]
        rfl
      rw [Scanner.TilesBy, after]
      refine ⟨result :: later, ⟨scanner.position, scanner.position + front.length⟩ :: spans,
        ended, ?_, ?_, ?_, ⟨rfl, by simp only; omega, tiles⟩, stops, ?_⟩
      · rw [Scanner.reads, read, reads]
        rfl
      · intro token member
        rcases List.mem_cons.mp member with same | member
        · exact more token same.symm
        · exact others token member
      · rw [List.map_cons, List.map_cons, place, places]
      · intro enough
        apply comes
        simp only
        omega

/-- Reading a token or an error leads to where it stops. -/
theorem Scanner.On.next_position (on : scanner.On text) :
    ∃ span, readSpan? scanner.next.1 = some span ∧ scanner.next.2.position = span.stop ∧
      (scanner.position < span.stop ∨ scanner.next.1 = .ok (.endOfInput text.length)) := by
  rcases scanner.next_cases with ⟨ended, read⟩ |
    ⟨front, follow, result, nonempty, _, _, place, read⟩
  · -- The end marker is empty and stands where the scanner does.
    rw [read]
    refine ⟨_, rfl, rfl, .inr ?_⟩
    rw [on.position_of_ended ended]
  · -- The front that is read is not empty, so that it leads on.
    have positive := List.length_pos_iff.mpr nonempty
    rw [read]
    exact ⟨_, place, rfl, .inl (by simp only; omega)⟩

/-- Reading all tokens leads to the end. -/
theorem Scanner.On.tokenize_ok (on : scanner.On text) {tokens : List Token}
    (read : scanner.tokenize.1 = .ok tokens) : scanner.tokenize.2.position = text.length := by
  obtain ⟨front, follow, _, final, ⟨_, _, ended⟩ | ⟨_, _, failed, _⟩⟩ := scanner.tokenize_cases
  · -- The scanner is still on its text, of which nothing is left.
    apply (on.step .all).1.position_of_ended
    rw [Scanner.step, final, ended]
  · rw [read] at failed
    cases failed

/-- An error on the way leads to where that error stops. -/
theorem Scanner.position_of_tokenize_error {scanner : Scanner} {error : CheckError}
    (failed : scanner.tokenize.1 = .error error) :
    ∃ span, error.span? = some span ∧ scanner.tokenize.2.position = span.stop := by
  -- The character to blame is the last one that has been read.
  obtain ⟨front, follow, _, final, ⟨_, read, _⟩ | ⟨_, span, blamed, place, stop⟩⟩ :=
    scanner.tokenize_cases
  · rw [failed] at read
    cases read
  · rw [failed, Except.error.injEq] at blamed
    rw [blamed, final]
    exact ⟨span, place, stop.symm⟩

/-- An end marker is that of the text, and nothing else is read after it. -/
theorem Scanner.On.ended (on : scanner.On text) {token : Token}
    (read : scanner.next.1 = .ok token) (last : token.kind = .endOfInput) :
    token = .endOfInput text.length ∧ ∀ steps,
      (scanner.afterSteps steps).next.1 = .ok token ∧
        (scanner.afterSteps steps).tokenize.1 = .ok [token] := by
  -- An end marker is read only where nothing is left.
  rcases scanner.next_cases with ⟨ended, marker⟩ | ⟨_, _, result, _, _, more, _, other⟩
  · rw [marker, on.position_of_ended ended, Except.ok.injEq] at read
    subst read
    refine ⟨rfl, fun steps => ?_⟩
    have position := on.position_of_ended ended
    rw [Scanner.afterSteps_of_ended ended, ← position]
    obtain ⟨rest, place⟩ := scanner
    obtain rfl : rest = [] := ended
    exact ⟨rfl, by rw [Scanner.tokenize_nil]⟩
  · rw [other] at read
    exact absurd last (more token read)

/-- A scanner can be resumed wherever it stands on its text. -/
theorem Scanner.On.resumes (on : scanner.On text) : scanner.Resumes text where
  inside := on.inside
  forward step := (on.step step).2
  next_eq := by
    -- It is a fresh scanner of what is left, moved on to its position.
    conv => lhs; rw [on.eq_shift, Scanner.next_shift]
  next_position := on.next_position
  tokenize_eq := by
    conv => lhs; rw [on.eq_shift, Scanner.tokenize_shift]
    rfl
  tokenize_ok _ read := on.tokenize_ok read
  tokenize_error _ failed := Scanner.position_of_tokenize_error failed
  tiled count := on.tiled count
  ended _ read last := on.ended read last

end On

/--
Whatever has been read before, a scanner goes on as a fresh one would on what is left of the text.

It starts at the start, never leads back, and reads nothing but the end marker after the end.
-/
theorem scanner_resumes (text : List Char) (steps : List ScanStep) :
    (Scanner.ofText text).position = 0 ∧
      ((Scanner.ofText text).afterSteps steps).Resumes text :=
  ⟨rfl, ((Scanner.on_ofText text).afterSteps steps).resumes⟩

end IfStatement
