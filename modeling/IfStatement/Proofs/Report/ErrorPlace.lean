import IfStatement.Proofs.Declarations.FirstMention
import IfStatement.Proofs.Position.LineStarts
import IfStatement.Proofs.Statement.Search
import IfStatement.Proofs.Text.Tiling
import IfStatement.Report

/-! Whatever part of a check fails, its error points into the text, where both tables agree. -/

namespace IfStatement

/-- An error is placed in a text when it has a span that starts no later than the text ends. -/
def CheckError.PlacedIn (error : CheckError) (text : List Char) : Prop :=
  ∃ span, error.span? = some span ∧ span.start ≤ text.length

/-- An invalid character is in the text. -/
theorem placedIn_of_tokenize {text : List Char} {error : CheckError}
    (failed : tokenize text = .error error) : error.PlacedIn text := by
  -- The character is at its offset, so that the offset is inside the text.
  obtain ⟨found, offset, rfl, inside⟩ := tokenize_error failed
  obtain ⟨within, _⟩ := List.getElem?_eq_some_iff.mp inside
  exact ⟨_, rfl, Nat.le_of_lt within⟩

/-- An unmet checkpoint is blamed on a token of the text, or on its start. -/
theorem placedIn_of_checkStatement {text : List Char} {tokens : List Token} {error : CheckError}
    (lexed : tokenize text = .ok tokens) (failed : checkStatement tokens = .error error) :
    error.PlacedIn text := by
  -- A failed search says which token it blames, and all tokens start within the text.
  obtain ⟨read, reached, blamed, split, _, _, _, _, rfl, _⟩ :=
    StatementSearch.advance_error (Prod.ext failed rfl)
  refine ⟨_, rfl, ?_⟩
  unfold StatementSearch.blame
  split
  · rename_i token found
    apply span_start_le_of_tokenize lexed
    -- The blamed token is one of those that are left, or else the last of all.
    rcases Option.or_eq_some_iff.mp found with first | ⟨_, last⟩
    · rw [split]
      exact List.mem_append_right read (List.mem_of_mem_head? first)
    · exact List.mem_of_getLast? last
  · exact Nat.zero_le _

/-- An undeclared variable is blamed on a token of the text. -/
theorem placedIn_of_checkDeclarations {text : List Char} {tokens : List Token} {error : CheckError}
    (lexed : tokenize text = .ok tokens) (failed : checkDeclarations tokens = .error error) :
    error.PlacedIn text := by
  -- An undeclared use is one of the tokens, all of which start within the text.
  obtain ⟨index, token, use, rfl⟩ := checkDeclarations_error failed
  have member : token ∈ tokens := List.mem_of_getElem? use.1.found
  exact ⟨_, rfl, span_start_le_of_tokenize lexed token member⟩

/-- An error that is placed in a text is reported where scanning the text finds its start. -/
theorem CheckError.PlacedIn.diagnostic {error : CheckError} {text : List Char}
    (placed : error.PlacedIn text) :
    ∃ span, error.span? = some span ∧
      Diagnostic.ofError (.ofText text) error =
        ⟨error.phase, error.message, some (Position.ofOffset text span.start).line,
          some (Position.ofOffset text span.start).column⟩ := by
  -- Inside the text, the line table and the scan agree.
  obtain ⟨span, located, inside⟩ := placed
  refine ⟨span, located, ?_⟩
  simp only [Diagnostic.ofError, located, Option.map_some, LineStarts.position_ofText inside]

end IfStatement
