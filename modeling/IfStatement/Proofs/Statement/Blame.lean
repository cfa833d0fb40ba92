import IfStatement.Proofs.Statement.Grammar

/-! A failed check blames the first token that rules out every statement and names what it lacks. -/

namespace IfStatement

/-- The tokens read before a failure can always be completed. -/
theorem checkStatement_append_shortestStatement {read : List Token} {reached : Reading}
    (endless : ∀ token ∈ read, token.kind ≠ .endOfInput)
    (follows : Reading.beforeIf.follow (significant read) = some reached) :
    checkStatement (read ++ shortestStatement.drop reached.met) = .ok true := by
  -- Every token of the shortest statement is significant, and so is every one of its suffixes.
  have seen : significant (shortestStatement.drop reached.met) =
      shortestStatement.drop reached.met := by
    cases reached <;> rfl
  rw [checkStatement_eq_ok_iff_follow, significant_append endless, seen, Reading.follow_append,
    follows, Option.bind_some, Reading.follow_shortestStatement]

/-- Tokens that lead to a reading match as many elements as it has met, and no other number. -/
theorem matches_iff_eq_met {tokens : List Token} {reading : Reading}
    (follows : Reading.beforeIf.follow tokens = some reading) (count : Nat) :
    Matches count tokens ↔ count = reading.met := by
  -- One list of tokens leads to one reading, so it cannot match two numbers of elements.
  rw [matches_iff_follow]
  constructor
  · rintro ⟨other, same, rfl⟩
    rw [follows] at same
    cases same
    rfl
  · rintro rfl
    exact ⟨reading, follows, rfl⟩

/--
A failed check stands at the first token that rules out every statement, and blames that token.

The tokens before it can be completed, and the checkpoint is the first element they do not match.
-/
theorem advance_blames_first {tokens : List Token} {error : CheckError} {search : StatementSearch}
    (failed : (StatementSearch.ofTokens tokens).advance = (.error error, search)) :
    ∃ checkpoint span, error = .unmetCheckpoint checkpoint span ∧
      search.position ≤ tokens.length ∧
      (∃ continuation, checkStatement (tokens.take search.position ++ continuation) = .ok true) ∧
      (∀ token, tokens[search.position]? = some token →
        (∀ list, tokens.take (search.position + 1) <+: list → checkStatement list ≠ .ok true) ∧
        token.kind ≠ .whitespace ∧ span = token.span) ∧
      (search.position = tokens.length → span = (tokens.getLast?.map Token.span).getD .origin) ∧
      (∃ met, (∀ count, Matches count (significant (tokens.take search.position)) ↔ count = met) ∧
        Checkpoint.mandatory[met]? = some checkpoint) ∧
      checkpoint ≠ .findOpenParen ∧ checkpoint ≠ .findCloseParen := by
  obtain ⟨read, reached, blamed, split, endless, follows, short, refused, rfl, rfl⟩ :=
    StatementSearch.advance_error failed
  -- The position is the number of tokens read, so it cuts the list just before the blamed ones.
  have before : tokens.take read.length = read := by rw [split, List.take_left]
  have expects := Reading.mandatory_met short
  refine ⟨reached.expected, _, rfl, by simp [split], ?_, ?_, ?_, ?_, ?_⟩
  -- The elements not yet met complete the tokens that were read.
  · exact ⟨_, before.symm ▸ checkStatement_append_shortestStatement endless follows⟩
  · intro token inside
    rw [split, List.getElem?_append_right (Nat.le_refl _), Nat.sub_self] at inside
    obtain ⟨rest, rfl⟩ := List.head?_eq_some_iff.mp (List.head?_eq_getElem? ▸ inside)
    refine ⟨?_, (refused token rfl).1, rfl⟩
    rintro _ ⟨more, rfl⟩
    -- Whatever follows the blamed token, a reading stops at it again.
    have cut : tokens.take (read.length + 1) = read ++ [token] := by
      rw [split, ← List.singleton_append, ← List.append_assoc, List.take_left' (by simp)]
    rw [cut, List.append_assoc, Ne, checkStatement_eq_ok_iff_follow]
    exact Reading.follow_blamed endless follows short refused
  · intro (atEnd : read.length = tokens.length)
    -- No token is left to blame, so the last one of all stands in for it.
    have nothing : blamed = [] := by
      apply List.eq_nil_of_length_eq_zero
      have lengths := congrArg List.length split
      rw [List.length_append] at lengths
      omega
    rw [nothing]
    exact StatementSearch.blame_nil _
  · exact ⟨reached.met, fun count => before.symm ▸ matches_iff_eq_met follows count, expects⟩
  · exact reached.expected_mandatory

/-- A parenthesis that closes a condition without a comparison is the first token to blame. -/
theorem advance_blames_closeParen :
    let tokens : List Token :=
      [⟨.reservedWord, "if", ⟨0, 2⟩⟩, ⟨.whitespace, "", ⟨2, 3⟩⟩, ⟨.identifier, "x", ⟨3, 4⟩⟩,
       ⟨.closeParen, ")", ⟨4, 5⟩⟩, ⟨.endOfInput, "", ⟨5, 5⟩⟩]
    (StatementSearch.ofTokens tokens).advance =
        (.error (.unmetCheckpoint .findRelationalOperator ⟨4, 5⟩),
          ⟨tokens, 3, .findRelationalOperator⟩) ∧
      (∃ continuation, checkStatement (tokens.take 3 ++ continuation) = .ok true) ∧
      ∀ list, tokens.take 4 <+: list → checkStatement list ≠ .ok true := by
  -- The search runs up to the parenthesis, and the general result tells what that means.
  intro tokens
  have failed : (StatementSearch.ofTokens tokens).advance =
      (.error (.unmetCheckpoint .findRelationalOperator ⟨4, 5⟩),
        ⟨tokens, 3, .findRelationalOperator⟩) := rfl
  obtain ⟨_, _, _, _, completable, decisive, _⟩ := advance_blames_first failed
  exact ⟨failed, completable, (decisive _ rfl).1⟩

end IfStatement
