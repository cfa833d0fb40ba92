import IfStatement.Proofs.Statement.Search
import IfStatement.Proofs.Text.Visible

/-! The search for a statement comes to the same end in every layout of its tokens. -/

namespace IfStatement

/-- A walk of a reading without the places of the tokens that it leaves or blames. -/
def bareResult (result : Except (Checkpoint × List Token) (List Token)) :
    Except (Checkpoint × List Token) (List Token) :=
  match result with
  | .ok rest => .ok (bare rest)
  | .error (checkpoint, blamed) => .error (checkpoint, bare blamed)

/-- No reading depends on where a token stands. -/
theorem Reading.meet_symbol (reading : Reading) (token : Token) :
    reading.meet token.symbol.token = reading.meet token := by
  -- Every reading asks for the kind of the token or whether it is an `if`.
  cases reading <;> rfl

/-- Neither white space nor places make a difference to a walk. -/
theorem Reading.search_bare (reading : Reading) (tokens : List Token) :
    reading.search (bare tokens) = bareResult (reading.search tokens) := by
  -- White space is passed over, and a visible token is met in the same way without its place.
  induction tokens generalizing reading with
  | nil => rfl
  | cons token rest ih =>
    by_cases blank : token.kind = .whitespace
    · rw [bare_whitespace blank, Reading.search_whitespace reading blank]
      exact ih reading
    · have seen : token.symbol.token.kind ≠ .whitespace := blank
      rw [bare_visible blank]
      -- Both walks stop at the end and at a refused token, with the same still ahead of them.
      by_cases refused : token.kind = .endOfInput ∨ reading.meet token = none
      · have refusedBare : token.symbol.token.kind = .endOfInput ∨
            reading.meet token.symbol.token = none := by
          rw [Reading.meet_symbol]
          exact refused
        rw [Reading.search_refuse _ blank refused, Reading.search_refuse _ seen refusedBare,
          bareResult, bare_visible blank]
      · obtain ⟨more, met⟩ := not_or.mp refused
        obtain ⟨next, meets⟩ := Option.ne_none_iff_exists'.mp met
        have moreBare : token.symbol.token.kind ≠ .endOfInput := more
        have meetsBare := (reading.meet_symbol token).trans meets
        -- What is met either completes the statement or leaves the rest of it to be found.
        by_cases done : next = .complete
        · subst done
          rw [Reading.search_complete _ more blank meets,
            Reading.search_complete _ moreBare seen meetsBare, bareResult]
        · rw [Reading.search_meet _ more blank meets done,
            Reading.search_meet _ moreBare seen meetsBare done]
          exact ih next

section Layouts

variable {left right : List Token}

/-- A walk that succeeds in one layout succeeds in the other. -/
theorem Reading.search_ok_alike {reading : Reading} {leftRest : List Token}
    (same : bare left = bare right) (found : reading.search left = .ok leftRest) :
    ∃ rightRest, reading.search right = .ok rightRest := by
  -- Without places there is one list, and so only one result of the walk along it.
  have results := reading.search_bare left
  rw [same, reading.search_bare right, found] at results
  cases other : reading.search right with
  | ok rightRest => exact ⟨rightRest, rfl⟩
  | error failure =>
    rw [other] at results
    cases results

/-- A walk that fails in one layout fails in the other, with the same still ahead of it. -/
theorem Reading.search_error_alike {reading : Reading} {checkpoint : Checkpoint}
    {leftBlamed : List Token} (same : bare left = bare right)
    (failed : reading.search left = .error (checkpoint, leftBlamed)) :
    ∃ rightBlamed, reading.search right = .error (checkpoint, rightBlamed) ∧
      bare leftBlamed = bare rightBlamed := by
  -- The one result without places fixes the checkpoint, and what is visible of the blamed tokens.
  have results := reading.search_bare left
  rw [same, reading.search_bare right, failed] at results
  cases other : reading.search right with
  | ok rightRest =>
    rw [other] at results
    cases results
  | error failure =>
    obtain ⟨otherCheckpoint, rightBlamed⟩ := failure
    simp only [other, bareResult, Except.error.injEq, Prod.mk.injEq] at results
    obtain ⟨rfl, ahead⟩ := results
    exact ⟨rightBlamed, rfl, ahead.symm⟩

/-- A walk over tokens with an end among them cannot fail without a token to blame. -/
theorem Reading.search_error_ne_nil {reading : Reading} {tokens blamed : List Token}
    {checkpoint : Checkpoint} (unfinished : reading ≠ .complete)
    (ended : ∃ token ∈ tokens, token.kind = .endOfInput)
    (failed : reading.search tokens = .error (checkpoint, blamed)) : blamed ≠ [] := by
  intro nothing
  subst nothing
  -- Such a walk would have read the end.
  obtain ⟨read, _, split, endless, _⟩ := Reading.search_error unfinished failed
  obtain ⟨marker, member, marks⟩ := ended
  rw [split, List.append_nil] at member
  exact endless marker member marks

/-- A search from the start finds a statement where the walk of its reading succeeds. -/
theorem StatementSearch.advance_of_search_ok {tokens rest : List Token}
    (found : Reading.beforeIf.search tokens = .ok rest) :
    (ofTokens tokens).advance =
      (.ok true, ⟨tokens, tokens.length - rest.length, .findCloseBrace⟩) := by
  -- Meeting the checkpoints in order is that walk.
  rw [← passAll_inOrder] at found
  simp only [advance, ofTokens, List.drop_zero, found]

/-- A search from the start blames what the walk of its reading fails at. -/
theorem StatementSearch.advance_of_search_error {tokens rest : List Token} {token : Token}
    {checkpoint : Checkpoint}
    (failed : Reading.beforeIf.search tokens = .error (checkpoint, token :: rest)) :
    (ofTokens tokens).advance = (.error (.unmetCheckpoint checkpoint token.span),
      ⟨tokens, tokens.length - (token :: rest).length, checkpoint⟩) := by
  rw [← passAll_inOrder] at failed
  simp only [advance, ofTokens, List.drop_zero, failed]
  -- With a token to blame, no other stands in for it.
  rfl

/-- In both layouts a statement is found, or both lack the same at the same visible token. -/
theorem StatementSearch.advance_alike (same : bare left = bare right)
    (ended : ∃ token ∈ left, token.kind = .endOfInput) :
    (ofTokens left).advance.2.checkpoint = (ofTokens right).advance.2.checkpoint ∧
      VerdictsAlike left right (checkStatement left) (checkStatement right) := by
  rw [checkStatement, checkStatement]
  -- The walk in one layout decides how the walk in the other ends.
  cases leftResult : Reading.beforeIf.search left with
  | ok leftRest =>
    obtain ⟨rightRest, rightResult⟩ := Reading.search_ok_alike same leftResult
    rw [advance_of_search_ok leftResult, advance_of_search_ok rightResult]
    exact ⟨rfl, .accepted⟩
  | error failure =>
    obtain ⟨checkpoint, leftBlamed⟩ := failure
    obtain ⟨rightBlamed, rightResult, ahead⟩ := Reading.search_error_alike same leftResult
    -- Both blame a visible token, and as much is ahead in both layouts.
    have unfinished : Reading.beforeIf ≠ .complete := by simp
    have blames := Reading.search_error_ne_nil unfinished ended leftResult
    obtain ⟨_, _, rfl, _, _, _, _, leftStops⟩ := Reading.search_error unfinished leftResult
    obtain ⟨_, _, rfl, _, _, _, _, rightStops⟩ := Reading.search_error unfinished rightResult
    rcases visible_ahead same ahead (fun token first => (leftStops token first).1)
      (fun token first => (rightStops token first).1) with ⟨leftNone, _⟩ |
      ⟨leftToken, _, rightToken, _, rfl, rfl, _, index, leftFound, rightFound⟩
    · exact absurd leftNone blames
    · rw [advance_of_search_error leftResult, advance_of_search_error rightResult]
      exact ⟨rfl, .refused
        ⟨rfl, rfl, index, leftToken, rightToken, leftFound, rightFound, rfl, rfl⟩⟩

end Layouts

end IfStatement
