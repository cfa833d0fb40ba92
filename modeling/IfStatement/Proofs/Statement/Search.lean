import IfStatement.Proofs.Statement.Reading

/-! Meeting the checkpoints in order is one walk of a reading along the tokens. -/

namespace IfStatement

/--
Walks along tokens until the statement is complete, and gives the tokens after it.

Where it cannot be completed, the walk gives the expected checkpoint and the tokens it fails at.
-/
def Reading.search (reading : Reading) :
    List Token → Except (Checkpoint × List Token) (List Token)
  | [] => .error (reading.expected, [])
  | token :: rest =>
    if token.kind = .endOfInput then .error (reading.expected, token :: rest)
    else if token.kind = .whitespace then reading.search rest
    else
      match reading.meet token with
      | none => .error (reading.expected, token :: rest)
      | some .complete => .ok rest
      | some next => next.search rest

private theorem dropWhitespace_cons (token : Token) (rest : List Token) :
    dropWhitespace (token :: rest) =
      if token.kind = .whitespace then dropWhitespace rest else token :: rest := by
  simp [dropWhitespace, List.dropWhile_cons]

private theorem skipBody_whitespace {token : Token} (blank : token.kind = .whitespace) (limit : Nat)
    (rest : List Token) : skipBody limit (token :: rest) = skipBody limit rest := by
  -- Both the exhausted and the unfinished body drop white space before anything else.
  cases limit <;> simp [skipBody, dropWhitespace_cons, blank]

/-- A walk passes over white space. -/
theorem Reading.search_whitespace (reading : Reading) {token : Token}
    (blank : token.kind = .whitespace) (rest : List Token) :
    reading.search (token :: rest) = reading.search rest := by
  simp [Reading.search, blank]

/-- A walk goes on after a token that brings its reading forward but not to completion. -/
theorem Reading.search_meet {reading next : Reading} {token : Token} (rest : List Token)
    (more : token.kind ≠ .endOfInput) (visible : token.kind ≠ .whitespace)
    (meets : reading.meet token = some next) (unfinished : next ≠ .complete) :
    reading.search (token :: rest) = next.search rest := by
  simp only [Reading.search, if_neg more, if_neg visible, meets]

/-- A walk stops at a token that no statement can go on with. -/
theorem Reading.search_refuse {reading : Reading} {token : Token} (rest : List Token)
    (visible : token.kind ≠ .whitespace)
    (refused : token.kind = .endOfInput ∨ reading.meet token = none) :
    reading.search (token :: rest) = .error (reading.expected, token :: rest) := by
  -- The end and a refused token fail the walk in the same way.
  simp only [Reading.search, if_neg visible]
  rcases refused with ended | refused
  · rw [if_pos ended]
  · simp [refused]

/-- A walk ends on success at the token that completes its reading. -/
theorem Reading.search_complete {reading : Reading} {token : Token} (rest : List Token)
    (more : token.kind ≠ .endOfInput) (visible : token.kind ≠ .whitespace)
    (meets : reading.meet token = some .complete) :
    reading.search (token :: rest) = .ok rest := by
  simp only [Reading.search, if_neg more, if_neg visible, meets]

/-- A walk first follows significant tokens, and its outcome is decided by where it stops. -/
theorem Reading.search_stops {reading : Reading} (unfinished : reading ≠ .complete)
    (tokens : List Token) :
    ∃ read reached left, tokens = read ++ left ∧ (∀ token ∈ read, token.kind ≠ .endOfInput) ∧
      reading.follow (significant read) = some reached ∧ reached ≠ .complete ∧
      reading.search tokens = reached.search left ∧
      ∀ token ∈ left.head?, token.kind ≠ .whitespace ∧
        (token.kind = .endOfInput ∨ reached.meet token = none ∨
          reached.meet token = some .complete) := by
  -- The induction is on the tokens, and the reading moves on with each significant one.
  induction tokens generalizing reading with
  | nil => exact ⟨[], reading, [], rfl, by simp, rfl, unfinished, rfl, by simp⟩
  | cons token tail ih =>
    by_cases blank : token.kind = .whitespace
    · -- White space is read without any effect on the reading.
      obtain ⟨read, reached, left, split, endless, follows, short, same, stops⟩ := ih unfinished
      refine ⟨token :: read, reached, left, by simp [split],
        List.forall_mem_cons.mpr ⟨by simp [blank], endless⟩, ?_, short, ?_, stops⟩
      · simpa [significant_cons, blank] using follows
      · rw [Reading.search_whitespace reading blank, same]
    · by_cases stuck : token.kind = .endOfInput ∨ reading.meet token = none ∨
          reading.meet token = some .complete
      · exact ⟨[], reading, token :: tail, rfl, by simp, rfl, unfinished, rfl,
          by simp [blank, stuck]⟩
      · -- Any other token brings the reading forward, and the walk goes on from there.
        obtain ⟨more, meets, incomplete⟩ : token.kind ≠ .endOfInput ∧ reading.meet token ≠ none ∧
            reading.meet token ≠ some .complete := by simpa only [not_or] using stuck
        obtain ⟨next, met⟩ := Option.ne_none_iff_exists'.mp meets
        have short : next ≠ .complete := by
          intro done
          exact incomplete (done ▸ met)
        obtain ⟨read, reached, left, split, endless, follows, short', same, stops⟩ := ih short
        refine ⟨token :: read, reached, left, by simp [split],
          List.forall_mem_cons.mpr ⟨more, endless⟩, ?_, short', ?_, stops⟩
        · simp [significant_cons, more, blank, Reading.follow_cons, met, follows]
        · rw [Reading.search_meet tail more blank met short, same]

/-- A walk that succeeds stops just after the token that completes its reading. -/
theorem Reading.search_ok {reading : Reading} {tokens rest : List Token}
    (unfinished : reading ≠ .complete) (found : reading.search tokens = .ok rest) :
    ∃ read last reached, tokens = read ++ last :: rest ∧
      (∀ token ∈ read, token.kind ≠ .endOfInput) ∧
      last.kind ≠ .endOfInput ∧ last.kind ≠ .whitespace ∧
      reading.follow (significant read) = some reached ∧ reached ≠ .complete ∧
      reached.meet last = some .complete := by
  -- Only a completing token lets the walk stop without a failure.
  obtain ⟨read, reached, left, split, endless, follows, short, same, stops⟩ :=
    Reading.search_stops unfinished tokens
  rw [same] at found
  cases left with
  | nil => simp [Reading.search] at found
  | cons last tail =>
    obtain ⟨visible, stops⟩ := stops last rfl
    -- A walk that stops at the end or at a refused token has failed.
    by_cases refused : last.kind = .endOfInput ∨ reached.meet last = none
    · rw [Reading.search_refuse tail visible refused] at found
      cases found
    · obtain ⟨more, met⟩ := not_or.mp refused
      have meets := (stops.resolve_left more).resolve_left met
      rw [Reading.search_complete tail more visible meets] at found
      cases found
      exact ⟨read, last, reached, split, endless, more, visible, follows, short, meets⟩

/-- A walk that fails has an unfinished reading, and stops at the end or at a refused token. -/
theorem Reading.search_error {reading : Reading} {tokens blamed : List Token}
    {checkpoint : Checkpoint} (unfinished : reading ≠ .complete)
    (failed : reading.search tokens = .error (checkpoint, blamed)) :
    ∃ read reached, tokens = read ++ blamed ∧
      (∀ token ∈ read, token.kind ≠ .endOfInput) ∧
      reading.follow (significant read) = some reached ∧ reached ≠ .complete ∧
      checkpoint = reached.expected ∧
      ∀ token ∈ blamed.head?, token.kind ≠ .whitespace ∧
        (token.kind = .endOfInput ∨ reached.meet token = none) := by
  -- The walk fails where it stops, unless the token there completes the reading.
  obtain ⟨read, reached, left, split, endless, follows, short, same, stops⟩ :=
    Reading.search_stops unfinished tokens
  rw [same] at failed
  cases left with
  | nil =>
    -- Running out of tokens blames none of them.
    simp only [Reading.search, Except.error.injEq, Prod.mk.injEq] at failed
    obtain ⟨rfl, rfl⟩ := failed
    exact ⟨read, reached, split, endless, follows, short, rfl, by simp⟩
  | cons token tail =>
    obtain ⟨visible, stops⟩ := stops token rfl
    by_cases refused : token.kind = .endOfInput ∨ reached.meet token = none
    · rw [Reading.search_refuse tail visible refused, Except.error.injEq, Prod.mk.injEq] at failed
      obtain ⟨rfl, rfl⟩ := failed
      exact ⟨read, reached, split, endless, follows, short, rfl, by simp [visible, refused]⟩
    · -- A walk that stops at a completing token has succeeded.
      obtain ⟨more, met⟩ := not_or.mp refused
      have meets := (stops.resolve_left more).resolve_left met
      rw [Reading.search_complete tail more visible meets] at failed
      cases failed

section Checkpoints

variable {checkpoint : Checkpoint} {later : List Checkpoint} {reading : Reading}

/-- A checkpoint that requires one token agrees with a reading that one token brings forward. -/
theorem passAll_require (accepts : TokenKind → Bool) {next : Reading}
    (passes : ∀ tokens, checkpoint.pass tokens = require accepts (dropWhitespace tokens))
    (meets : ∀ token, reading.meet token = if accepts token.kind then some next else none)
    (expects : reading.expected = checkpoint) (refusesEnd : accepts .endOfInput = false)
    (unfinished : next ≠ .complete)
    (agree : ∀ tokens, passAll later tokens = next.search tokens) (tokens : List Token) :
    passAll (checkpoint :: later) tokens = reading.search tokens := by
  -- White space is dropped by both sides, and the first other token decides both.
  induction tokens with
  | nil => simp [passAll, passes, dropWhitespace, require, Reading.search, expects]
  | cons token rest ih =>
    by_cases blank : token.kind = .whitespace
    · rw [Reading.search_whitespace reading blank, ← ih]
      simp [passAll, passes, dropWhitespace_cons, blank]
    · by_cases accepted : accepts token.kind = true
      · have more : token.kind ≠ .endOfInput := by
          intro ended
          simp [ended, refusesEnd] at accepted
        -- Behind the required token, both go on with the later checkpoints.
        rw [Reading.search_meet rest more blank (by simp [meets, accepted]) unfinished, ← agree]
        simp [passAll, passes, dropWhitespace_cons, blank, require, accepted]
      · have refused : reading.meet token = none := by simp [meets, accepted]
        -- Any other token fails both, at the same checkpoint and at the same tokens.
        rw [Reading.search_refuse rest blank (.inr refused), expects]
        simp [passAll, passes, dropWhitespace_cons, blank, require, accepted]

/-- A checkpoint that allows one token agrees with a reading that may also go on without it. -/
theorem passAll_allow (kind : TokenKind) (next : Reading)
    (passes : ∀ tokens, checkpoint.pass tokens = .ok (allow kind (dropWhitespace tokens)))
    (meets : ∀ token,
      reading.meet token = if token.kind = kind then some next else next.meet token)
    (expects : reading.expected = next.expected)
    (more : kind ≠ .endOfInput) (visible : kind ≠ .whitespace) (unfinished : next ≠ .complete)
    (agree : ∀ tokens, passAll later tokens = next.search tokens) (tokens : List Token) :
    passAll (checkpoint :: later) tokens = reading.search tokens := by
  -- The optional token is taken by both when it is there, and missed by neither when it is not.
  induction tokens with
  | nil => simp [passAll, passes, dropWhitespace, allow, agree, Reading.search, expects]
  | cons token rest ih =>
    by_cases blank : token.kind = .whitespace
    · rw [Reading.search_whitespace reading blank, ← ih]
      simp [passAll, passes, dropWhitespace_cons, blank]
    · by_cases allowed : token.kind = kind
      · rw [Reading.search_meet rest (allowed ▸ more) blank (by simp [meets, allowed]) unfinished,
          ← agree]
        simp [passAll, passes, dropWhitespace_cons, allowed, visible, allow]
      · -- Without the optional token both readings meet the same token in the same way.
        have same : reading.search (token :: rest) = next.search (token :: rest) := by
          simp only [Reading.search, if_neg blank, meets, if_neg allowed, expects]
        rw [same, ← agree]
        simp [passAll, passes, dropWhitespace_cons, blank, allow, allowed]

end Checkpoints

private theorem passAll_singleton (checkpoint : Checkpoint) (tokens : List Token) :
    passAll [checkpoint] tokens = (checkpoint.pass tokens).mapError (checkpoint, ·) := by
  -- With no later checkpoint, what is left of the tokens is the result.
  rw [passAll]
  cases checkpoint.pass tokens <;> rfl

/-- The body and its closing brace are found by a reading that counts the tokens of the body. -/
theorem search_inBody {limit count : Nat} (room : limit + count = bodyCapacity)
    (tokens : List Token) :
    (require (· == .closeBrace) (skipBody limit tokens)).mapError (.findCloseBrace, ·) =
      (Reading.inBody count).search tokens := by
  -- Each body token uses up one of the places that are left.
  induction tokens generalizing limit count with
  | nil => cases limit <;> rfl
  | cons token rest ih =>
    by_cases blank : token.kind = .whitespace
    · rw [Reading.search_whitespace _ blank, skipBody_whitespace blank]
      exact ih room
    · by_cases closed : token.kind = .closeBrace
      · have meets : (Reading.inBody count).meet token = some .complete := by
          simp [Reading.meet, closed]
        -- The closing brace ends the body, whether or not there was room for more.
        cases limit <;>
          simp [skipBody, dropWhitespace_cons, closed, require, Reading.search, meets] <;> rfl
      · by_cases ended : token.kind = .endOfInput
        · rw [Reading.search_refuse rest blank (.inl ended)]
          cases limit <;> simp [skipBody, dropWhitespace_cons, ended, require] <;> rfl
        · cases limit with
          | zero =>
            -- A full body takes nothing but its closing brace.
            have refused : (Reading.inBody count).meet token = none := by
              simp [Reading.meet, closed]
              omega
            rw [Reading.search_refuse rest blank (.inr refused)]
            simp [skipBody, dropWhitespace_cons, blank, require, closed]
            rfl
          | succ limit =>
            -- With room left, the token is counted and the limit goes down by one.
            have meets : (Reading.inBody count).meet token = some (.inBody (count + 1)) := by
              simp [Reading.meet, closed]
              omega
            rw [Reading.search_meet rest ended blank meets (by simp)]
            rw [← ih (show limit + (count + 1) = bodyCapacity by omega)]
            simp [skipBody, dropWhitespace_cons, blank, closed, ended]

/-- The search for an `if` passes over every token that is not one. -/
theorem passAll_findIf {later : List Checkpoint}
    (agree : ∀ tokens, passAll later tokens = Reading.afterIf.search tokens)
    (tokens : List Token) :
    passAll (.findIf :: later) tokens = Reading.beforeIf.search tokens := by
  -- Only the end and an `if` stop the search, and white space is neither.
  induction tokens with
  | nil => rfl
  | cons token rest ih =>
    by_cases ended : token.kind = .endOfInput
    · rw [Reading.search_refuse rest (by simp [ended]) (.inl ended)]
      simp [passAll, Checkpoint.pass, passIf, ended]
      rfl
    · by_cases found : token.kind = .reservedWord ∧ token.lexeme = "if"
      · have reserved : token.isReserved "if" = true := Token.isReserved_iff.mpr found
        have visible : token.kind ≠ .whitespace := by simp [found.1]
        have meets : Reading.beforeIf.meet token = some .afterIf := by
          rw [Reading.meet, if_pos found]
        rw [Reading.search_meet rest ended visible meets (by simp), ← agree]
        simp [passAll, Checkpoint.pass, passIf, ended, reserved]
      · have other : ¬ token.isReserved "if" = true := mt Token.isReserved_iff.mp found
        have meets : Reading.beforeIf.meet token = some .beforeIf := by
          rw [Reading.meet, if_neg found]
        -- The walk stays before the `if`, whether the token is white space or not.
        have stays : Reading.beforeIf.search (token :: rest) = Reading.beforeIf.search rest := by
          by_cases blank : token.kind = .whitespace
          · exact Reading.search_whitespace _ blank rest
          · exact Reading.search_meet rest ended blank meets (by simp)
        rw [stays, ← ih]
        simp [passAll, Checkpoint.pass, passIf, ended, other]

/-- Meeting all checkpoints in order is the walk of a reading that starts before the `if`. -/
theorem passAll_inOrder (tokens : List Token) :
    passAll Checkpoint.inOrder tokens = Reading.beforeIf.search tokens := by
  -- Each checkpoint is added in front of those that are already known to agree.
  have body : ∀ tokens, passAll [.findCloseBrace] tokens = (Reading.inBody 0).search tokens :=
    fun tokens => (passAll_singleton .findCloseBrace tokens).trans (search_inBody rfl tokens)
  have brace : ∀ tokens, passAll [.findOpenBrace, .findCloseBrace] tokens =
      Reading.afterCloseParen.search tokens :=
    passAll_require (· == .openBrace) (fun _ => rfl) (fun _ => by simp [Reading.meet]) rfl rfl
      (by simp) body
  have closing : ∀ tokens, passAll (Checkpoint.inOrder.drop 5) tokens =
      Reading.afterSecondOperand.search tokens :=
    passAll_allow .closeParen .afterCloseParen (fun _ => rfl) (fun _ => rfl) rfl (by simp) (by simp)
      (by simp) brace
  have second : ∀ tokens, passAll (Checkpoint.inOrder.drop 4) tokens =
      Reading.afterComparison.search tokens :=
    passAll_require TokenKind.isOperand (fun _ => rfl) (fun _ => rfl) rfl rfl (by simp) closing
  have comparison : ∀ tokens, passAll (Checkpoint.inOrder.drop 3) tokens =
      Reading.afterFirstOperand.search tokens :=
    passAll_require (· == .relationalOperator) (fun _ => rfl) (fun _ => by simp [Reading.meet]) rfl
      rfl (by simp) second
  have first : ∀ tokens, passAll (Checkpoint.inOrder.drop 2) tokens =
      Reading.afterOpenParen.search tokens :=
    passAll_require TokenKind.isOperand (fun _ => rfl) (fun _ => rfl) rfl rfl (by simp) comparison
  have opening : ∀ tokens, passAll (Checkpoint.inOrder.drop 1) tokens =
      Reading.afterIf.search tokens :=
    passAll_allow .openParen .afterOpenParen (fun _ => rfl) (fun _ => rfl) rfl (by simp) (by simp)
      (by simp) first
  exact passAll_findIf opening tokens

/--
A search stops behind the statement that it finds or, where none follows, at what rules one out.

Either way the reading tells how far the tokens before that place have come.
-/
theorem StatementSearch.advance_cases (search : StatementSearch)
    (bounded : search.position ≤ search.tokens.length) :
    (∃ read last reached rest, search.tokens.drop search.position = read ++ last :: rest ∧
      (∀ token ∈ read, token.kind ≠ .endOfInput) ∧
      last.kind ≠ .endOfInput ∧ last.kind ≠ .whitespace ∧
      Reading.beforeIf.follow (significant read) = some reached ∧ reached ≠ .complete ∧
      reached.meet last = some .complete ∧
      search.advance = (.ok true,
        ⟨search.tokens, search.position + (read.length + 1), .findCloseBrace⟩)) ∨
    (∃ read reached blamed, search.tokens.drop search.position = read ++ blamed ∧
      (∀ token ∈ read, token.kind ≠ .endOfInput) ∧
      Reading.beforeIf.follow (significant read) = some reached ∧ reached ≠ .complete ∧
      (∀ token ∈ blamed.head?, token.kind ≠ .whitespace ∧
        (token.kind = .endOfInput ∨ reached.meet token = none)) ∧
      search.advance = (.error (.unmetCheckpoint reached.expected (search.blame blamed)),
        ⟨search.tokens, search.position + read.length, reached.expected⟩)) := by
  -- The tokens that are left determine the new position, since the read ones are the others.
  have lengths := List.length_drop (i := search.position) (l := search.tokens)
  have walks := passAll_inOrder (search.tokens.drop search.position)
  cases found : Reading.beforeIf.search (search.tokens.drop search.position) with
  | ok rest =>
    obtain ⟨read, last, reached, split, endless, more, visible, follows, short, meets⟩ :=
      Reading.search_ok (by simp) found
    refine .inl ⟨read, last, reached, rest, split, endless, more, visible, follows, short, meets,
      ?_⟩
    rw [split, List.length_append, List.length_cons] at lengths
    -- The completing token is read as well.
    have position : search.tokens.length - rest.length = search.position + (read.length + 1) := by
      omega
    simp [StatementSearch.advance, walks, found, position]
  | error failure =>
    obtain ⟨checkpoint, blamed⟩ := failure
    obtain ⟨read, reached, split, endless, follows, short, rfl, refused⟩ :=
      Reading.search_error (by simp) found
    refine .inr ⟨read, reached, blamed, split, endless, follows, short, refused, ?_⟩
    rw [split, List.length_append] at lengths
    have position : search.tokens.length - blamed.length = search.position + read.length := by
      omega
    simp [StatementSearch.advance, walks, found, position]

/-- A search that finds its statement has come to the last checkpoint, and says so with true. -/
theorem StatementSearch.advance_ok {search found : StatementSearch} {valid : Bool}
    (advanced : search.advance = (.ok valid, found)) :
    valid = true ∧ found.checkpoint = .findCloseBrace := by
  unfold StatementSearch.advance at advanced
  split at advanced
  · cases advanced
    exact ⟨rfl, rfl⟩
  · cases advanced

/-- Where no token is left to blame, the last one of all stands in for it. -/
theorem StatementSearch.blame_nil (search : StatementSearch) :
    search.blame [] = (search.tokens.getLast?.map Token.span).getD .origin := by
  rw [StatementSearch.blame, List.head?_nil, Option.none_or]
  cases search.tokens.getLast? <;> rfl

/-- A search from the start that fails has read all the tokens before those that it blames. -/
theorem StatementSearch.advance_error {tokens : List Token} {error : CheckError}
    {search : StatementSearch}
    (failed : (StatementSearch.ofTokens tokens).advance = (.error error, search)) :
    ∃ read reached blamed, tokens = read ++ blamed ∧
      (∀ token ∈ read, token.kind ≠ .endOfInput) ∧
      Reading.beforeIf.follow (significant read) = some reached ∧ reached ≠ .complete ∧
      (∀ token ∈ blamed.head?, token.kind ≠ .whitespace ∧
        (token.kind = .endOfInput ∨ reached.meet token = none)) ∧
      error = .unmetCheckpoint reached.expected ((StatementSearch.ofTokens tokens).blame blamed) ∧
      search = ⟨tokens, read.length, reached.expected⟩ := by
  -- A search from the start has all tokens left, and cannot fail in the successful case.
  rcases (StatementSearch.ofTokens tokens).advance_cases (Nat.zero_le _) with
    ⟨_, _, _, _, _, _, _, _, _, _, _, result⟩ |
    ⟨read, reached, blamed, split, endless, follows, short, refused, result⟩
  · rw [failed] at result
    cases result
  · rw [failed, Prod.mk.injEq, Except.error.injEq] at result
    obtain ⟨rfl, rfl⟩ := result
    exact ⟨read, reached, blamed, split, endless, follows, short, refused, rfl,
      by simp [StatementSearch.ofTokens]⟩

/-- Tokens at which a reading has stopped cannot complete it. -/
theorem Reading.follow_blamed {read blamed : List Token} {reached : Reading}
    (endless : ∀ token ∈ read, token.kind ≠ .endOfInput)
    (follows : Reading.beforeIf.follow (significant read) = some reached)
    (short : reached ≠ .complete)
    (refused : ∀ token ∈ blamed.head?, token.kind ≠ .whitespace ∧
      (token.kind = .endOfInput ∨ reached.meet token = none)) :
    Reading.beforeIf.follow (significant (read ++ blamed)) ≠ some .complete := by
  -- The reading stands still at the blamed tokens, and it is not complete.
  rw [significant_append endless, Reading.follow_append, follows, Option.bind_some]
  cases blamed with
  | nil => simpa using short
  | cons token rest =>
    obtain ⟨visible, stuck⟩ := refused token rfl
    -- The end hides what is behind it, and a refused token leaves no reading at all.
    by_cases ended : token.kind = .endOfInput
    · simpa [significant_cons, ended] using short
    · have unmet := stuck.resolve_left ended
      simp [significant_cons, ended, visible, Reading.follow_cons, unmet]

/-- A check accepts exactly the tokens whose significant ones complete a reading. -/
theorem checkStatement_eq_ok_iff_follow (tokens : List Token) :
    checkStatement tokens = .ok true ↔
      Reading.beforeIf.follow (significant tokens) = some .complete := by
  -- A search has two outcomes, and the reading is complete in just one of them.
  rcases (StatementSearch.ofTokens tokens).advance_cases (Nat.zero_le _) with
    ⟨read, last, reached, rest, split, endless, more, visible, follows, _, meets, result⟩ |
    ⟨read, reached, blamed, split, endless, follows, short, refused, result⟩
  · -- The token that completes the reading completes it whatever the rest may be.
    have accepted : Reading.beforeIf.follow (significant tokens) = some .complete := by
      rw [show tokens = read ++ last :: rest from split, significant_append endless,
        significant_cons, if_neg more, if_neg visible, Reading.follow_append, follows,
        Option.bind_some, Reading.follow_cons, meets, Option.bind_some, Reading.follow_complete]
    simp [checkStatement, result, accepted]
  · have rejected : Reading.beforeIf.follow (significant tokens) ≠ some .complete := by
      rw [show tokens = read ++ blamed from split]
      exact Reading.follow_blamed endless follows short refused
    simp [checkStatement, result, rejected]

end IfStatement
