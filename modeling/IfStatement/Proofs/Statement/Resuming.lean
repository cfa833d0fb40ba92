import IfStatement.Proofs.Statement.Blame

/-! A search that is called again goes on where it stands, as if the tokens had begun there. -/

namespace IfStatement

/-- The search that this many calls leave behind, whether they have failed or not. -/
def StatementSearch.afterCalls (search : StatementSearch) : Nat → StatementSearch
  | 0 => search
  | calls + 1 => search.advance.2.afterCalls calls

/-- The verdicts of this many calls. -/
def StatementSearch.verdicts (search : StatementSearch) : Nat → List (Except CheckError Bool)
  | 0 => []
  | calls + 1 => search.advance.1 :: search.advance.2.verdicts calls

/-- A verdict that misses the `if` says that no statement starts any more. -/
def missesIf : Except CheckError Bool → Bool
  | .error (.unmetCheckpoint .findIf _) => true
  | _ => false

/-- The number of tokens that are the word `if`. -/
def ifCount (tokens : List Token) : Nat :=
  tokens.countP fun token => token.kind == .reservedWord && token.lexeme == "if"

/-- The number of statements that can start before the end marker. -/
def ifsBeforeEnd (tokens : List Token) : Nat :=
  ifCount (tokens.takeWhile (·.kind != .endOfInput))

/-- Verdicts are the same up to their places when they accept or lack the same checkpoint. -/
inductive SameVerdict : Except CheckError Bool → Except CheckError Bool → Prop where
  /-- Both have found a statement. -/
  | accepted : SameVerdict (.ok true) (.ok true)
  /-- Both have failed at one checkpoint. -/
  | refused {checkpoint : Checkpoint} {span other : Span} :
    SameVerdict (.error (.unmetCheckpoint checkpoint span))
      (.error (.unmetCheckpoint checkpoint other))

/-- A search stands on its tokens when it has read some of them, but no end marker. -/
structure StatementSearch.On (search : StatementSearch) (tokens : List Token) : Prop where
  tokens_eq : search.tokens = tokens
  inside : search.position ≤ tokens.length
  endless : ∀ token ∈ tokens.take search.position, token.kind ≠ .endOfInput

/-- A call that finds a statement reads on to its end, and could not have stopped earlier. -/
structure StatementSearch.FindsShortest (search : StatementSearch) (unread : List Token)
    (read : Nat) : Prop where
  checkpoint : search.checkpoint = .findCloseBrace
  accepted : checkStatement (unread.take read) = .ok true
  shortest : ∀ fewer < read, checkStatement (unread.take fewer) ≠ .ok true

/-- A call that fails stands at the first token that rules out a statement, or at the end. -/
structure StatementSearch.StandsAtBlamed (search : StatementSearch) (unread : List Token)
    (read : Nat) (checkpoint : Checkpoint) (span : Span) : Prop where
  checkpoint : search.checkpoint = checkpoint
  completable : ∃ continuation, checkStatement (unread.take read ++ continuation) = .ok true
  /-- The token to blame is the one that is read next. -/
  blamed : ∀ token, search.tokens[search.position]? = some token → span = token.span ∧
    ∀ list, unread.take read ++ [token] <+: list → checkStatement list ≠ .ok true
  /-- With nothing left to blame, the last token of all stands in. -/
  exhausted : search.position = search.tokens.length →
    span = (search.tokens.getLast?.map Token.span).getD .origin

/-- What a call does, wherever the search stands on its tokens. -/
structure StatementSearch.Resumes (search : StatementSearch) (tokens : List Token) : Prop where
  /-- It does not lead back. -/
  forward : search.position ≤ search.advance.2.position
  /-- It leaves the search on its tokens. -/
  after : search.advance.2.On tokens
  /-- It reads no end marker. -/
  beforeEnd : ∀ (index : Nat) (token : Token), tokens[index]? = some token →
    token.kind = .endOfInput → search.advance.2.position ≤ index
  /-- It reads as many tokens as a fresh search would of those that are left. -/
  position_eq : search.advance.2.position = search.position +
    (StatementSearch.ofTokens (tokens.drop search.position)).advance.2.position
  /-- It comes to the verdict of a fresh search. -/
  sameVerdict : SameVerdict search.advance.1 (checkStatement (tokens.drop search.position))
  /-- Only where nothing is left can the place of its verdict be another. -/
  samePlace : search.position < tokens.length →
    search.advance.1 = checkStatement (tokens.drop search.position)
  /-- What it reads of a statement is the shortest front that is accepted. -/
  finds : search.advance.1 = .ok true → search.advance.2.FindsShortest
    (tokens.drop search.position) (search.advance.2.position - search.position)
  /-- What it fails at is the first token to rule out a statement. -/
  fails : ∀ checkpoint span, search.advance.1 = .error (.unmetCheckpoint checkpoint span) →
    search.advance.2.StandsAtBlamed (tokens.drop search.position)
      (search.advance.2.position - search.position) checkpoint span

/-- The words in the front of a list come on top of those in its back. -/
theorem ifCount_append (front back : List Token) :
    ifCount (front ++ back) = ifCount front + ifCount back :=
  List.countP_append

/-- Statements that can start in tokens without an end among them come before all later ones. -/
theorem ifsBeforeEnd_append {read : List Token}
    (endless : ∀ token ∈ read, token.kind ≠ .endOfInput) (later : List Token) :
    ifsBeforeEnd (read ++ later) = ifCount read + ifsBeforeEnd later := by
  have unended : ∀ token ∈ read, (token.kind != .endOfInput) = true := by simpa using endless
  rw [ifsBeforeEnd, List.takeWhile_append_of_pos unended, ifCount_append, ifsBeforeEnd]

/-- A reading that has started has read an `if`. -/
theorem ifCount_pos {read : List Token} {reached : Reading}
    (follows : Reading.beforeIf.follow (significant read) = some reached)
    (started : reached ≠ .beforeIf) : 0 < ifCount read := by
  apply Nat.pos_of_ne_zero
  intro absent
  -- Tokens without an `if` leave a reading where it starts.
  have noIf : ∀ token ∈ significant read,
      ¬ (token.kind = .reservedWord ∧ token.lexeme = "if") := by
    intro token member
    have inRead : token ∈ read := (List.takeWhile_prefix _).subset (List.mem_filter.mp member).1
    simpa using List.countP_eq_zero.mp absent token inRead
  rw [Reading.follow_noIf noIf, Option.some.injEq] at follows
  exact started follows.symm

/-- What is left of tokens behind those that were read from them comes after those. -/
theorem drop_of_split {tokens read later : List Token} {position : Nat}
    (split : tokens.drop position = read ++ later) :
    tokens.drop (position + read.length) = later := by
  rw [← List.drop_drop, split, List.drop_left]

/-- Counted from the end of all tokens or of those that are left, a place is the same. -/
theorem position_of_left {tokens rest : List Token} {position : Nat}
    (bounded : position ≤ tokens.length) (fewer : rest.length ≤ (tokens.drop position).length) :
    tokens.length - rest.length = position + ((tokens.drop position).length - rest.length) := by
  rw [List.length_drop] at fewer ⊢
  omega

/-- A fresh search stands at the start of its tokens. -/
theorem StatementSearch.on_ofTokens (tokens : List Token) :
    (StatementSearch.ofTokens tokens).On tokens :=
  ⟨rfl, Nat.zero_le _, nofun⟩

/--
A call ends as a fresh one on the tokens that are left would end.

The two blame the same tokens, and differ at most in what stands in where there are none.
-/
theorem StatementSearch.advance_eq_fresh (search : StatementSearch)
    (bounded : search.position ≤ search.tokens.length) :
    let fresh := StatementSearch.ofTokens (search.tokens.drop search.position)
    search.advance.2 =
        ⟨search.tokens, search.position + fresh.advance.2.position, fresh.advance.2.checkpoint⟩ ∧
      ((search.advance.1 = .ok true ∧ fresh.advance.1 = .ok true) ∨
        ∃ checkpoint blamed,
          search.advance.1 = .error (.unmetCheckpoint checkpoint (search.blame blamed)) ∧
          fresh.advance.1 = .error (.unmetCheckpoint checkpoint (fresh.blame blamed))) := by
  -- Both are decided by one walk along the tokens that are left.
  intro fresh
  have unread : fresh.tokens.drop fresh.position = search.tokens.drop search.position :=
    List.drop_zero
  have walks := passAll_inOrder (search.tokens.drop search.position)
  cases walked : passAll Checkpoint.inOrder (search.tokens.drop search.position) with
  | ok rest =>
    rw [walked] at walks
    obtain ⟨read, last, _, split, _⟩ := Reading.search_ok (by simp) walks.symm
    have fewer : rest.length ≤ (search.tokens.drop search.position).length := by
      rw [split, List.length_append, List.length_cons]
      omega
    have position : search.tokens.length - rest.length =
        search.position + (fresh.tokens.length - rest.length) := position_of_left bounded fewer
    have here : search.advance = (.ok true, ⟨search.tokens,
        search.position + (fresh.tokens.length - rest.length), .findCloseBrace⟩) := by
      simp only [StatementSearch.advance, walked, position]
    have there : fresh.advance =
        (.ok true, ⟨fresh.tokens, fresh.tokens.length - rest.length, .findCloseBrace⟩) := by
      simp only [StatementSearch.advance, unread, walked]
    rw [here, there]
    exact ⟨rfl, .inl ⟨rfl, rfl⟩⟩
  | error failure =>
    obtain ⟨checkpoint, blamed⟩ := failure
    rw [walked] at walks
    obtain ⟨read, _, split, _⟩ := Reading.search_error (by simp) walks.symm
    have fewer : blamed.length ≤ (search.tokens.drop search.position).length := by
      rw [split, List.length_append]
      omega
    have position : search.tokens.length - blamed.length =
        search.position + (fresh.tokens.length - blamed.length) := position_of_left bounded fewer
    have here : search.advance = (.error (.unmetCheckpoint checkpoint (search.blame blamed)),
        ⟨search.tokens, search.position + (fresh.tokens.length - blamed.length), checkpoint⟩) := by
      simp only [StatementSearch.advance, walked, position]
    have there : fresh.advance = (.error (.unmetCheckpoint checkpoint (fresh.blame blamed)),
        ⟨fresh.tokens, fresh.tokens.length - blamed.length, checkpoint⟩) := by
      simp only [StatementSearch.advance, unread, walked]
    rw [here, there]
    exact ⟨rfl, .inr ⟨checkpoint, blamed, rfl, rfl⟩⟩

section On

variable {search : StatementSearch} {tokens : List Token}

/-- Reading tokens without an end among them keeps a search on its tokens. -/
theorem StatementSearch.On.pass (on : search.On tokens) {read later : List Token}
    (split : tokens.drop search.position = read ++ later)
    (endless : ∀ token ∈ read, token.kind ≠ .endOfInput) (checkpoint : Checkpoint) :
    StatementSearch.On ⟨tokens, search.position + read.length, checkpoint⟩ tokens := by
  have lengths := congrArg List.length split
  rw [List.length_drop, List.length_append] at lengths
  have inside := on.inside
  refine ⟨rfl, by simp only; omega, ?_⟩
  -- What has been read by then is what had been read before, and the tokens read now.
  rw [List.take_add, split, List.take_left]
  exact List.forall_mem_append.mpr ⟨on.endless, endless⟩

/-- A call reads on along the tokens to no end marker, and it reads an `if` or misses one. -/
theorem StatementSearch.On.reads (on : search.On tokens) :
    ∃ read later, tokens.drop search.position = read ++ later ∧
      (∀ token ∈ read, token.kind ≠ .endOfInput) ∧
      search.advance.2 = ⟨tokens, search.position + read.length, search.advance.2.checkpoint⟩ ∧
      (missesIf search.advance.1 = false → 0 < ifCount read) := by
  obtain rfl := on.tokens_eq
  rcases search.advance_cases on.inside with
    ⟨read, last, reached, rest, split, endless, more, _, follows, _, meets, result⟩ |
    ⟨read, reached, blamed, split, endless, follows, _, _, result⟩
  · -- The token that completes the statement is read as well, and it does not come first.
    have started : reached ≠ .beforeIf := by
      intro unstarted
      rw [unstarted, Reading.meet] at meets
      split at meets <;> cases meets
    refine ⟨read ++ [last], rest, by simp [split], ?_, ?_, ?_⟩
    · exact List.forall_mem_append.mpr ⟨endless, by simpa using more⟩
    · rw [result, List.length_append, List.length_singleton]
    · intro _
      rw [ifCount_append]
      exact Nat.add_pos_left (ifCount_pos follows started) _
  · refine ⟨read, blamed, split, endless, by rw [result], ?_⟩
    -- The checkpoint of an `if` is only missed by a reading that has not started.
    intro useful
    rw [result] at useful
    apply ifCount_pos follows
    intro unstarted
    rw [unstarted] at useful
    cases useful

/-- A call leads on along the tokens, and to no end marker. -/
theorem StatementSearch.On.advance (on : search.On tokens) :
    search.advance.2.On tokens ∧ search.position ≤ search.advance.2.position := by
  obtain ⟨read, later, split, endless, state, _⟩ := on.reads
  rw [state]
  exact ⟨on.pass split endless _, Nat.le_add_right _ _⟩

/-- However often it is called, a search stands on its tokens. -/
theorem StatementSearch.On.afterCalls (on : search.On tokens) (calls : Nat) :
    (search.afterCalls calls).On tokens := by
  -- Each call keeps the search on its tokens, so that all of them do.
  induction calls generalizing search with
  | zero => exact on
  | succ calls ih => exact ih on.advance.1

/-- No end marker is behind a search that stands on its tokens. -/
theorem StatementSearch.On.position_le (on : search.On tokens) {index : Nat} {token : Token}
    (found : tokens[index]? = some token) (ended : token.kind = .endOfInput) :
    search.position ≤ index := by
  -- A marker further back would be among the tokens that were read.
  by_cases behind : index < search.position
  · have member : token ∈ tokens.take search.position :=
      List.mem_of_getElem? ((List.getElem?_take_of_lt behind).trans found)
    exact absurd ended (on.endless token member)
  · omega

/-- The statement that a call finds ends with the shortest front that is accepted. -/
theorem StatementSearch.On.finds (on : search.On tokens) (found : search.advance.1 = .ok true) :
    search.advance.2.FindsShortest (tokens.drop search.position)
      (search.advance.2.position - search.position) := by
  obtain rfl := on.tokens_eq
  rcases search.advance_cases on.inside with
    ⟨read, last, reached, rest, split, endless, more, visible, follows, short, meets, result⟩ |
    ⟨_, _, _, _, _, _, _, _, result⟩
  · rw [result, Nat.add_sub_cancel_left, split]
    refine ⟨rfl, ?_, ?_⟩
    · -- The last token that is read completes the reading of those before it.
      have front : (read ++ last :: rest).take (read.length + 1) = read ++ [last] := by
        rw [← List.singleton_append, ← List.append_assoc, List.take_left' (by simp)]
      rw [front, checkStatement_eq_ok_iff_follow, significant_append endless]
      have lastSeen : significant [last] = [last] := by simp [significant_cons, more, visible]
      rw [lastSeen]
      exact Reading.follow_concat follows meets
    · intro fewer less accepted
      have front : (read ++ last :: rest).take fewer = read.take fewer :=
        List.take_append_of_le_length (by omega)
      rw [front, checkStatement_eq_ok_iff_follow] at accepted
      -- A reading that is complete so early would still be complete before the last token.
      have early : ∀ token ∈ read.take fewer, token.kind ≠ .endOfInput :=
        fun token member => endless token (List.mem_of_mem_take member)
      rw [← List.take_append_drop fewer read, significant_append early, Reading.follow_append,
        accepted, Option.bind_some, Reading.follow_complete, Option.some.injEq] at follows
      exact short follows.symm
  · rw [result] at found
    cases found

/-- A call that fails stands at what it blames. -/
theorem StatementSearch.On.fails (on : search.On tokens) {checkpoint : Checkpoint} {span : Span}
    (failed : search.advance.1 = .error (.unmetCheckpoint checkpoint span)) :
    search.advance.2.StandsAtBlamed (tokens.drop search.position)
      (search.advance.2.position - search.position) checkpoint span := by
  obtain rfl := on.tokens_eq
  rcases search.advance_cases on.inside with
    ⟨_, _, _, _, _, _, _, _, _, _, _, result⟩ |
    ⟨read, reached, blamed, split, endless, follows, short, refused, result⟩
  · rw [result] at failed
    cases failed
  · rw [result] at failed
    cases failed
    have front : (read ++ blamed).take read.length = read := List.take_left
    rw [result, Nat.add_sub_cancel_left, split]
    have ahead : ∀ index, search.tokens[search.position + index]? = (read ++ blamed)[index]? := by
      intro index
      rw [← split, List.getElem?_drop]
    refine ⟨rfl, ?_, ?_, ?_⟩
    · rw [front]
      exact ⟨_, checkStatement_append_shortestStatement endless follows⟩
    · intro token next
      rw [ahead, List.getElem?_append_right (Nat.le_refl _), Nat.sub_self,
        ← List.head?_eq_getElem?] at next
      obtain ⟨rest, rfl⟩ := List.head?_eq_some_iff.mp next
      refine ⟨rfl, ?_⟩
      intro list begins
      obtain ⟨more, rfl⟩ := begins
      -- Whatever follows the blamed token, a reading stops at it again.
      rw [front, List.append_assoc, Ne, checkStatement_eq_ok_iff_follow]
      exact Reading.follow_blamed endless follows short refused
    · intro atEnd
      have nothing : blamed = [] := by
        have lengths := congrArg List.length split
        rw [List.length_drop, List.length_append] at lengths
        apply List.eq_nil_of_length_eq_zero
        simp only at atEnd
        omega
      rw [nothing]
      exact search.blame_nil

/-- A search goes on from where it stands on its tokens. -/
theorem StatementSearch.On.resumes (on : search.On tokens) : search.Resumes tokens := by
  obtain ⟨after, forward⟩ := on.advance
  have inside : search.position ≤ search.tokens.length := on.tokens_eq ▸ on.inside
  obtain ⟨state, verdicts⟩ := search.advance_eq_fresh inside
  rw [on.tokens_eq] at state verdicts
  refine ⟨forward, after, fun _ _ found ended => after.position_le found ended,
    congrArg StatementSearch.position state, ?_, ?_, on.finds, fun _ _ => on.fails⟩
  · rcases verdicts with ⟨here, fresh⟩ | ⟨checkpoint, blamed, here, fresh⟩
    · rw [here, checkStatement, fresh]
      exact .accepted
    · rw [here, checkStatement, fresh]
      exact .refused
  · intro unfinished
    rcases verdicts with ⟨here, fresh⟩ | ⟨checkpoint, blamed, here, fresh⟩
    · rw [here, checkStatement, fresh]
    · -- While there are tokens left, their last one is the last one of all.
      have last : (tokens.drop search.position).getLast? = tokens.getLast? := by
        rw [List.getLast?_drop, if_neg (by omega)]
      rw [here, checkStatement, fresh, StatementSearch.blame, StatementSearch.blame, on.tokens_eq,
        StatementSearch.ofTokens, last]

/-- Every verdict but one that misses the `if` has read an `if`. -/
theorem StatementSearch.On.ifsBeforeEnd_advance (on : search.On tokens) :
    ifsBeforeEnd (tokens.drop search.advance.2.position) + [search.advance.1].countP (!missesIf ·) ≤
      ifsBeforeEnd (tokens.drop search.position) := by
  obtain ⟨read, later, split, endless, state, readsIf⟩ := on.reads
  have left : tokens.drop search.advance.2.position = later := by
    rw [state, drop_of_split split]
  rw [left, split, ifsBeforeEnd_append endless, List.countP_singleton]
  cases missed : missesIf search.advance.1 with
  | true => simp
  | false =>
    have positive := readsIf missed
    simp only [Bool.not_false, if_true]
    omega

/-- Among any number of verdicts, no more than the statements that can start are of any use. -/
theorem StatementSearch.On.countP_verdicts (on : search.On tokens) (calls : Nat) :
    (search.verdicts calls).countP (!missesIf ·) ≤
      ifsBeforeEnd (tokens.drop search.position) := by
  -- Each verdict of use leaves one statement less that can start.
  induction calls generalizing search with
  | zero => exact Nat.zero_le _
  | succ calls ih =>
    have later := ih on.advance.1
    have first := on.ifsBeforeEnd_advance
    rw [StatementSearch.verdicts, ← List.singleton_append, List.countP_append]
    omega

/-- A search that has missed the `if` once stays as it is. -/
theorem StatementSearch.On.advance_of_missesIf (on : search.On tokens)
    (missed : missesIf search.advance.1 = true) :
    search.advance.2.advance = search.advance := by
  obtain rfl := on.tokens_eq
  rcases search.advance_cases on.inside with
    ⟨_, _, _, _, _, _, _, _, _, _, _, result⟩ |
    ⟨read, reached, blamed, split, endless, follows, _, refused, result⟩
  · rw [result] at missed
    cases missed
  · -- Only a search that has not met an `if` lacks one.
    have unstarted : reached = .beforeIf := by
      rw [result] at missed
      cases reached with
      | beforeIf => rfl
      | _ => cases missed
    subst unstarted
    have left : search.tokens.drop (search.position + read.length) = blamed := drop_of_split split
    -- Before an `if` only the end is blamed, and it is blamed again.
    have walked : passAll Checkpoint.inOrder blamed = .error (.findIf, blamed) := by
      rw [passAll_inOrder]
      cases blamed with
      | nil => rfl
      | cons token rest =>
        obtain ⟨visible, stuck⟩ := refused token rfl
        exact Reading.search_refuse rest visible stuck
    have lengths := congrArg List.length split
    rw [List.length_drop, List.length_append] at lengths
    have inside := on.inside
    have position : search.tokens.length - blamed.length = search.position + read.length := by
      omega
    rw [result, StatementSearch.advance, left, walked]
    simp only [position]
    rfl

end On

/--
A search goes on as a fresh one would on the tokens that are left, however often it is called.

It finds no more statements than can start, and nothing changes any more once no `if` is found.
-/
theorem search_resumes (tokens : List Token) (calls : Nat) :
    let search := (StatementSearch.ofTokens tokens).afterCalls calls
    search.Resumes tokens ∧
      ((StatementSearch.ofTokens tokens).verdicts calls).countP (!missesIf ·) ≤
        ifsBeforeEnd tokens ∧
      (missesIf search.advance.1 = true → ∀ later,
        (search.advance.2.afterCalls later).advance = search.advance) := by
  intro search
  have start := StatementSearch.on_ofTokens tokens
  have on : search.On tokens := start.afterCalls calls
  refine ⟨on.resumes, start.countP_verdicts calls, ?_⟩
  intro missed later
  -- The call after the one that misses the `if` gives the same, and so does every other one.
  have still := on.advance_of_missesIf missed
  induction later with
  | zero => exact still
  | succ later ih =>
    rw [StatementSearch.afterCalls, still]
    exact ih

/-- The `if` that spoils one statement starts the next one, and no third one is ever found. -/
theorem search_resumes_secondIf :
    let tokens : List Token :=
      [⟨.reservedWord, "if", ⟨0, 2⟩⟩, ⟨.identifier, "x", ⟨3, 4⟩⟩, ⟨.reservedWord, "if", ⟨5, 7⟩⟩,
       ⟨.identifier, "x", ⟨8, 9⟩⟩, ⟨.relationalOperator, "=", ⟨9, 10⟩⟩, ⟨.number, "1", ⟨10, 11⟩⟩,
       ⟨.openBrace, "\x7b", ⟨11, 12⟩⟩, ⟨.closeBrace, "\x7d", ⟨12, 13⟩⟩,
       ⟨.endOfInput, "", ⟨13, 13⟩⟩]
    let search := StatementSearch.ofTokens tokens
    search.verdicts 3 = [.error (.unmetCheckpoint .findRelationalOperator ⟨5, 7⟩), .ok true,
        .error (.unmetCheckpoint .findIf ⟨13, 13⟩)] ∧
      (search.afterCalls 2).FindsShortest (tokens.drop 2) 6 ∧
      ∀ later, ((search.afterCalls 3).afterCalls later).advance =
        (.error (.unmetCheckpoint .findIf ⟨13, 13⟩), ⟨tokens, 8, .findIf⟩) := by
  -- The verdicts are computed, and the general result tells what they mean.
  intro tokens search
  obtain ⟨second, _⟩ := search_resumes tokens 1
  obtain ⟨_, _, still⟩ := search_resumes tokens 2
  exact ⟨rfl, second.finds rfl, still rfl⟩

end IfStatement
