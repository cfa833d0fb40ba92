import IfStatement.Proofs.Statement.Search

/-! A reading has met exactly the elements of the grammar that the significant tokens match. -/

namespace IfStatement

/-- An optional part is absent or is a single token of its kind. -/
def AbsentOr (kind : TokenKind) (part : List Token) : Prop :=
  part = [] ∨ ∃ token, part = [token] ∧ token.kind = kind

/-- Significant tokens match this many mandatory elements and nothing beyond what goes with them. -/
inductive Matches : Nat → List Token → Prop where
  /-- Anything but an `if` may stand before a statement. -/
  | nothing {before : List Token}
    (noIf : ∀ token ∈ before, ¬ (token.kind = .reservedWord ∧ token.lexeme = "if")) :
    Matches 0 before
  /-- The `if` may be followed by an opening parenthesis. -/
  | keyword {before opening : List Token} {keyword : Token} (matched : Matches 0 before)
    (isIf : keyword.kind = .reservedWord ∧ keyword.lexeme = "if")
    (optional : AbsentOr .openParen opening) : Matches 1 (before ++ [keyword] ++ opening)
  /-- The left side of the comparison is a single operand. -/
  | firstOperand {front : List Token} {operand : Token} (matched : Matches 1 front)
    (accepted : operand.kind = .identifier ∨ operand.kind = .number) :
    Matches 2 (front ++ [operand])
  /-- The comparison is a single operator. -/
  | comparison {front : List Token} {operator : Token} (matched : Matches 2 front)
    (accepted : operator.kind = .relationalOperator) : Matches 3 (front ++ [operator])
  /-- The right side of the comparison may be followed by a closing parenthesis. -/
  | secondOperand {front closing : List Token} {operand : Token} (matched : Matches 3 front)
    (accepted : operand.kind = .identifier ∨ operand.kind = .number)
    (optional : AbsentOr .closeParen closing) : Matches 4 (front ++ [operand] ++ closing)
  /-- The opening brace is followed by as much of a body as there is room for. -/
  | openBrace {front body : List Token} {brace : Token} (matched : Matches 4 front)
    (accepted : brace.kind = .openBrace) (room : body.length ≤ 10)
    (unclosed : ∀ token ∈ body, token.kind ≠ .closeBrace) : Matches 5 (front ++ [brace] ++ body)
  /-- Anything may stand after the closing brace. -/
  | closeBrace {front after : List Token} {brace : Token} (matched : Matches 5 front)
    (accepted : brace.kind = .closeBrace) : Matches 6 (front ++ [brace] ++ after)

/-- An operand is an identifier or a number. -/
theorem isOperand_iff (kind : TokenKind) :
    kind.isOperand ↔ kind = .identifier ∨ kind = .number := by
  cases kind <;> simp [TokenKind.isOperand]

/-- The opening parenthesis may be left out. -/
theorem Matches.bareKeyword {before : List Token} {keyword : Token} (matched : Matches 0 before)
    (isIf : keyword.kind = .reservedWord ∧ keyword.lexeme = "if") :
    Matches 1 (before ++ [keyword]) := by
  simpa using Matches.keyword matched isIf (.inl rfl)

/-- The closing parenthesis may be left out. -/
theorem Matches.bareSecondOperand {front : List Token} {operand : Token} (matched : Matches 3 front)
    (accepted : operand.kind = .identifier ∨ operand.kind = .number) :
    Matches 4 (front ++ [operand]) := by
  simpa using Matches.secondOperand matched accepted (.inl rfl)

/-- Nothing has to follow the closing brace. -/
theorem Matches.lastBrace {front : List Token} {brace : Token} (matched : Matches 5 front)
    (accepted : brace.kind = .closeBrace) : Matches 6 (front ++ [brace]) := by
  -- Here nothing stands after the statement.
  rw [← List.append_nil (front ++ [brace])]
  exact .closeBrace matched accepted

/-- What is known of the significant tokens that have led to a reading. -/
def Reading.Describes : Reading → List Token → Prop
  | .beforeIf, read => Matches 0 read
  -- A reading that may still take an optional part has not taken it yet.
  | .afterIf, read => ∃ before keyword, read = before ++ [keyword] ∧ Matches 0 before ∧
      keyword.kind = .reservedWord ∧ keyword.lexeme = "if"
  | .afterOpenParen, read => Matches 1 read
  | .afterFirstOperand, read => Matches 2 read
  | .afterComparison, read => Matches 3 read
  | .afterSecondOperand, read => ∃ front operand, read = front ++ [operand] ∧ Matches 3 front ∧
      (operand.kind = .identifier ∨ operand.kind = .number)
  | .afterCloseParen, read => Matches 4 read
  | .inBody count, read => ∃ front brace body, read = front ++ [brace] ++ body ∧ Matches 4 front ∧
      brace.kind = .openBrace ∧ body.length = count ∧ count ≤ 10 ∧
      ∀ token ∈ body, token.kind ≠ .closeBrace
  | .complete, read => Matches 6 read

/-- The tokens behind a reading match as many elements as it has met. -/
theorem Reading.Describes.matched {reading : Reading} {read : List Token}
    (described : reading.Describes read) : Matches reading.met read := by
  -- Where an optional part may still come, it counts as left out.
  cases reading with
  | afterIf =>
    obtain ⟨before, keyword, rfl, matched, isIf⟩ := described
    exact matched.bareKeyword isIf
  | afterSecondOperand =>
    obtain ⟨front, operand, rfl, matched, accepted⟩ := described
    exact matched.bareSecondOperand accepted
  | inBody count =>
    obtain ⟨front, brace, body, rfl, matched, accepted, rfl, room, unclosed⟩ := described
    exact .openBrace matched accepted room unclosed
  | _ => exact described

/-- A token that brings a reading forward extends what is known of the tokens behind it. -/
theorem Reading.Describes.meet {reading next : Reading} {read : List Token} {token : Token}
    (described : reading.Describes read) (met : reading.meet token = some next) :
    next.Describes (read ++ [token]) := by
  -- Each way in which a reading can go on is one element of the grammar.
  cases reading with
  | beforeIf =>
    cases described with
    | nothing others =>
      -- The first `if` starts the statement, and there was none before it.
      by_cases isIf : token.kind = .reservedWord ∧ token.lexeme = "if"
      · simp only [Reading.meet, if_pos isIf, Option.some.injEq] at met
        subst next
        exact ⟨read, token, rfl, .nothing others, isIf⟩
      · simp only [Reading.meet, if_neg isIf, Option.some.injEq] at met
        subst next
        exact .nothing (List.forall_mem_append.mpr ⟨others, List.forall_mem_singleton.mpr isIf⟩)
  | afterIf =>
    obtain ⟨before, keyword, rfl, matched, isIf⟩ := described
    -- A parenthesis joins the `if`, and an operand shows that there is none.
    by_cases opens : token.kind = .openParen
    · simp only [Reading.meet, if_pos opens, Option.some.injEq] at met
      subst next
      exact .keyword matched isIf (.inr ⟨token, rfl, opens⟩)
    · simp only [Reading.meet, if_neg opens, Option.ite_none_right_eq_some] at met
      obtain ⟨accepted, ⟨⟩⟩ := met
      exact .firstOperand (matched.bareKeyword isIf) ((isOperand_iff _).mp accepted)
  | afterOpenParen =>
    simp only [Reading.meet, Option.ite_none_right_eq_some] at met
    obtain ⟨accepted, ⟨⟩⟩ := met
    exact .firstOperand described ((isOperand_iff _).mp accepted)
  | afterFirstOperand =>
    simp only [Reading.meet, Option.ite_none_right_eq_some] at met
    obtain ⟨accepted, ⟨⟩⟩ := met
    exact .comparison described accepted
  | afterComparison =>
    simp only [Reading.meet, Option.ite_none_right_eq_some] at met
    obtain ⟨accepted, ⟨⟩⟩ := met
    exact ⟨read, token, rfl, described, (isOperand_iff _).mp accepted⟩
  | afterSecondOperand =>
    obtain ⟨front, operand, rfl, matched, accepted⟩ := described
    -- A parenthesis joins the operand, and a brace shows that there is none.
    by_cases closes : token.kind = .closeParen
    · simp only [Reading.meet, if_pos closes, Option.some.injEq] at met
      subst next
      exact .secondOperand matched accepted (.inr ⟨token, rfl, closes⟩)
    · simp only [Reading.meet, if_neg closes, Option.ite_none_right_eq_some] at met
      obtain ⟨opens, ⟨⟩⟩ := met
      exact ⟨front ++ [operand], token, [], by simp, matched.bareSecondOperand accepted, opens,
        rfl, by simp, by simp⟩
  | afterCloseParen =>
    simp only [Reading.meet, Option.ite_none_right_eq_some] at met
    obtain ⟨opens, ⟨⟩⟩ := met
    exact ⟨read, token, [], by simp, described, opens, rfl, by simp, by simp⟩
  | inBody count =>
    -- A closing brace completes the statement, and any other token joins the body.
    by_cases closes : token.kind = .closeBrace
    · simp only [Reading.meet, if_pos closes, Option.some.injEq] at met
      subst next
      exact described.matched.lastBrace closes
    · simp only [Reading.meet, if_neg closes, Option.ite_none_right_eq_some] at met
      obtain ⟨room, ⟨⟩⟩ := met
      obtain ⟨front, brace, body, rfl, matched, accepted, rfl, _, unclosed⟩ := described
      exact ⟨front, brace, body ++ [token], by simp, matched, accepted, by simp, room,
        List.forall_mem_append.mpr ⟨unclosed, by simpa using closes⟩⟩
  | complete =>
    -- Whatever comes behind a statement joins the tokens after it.
    cases met
    cases described with
    | @closeBrace front after brace matched accepted =>
      rw [List.append_assoc]
      exact .closeBrace matched accepted

/-- What is known of the tokens behind a reading grows with every token it follows. -/
theorem Reading.Describes.follow {reading next : Reading} {read : List Token}
    (described : reading.Describes read) (tokens : List Token)
    (follows : reading.follow tokens = some next) : next.Describes (read ++ tokens) := by
  -- The induction is on the tokens that are followed, each of which adds what it brings.
  induction tokens generalizing reading read with
  | nil =>
    cases follows
    simpa using described
  | cons token rest ih =>
    rw [Reading.follow_cons, Option.bind_eq_some_iff] at follows
    obtain ⟨middle, met, follows⟩ := follows
    simpa using ih (described.meet met) follows

/-- Tokens without an `if` leave a reading before it. -/
theorem Reading.follow_noIf {tokens : List Token}
    (noIf : ∀ token ∈ tokens, ¬ (token.kind = .reservedWord ∧ token.lexeme = "if")) :
    Reading.beforeIf.follow tokens = some .beforeIf := by
  -- Each of the tokens leaves the reading before the `if` where it is.
  induction tokens with
  | nil => rfl
  | cons token rest ih =>
    have head := noIf token List.mem_cons_self
    rw [Reading.follow_cons, Reading.meet, if_neg head]
    exact ih fun later member => noIf later (List.mem_cons_of_mem token member)

/-- A body that fits and is not closed is counted token by token. -/
theorem Reading.follow_body {body : List Token} {count : Nat}
    (room : count + body.length ≤ bodyCapacity)
    (unclosed : ∀ token ∈ body, token.kind ≠ .closeBrace) :
    (Reading.inBody count).follow body = some (.inBody (count + body.length)) := by
  -- Each token of the body takes one of the places that are left.
  induction body generalizing count with
  | nil => rfl
  | cons token rest ih =>
    have head := unclosed token (by simp)
    rw [List.length_cons] at room
    have tail := ih (show count + 1 + rest.length ≤ bodyCapacity by omega) fun later member =>
      unclosed later (by simp [member])
    have more : count < bodyCapacity := by omega
    simp only [Reading.follow_cons, Reading.meet, if_neg head, if_pos more, Option.bind_some, tail,
      List.length_cons]
    congr 2
    omega

/-- Where one element has been met, an operand comes next. -/
theorem Reading.meet_firstOperand {reading : Reading} {token : Token} (met : reading.met = 1)
    (accepted : token.kind.isOperand) : reading.meet token = some .afterFirstOperand := by
  -- An operand is no parenthesis, so it makes no difference whether one has been read.
  have notParen : token.kind ≠ .openParen := by
    intro opens
    simp [opens, TokenKind.isOperand] at accepted
  cases reading <;> simp [Reading.met] at met <;> simp [Reading.meet, accepted, notParen]

/-- Where two elements have been met, a comparison comes next. -/
theorem Reading.meet_comparison {reading : Reading} {token : Token} (met : reading.met = 2)
    (accepted : token.kind = .relationalOperator) :
    reading.meet token = some .afterComparison := by
  cases reading <;> simp [Reading.met] at met
  simp [Reading.meet, accepted]

/-- Where three elements have been met, another operand comes next. -/
theorem Reading.meet_secondOperand {reading : Reading} {token : Token} (met : reading.met = 3)
    (accepted : token.kind.isOperand) : reading.meet token = some .afterSecondOperand := by
  cases reading <;> simp [Reading.met] at met
  simp [Reading.meet, accepted]

/-- Where four elements have been met, the opening brace comes next. -/
theorem Reading.meet_openBrace {reading : Reading} {token : Token} (met : reading.met = 4)
    (accepted : token.kind = .openBrace) : reading.meet token = some (.inBody 0) := by
  cases reading <;> simp [Reading.met] at met <;> simp [Reading.meet, accepted]

/-- Where five elements have been met, the closing brace completes the statement. -/
theorem Reading.meet_closeBrace {reading : Reading} {token : Token} (met : reading.met = 5)
    (accepted : token.kind = .closeBrace) : reading.meet token = some .complete := by
  cases reading <;> simp [Reading.met] at met
  simp [Reading.meet, accepted]

/-- Tokens that match some elements lead to a reading that has met as many. -/
theorem Matches.follow {count : Nat} {tokens : List Token} (matched : Matches count tokens) :
    ∃ reading, Reading.beforeIf.follow tokens = some reading ∧ reading.met = count := by
  -- The induction is on the grammar, one element at a time.
  induction matched with
  | nothing noIf => exact ⟨.beforeIf, Reading.follow_noIf noIf, rfl⟩
  | @keyword before opening keyword matched isIf optional =>
    cases matched with
    | nothing noIf =>
      have follows : Reading.beforeIf.follow (before ++ [keyword]) = some .afterIf :=
        Reading.follow_concat (Reading.follow_noIf noIf) (by simp [Reading.meet, isIf])
      rcases optional with rfl | ⟨paren, rfl, opens⟩
      · exact ⟨.afterIf, by simpa using follows, rfl⟩
      · exact ⟨.afterOpenParen, Reading.follow_concat follows (by simp [Reading.meet, opens]), rfl⟩
  | firstOperand _ accepted ih =>
    obtain ⟨reading, follows, met⟩ := ih
    have meets := Reading.meet_firstOperand met ((isOperand_iff _).mpr accepted)
    exact ⟨_, Reading.follow_concat follows meets, rfl⟩
  | comparison _ accepted ih =>
    obtain ⟨reading, follows, met⟩ := ih
    exact ⟨_, Reading.follow_concat follows (Reading.meet_comparison met accepted), rfl⟩
  | secondOperand _ accepted optional ih =>
    obtain ⟨reading, follows, met⟩ := ih
    have meets := Reading.meet_secondOperand met ((isOperand_iff _).mpr accepted)
    have follows := Reading.follow_concat follows meets
    rcases optional with rfl | ⟨paren, rfl, closes⟩
    · exact ⟨.afterSecondOperand, by simpa using follows, rfl⟩
    · exact ⟨.afterCloseParen, Reading.follow_concat follows (by simp [Reading.meet, closes]), rfl⟩
  | @openBrace front body brace _ accepted room unclosed ih =>
    obtain ⟨reading, follows, met⟩ := ih
    -- The brace starts the count that goes on through the body.
    have opened := Reading.follow_concat follows (Reading.meet_openBrace met accepted)
    refine ⟨.inBody (0 + body.length), ?_, rfl⟩
    rw [Reading.follow_append, opened, Option.bind_some]
    exact Reading.follow_body (by rw [Nat.zero_add]; exact room) unclosed
  | closeBrace _ accepted ih =>
    obtain ⟨reading, follows, met⟩ := ih
    have closed := Reading.follow_concat follows (Reading.meet_closeBrace met accepted)
    exact ⟨.complete, by rw [Reading.follow_append, closed, Option.bind_some,
      Reading.follow_complete], rfl⟩

/-- Matching some elements is the same as leading to a reading that has met as many. -/
theorem matches_iff_follow {count : Nat} {tokens : List Token} :
    Matches count tokens ↔
      ∃ reading, Reading.beforeIf.follow tokens = some reading ∧ reading.met = count := by
  -- A reading describes its tokens, and the grammar can be read element by element.
  constructor
  · exact Matches.follow
  · rintro ⟨reading, follows, rfl⟩
    have start : Reading.beforeIf.Describes [] := .nothing (by simp)
    exact (start.follow tokens follows).matched

end IfStatement
