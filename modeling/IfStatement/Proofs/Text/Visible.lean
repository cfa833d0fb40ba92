import IfStatement.Proofs.Text.Symbol

/-! Token lists can be compared by what is visible of them, whatever the places of their tokens. -/

namespace IfStatement

/-- The tokens that are not white space, in their order. -/
def visible (tokens : List Token) : List Token :=
  tokens.filter (·.kind != .whitespace)

/-- Whether the first token is visible depends on its kind alone. -/
theorem visible_cons (token : Token) (rest : List Token) :
    visible (token :: rest) =
      if token.kind = .whitespace then visible rest else token :: visible rest := by
  -- The filter keeps the token or leaves it out, and goes on with the others.
  by_cases blank : token.kind = .whitespace <;> simp [visible, blank]

/-- What is visible of two lists is visible of both together. -/
theorem visible_append (front back : List Token) :
    visible (front ++ back) = visible front ++ visible back := by
  simp [visible]

/-- A symbol makes a token that stands nowhere in particular. -/
def Symbol.token (symbol : Symbol) : Token := ⟨symbol.kind, symbol.lexeme, .origin⟩

/-- The visible tokens without their places, which is all that two layouts of a text agree on. -/
def bare (tokens : List Token) : List Token :=
  ((visible tokens).map Token.symbol).map Symbol.token

/-- White space leaves nothing once places do not count. -/
theorem bare_whitespace {token : Token} (blank : token.kind = .whitespace) (rest : List Token) :
    bare (token :: rest) = bare rest := by
  simp [bare, visible_cons, blank]

/-- A visible token stays when its place is taken away. -/
theorem bare_visible {token : Token} (seen : token.kind ≠ .whitespace) (rest : List Token) :
    bare (token :: rest) = token.symbol.token :: bare rest := by
  simp [bare, visible_cons, seen]

/-- Tokens that look the same have one symbol. -/
theorem Symbol.token_injective {left right : Symbol} (same : left.token = right.token) :
    left = right := by
  -- The token keeps both parts of its symbol.
  cases left
  cases right
  cases same
  rfl

/-- Errors of two lists are alike when they say the same, each of it at the same visible token. -/
structure CheckError.Alike (left right : List Token) (leftError rightError : CheckError) :
    Prop where
  phase : leftError.phase = rightError.phase
  message : leftError.message = rightError.message
  place : ∃ (index : Nat) (leftToken rightToken : Token),
    (visible left)[index]? = some leftToken ∧ (visible right)[index]? = some rightToken ∧
    leftError.span? = some leftToken.span ∧ rightError.span? = some rightToken.span

/-- Verdicts on two lists are alike when both are favourable, or both refuse for alike errors. -/
inductive VerdictsAlike {α : Type} (left right : List Token) :
    Except CheckError α → Except CheckError α → Prop where
  | accepted {value : α} : VerdictsAlike left right (.ok value) (.ok value)
  | refused {leftError rightError : CheckError}
    (alike : CheckError.Alike left right leftError rightError) :
    VerdictsAlike left right (.error leftError) (.error rightError)

/--
Lists that look the same, with the same still ahead of them, go on at one visible place.

Unless nothing is ahead of either, the tokens that come next have one symbol.
-/
theorem visible_ahead {leftRead leftAhead rightRead rightAhead : List Token}
    (same : bare (leftRead ++ leftAhead) = bare (rightRead ++ rightAhead))
    (ahead : bare leftAhead = bare rightAhead)
    (leftSeen : ∀ token ∈ leftAhead.head?, token.kind ≠ .whitespace)
    (rightSeen : ∀ token ∈ rightAhead.head?, token.kind ≠ .whitespace) :
    (leftAhead = [] ∧ rightAhead = []) ∨
      ∃ leftToken leftRest rightToken rightRest,
        leftAhead = leftToken :: leftRest ∧ rightAhead = rightToken :: rightRest ∧
        leftToken.symbol = rightToken.symbol ∧
        ∃ index : Nat, (visible (leftRead ++ leftAhead))[index]? = some leftToken ∧
          (visible (rightRead ++ rightAhead))[index]? = some rightToken := by
  -- As much is visible of both lists, and of what is ahead in both, so of what has been read.
  have lengths := congrArg List.length same
  have lengthsAhead := congrArg List.length ahead
  simp only [bare, List.length_map, visible_append, List.length_append] at lengths lengthsAhead
  have read : (visible leftRead).length = (visible rightRead).length := by omega
  match leftAhead, rightAhead with
  | [], [] => exact .inl ⟨rfl, rfl⟩
  -- A visible token ahead of one list alone would make a difference to what is ahead.
  | [], rightToken :: rightRest =>
    rw [bare_visible (rightSeen rightToken rfl)] at ahead
    cases ahead
  | leftToken :: leftRest, [] =>
    rw [bare_visible (leftSeen leftToken rfl)] at ahead
    cases ahead
  | leftToken :: leftRest, rightToken :: rightRest =>
    have leftHere := leftSeen leftToken rfl
    have rightHere := rightSeen rightToken rfl
    rw [bare_visible leftHere, bare_visible rightHere, List.cons.injEq] at ahead
    -- The tokens ahead come behind all visible tokens read, of which there are as many.
    refine .inr ⟨leftToken, leftRest, rightToken, rightRest, rfl, rfl,
      Symbol.token_injective ahead.1, (visible leftRead).length, ?_, ?_⟩
    · simp [visible_append, visible_cons, leftHere]
    · simp [read, visible_append, visible_cons, rightHere]

end IfStatement
