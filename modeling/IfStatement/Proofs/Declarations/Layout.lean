import IfStatement.Declarations
import IfStatement.Proofs.Text.Visible

/-! Declarations are respected or not whatever the layout of the tokens. -/

namespace IfStatement

/-- The tokens from the first one on that a walk refuses, or none if it accepts all of them. -/
def Scope.refused : Scope → List Token → List Token
  | _, [] => []
  | scope, token :: rest =>
    match scope.visit token with
    | .ok next => next.refused rest
    | .error _ => token :: rest

/-- Only an identifier is refused, and it is blamed under its own name. -/
theorem Scope.visit_error {scope : Scope} {token : Token} {error : CheckError}
    (failed : scope.visit token = .error error) :
    token.kind = .identifier ∧ error = .undeclaredVariable token.lexeme token.span := by
  -- All other kinds of token are accepted, and so is an identifier outside a condition.
  unfold Scope.visit at failed
  split at failed
  case h_3 identifier =>
    split at failed
    · split at failed
      · cases failed
      · cases failed
        exact ⟨identifier, rfl⟩
    · cases failed
  all_goals cases failed

/-- A walk fails with the first token that is refused. -/
theorem Scope.walk_refused (scope : Scope) (tokens : List Token) :
    (scope.walk tokens).1 =
      match scope.refused tokens with
      | [] => .ok ()
      | token :: _ => .error (.undeclaredVariable token.lexeme token.span) := by
  -- Both go on in the same way after each token that is accepted.
  induction tokens generalizing scope with
  | nil => rfl
  | cons token rest ih =>
    rw [Scope.walk, Scope.refused]
    cases visited : scope.visit token with
    | ok next => exact ih next
    | error error =>
      obtain ⟨_, rfl⟩ := Scope.visit_error visited
      rfl

/-- The refused tokens are the last ones, and the first of them is visible. -/
theorem Scope.refused_split (scope : Scope) (tokens : List Token) :
    ∃ read, tokens = read ++ scope.refused tokens ∧
      ∀ token ∈ (scope.refused tokens).head?, token.kind ≠ .whitespace := by
  -- The walk moves each accepted token from those ahead to those read.
  induction tokens generalizing scope with
  | nil => exact ⟨[], rfl, by simp [Scope.refused]⟩
  | cons token rest ih =>
    rw [Scope.refused]
    cases visited : scope.visit token with
    | ok next =>
      obtain ⟨read, split, seen⟩ := ih next
      exact ⟨token :: read, congrArg (token :: ·) split, seen⟩
    | error error =>
      -- A refused token is an identifier, which is visible.
      refine ⟨[], rfl, ?_⟩
      intro first here
      cases here
      simp [(Scope.visit_error visited).1]

/-- White space changes nothing in a scope. -/
theorem Scope.visit_whitespace (scope : Scope) {token : Token} (blank : token.kind = .whitespace) :
    scope.visit token = .ok scope := by
  simp [Scope.visit, blank]

/-- The place of a token is of no use but to be blamed. -/
theorem Scope.visit_symbol (scope : Scope) (token : Token) :
    scope.visit token.symbol.token =
      (scope.visit token).mapError fun _ => .undeclaredVariable token.lexeme .origin := by
  -- Only an identifier in a condition can be refused.
  obtain ⟨kind, lexeme, span⟩ := token
  cases kind <;> try rfl
  by_cases inside : scope.insideCondition = true
  · by_cases known : scope.isDeclared lexeme = true <;>
      simp only [Scope.visit, Token.symbol, Symbol.token, inside, known, reduceIte] <;> rfl
  · simp only [Scope.visit, Token.symbol, Symbol.token, inside]
    rfl

/-- Neither white space nor places make a difference to what is refused. -/
theorem Scope.refused_bare (scope : Scope) (tokens : List Token) :
    scope.refused (bare tokens) = bare (scope.refused tokens) := by
  -- White space is accepted without a change of the scope, so that it can be left out.
  induction tokens generalizing scope with
  | nil => rfl
  | cons token rest ih =>
    by_cases blank : token.kind = .whitespace
    · rw [bare_whitespace blank, Scope.refused, Scope.visit_whitespace scope blank]
      exact ih scope
    · rw [bare_visible blank, Scope.refused, Scope.refused, Scope.visit_symbol]
      -- A visible token is accepted with its place exactly when it is accepted without.
      cases scope.visit token with
      | ok next => exact ih next
      | error _ => exact (bare_visible blank rest).symm

/-- In both layouts declarations are respected, or both fail at the same visible token. -/
theorem checkDeclarations_alike {left right : List Token} (same : bare left = bare right) :
    VerdictsAlike left right (checkDeclarations left) (checkDeclarations right) := by
  have walked : ∀ tokens, checkDeclarations tokens = _ := Scope.empty.walk_refused
  -- What is refused looks the same in both layouts.
  have ahead : bare (Scope.empty.refused left) = bare (Scope.empty.refused right) := by
    rw [← Scope.refused_bare, same, Scope.refused_bare]
  obtain ⟨leftRead, leftSplit, leftSeen⟩ := Scope.empty.refused_split left
  obtain ⟨rightRead, rightSplit, rightSeen⟩ := Scope.empty.refused_split right
  rw [leftSplit, rightSplit] at same
  rw [walked left, walked right]
  -- As much is refused in both layouts, be it nothing or all from one visible token on.
  rcases visible_ahead same ahead leftSeen rightSeen with ⟨leftNone, rightNone⟩ |
    ⟨leftToken, _, rightToken, _, leftSome, rightSome, symbol, index, leftFound, rightFound⟩
  · rw [leftNone, rightNone]
    exact .accepted
  · have lexeme : leftToken.lexeme = rightToken.lexeme := congrArg Symbol.lexeme symbol
    have message : CheckError.message (.undeclaredVariable leftToken.lexeme leftToken.span) =
        CheckError.message (.undeclaredVariable rightToken.lexeme rightToken.span) := by
      rw [lexeme]
      rfl
    rw [← leftSplit] at leftFound
    rw [← rightSplit] at rightFound
    rw [leftSome, rightSome]
    exact .refused
      ⟨rfl, message, index, leftToken, rightToken, leftFound, rightFound, rfl, rfl⟩

end IfStatement
