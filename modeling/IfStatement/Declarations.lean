import IfStatement.CheckError
import IfStatement.Token

/-!
A variable is declared by any mention outside a condition, and must be so before one inside it.
-/

namespace IfStatement

/-- A scope knows the names declared so far and whether the next token is in a condition. -/
structure Scope where
  /-- The names declared so far, each of them once. -/
  declared : List String
  /-- Whether an `if` has been met since the last closing parenthesis. -/
  insideCondition : Bool
deriving DecidableEq

/-- Before the first token nothing is declared and no condition is open. -/
def Scope.empty : Scope := ⟨[], false⟩

/-- A name is declared when some token has declared it. -/
def Scope.isDeclared (scope : Scope) (name : String) : Bool :=
  scope.declared.contains name

/-- A token opens or closes a condition, declares its name or needs it to be declared. -/
def Scope.visit (scope : Scope) (token : Token) : Except CheckError Scope :=
  match token.kind with
  | .reservedWord =>
    .ok (if token.lexeme = "if" then { scope with insideCondition := true } else scope)
  | .closeParen => .ok { scope with insideCondition := false }
  | .identifier =>
    if scope.insideCondition then
      if scope.isDeclared token.lexeme then .ok scope
      else .error (.undeclaredVariable token.lexeme token.span)
    else .ok { scope with declared := scope.declared.insert token.lexeme }
  | _ => .ok scope

/-- Visits tokens in order, and stops with the scope it has when one of them is refused. -/
def Scope.walk (scope : Scope) : List Token → Except CheckError Unit × Scope
  | [] => (.ok (), scope)
  | token :: rest =>
    match scope.visit token with
    | .ok next => next.walk rest
    | .error error => (.error error, scope)

/-- Clearing a scope takes away its names, and then closes the condition it may be in. -/
def Scope.cleared (scope : Scope) : Scope :=
  let nameless := { scope with declared := [] }
  { nameless with insideCondition := false }

/-- Nothing that a scope has known is left once it is cleared. -/
theorem Scope.cleared_eq_empty (scope : Scope) : scope.cleared = .empty := rfl

/-- A check clears what an earlier one has left behind before it walks along its tokens. -/
def Scope.check (scope : Scope) (tokens : List Token) : Except CheckError Unit × Scope :=
  scope.cleared.walk tokens

/-- Whatever a scope has known, a check is the walk of an empty one. -/
theorem Scope.check_eq_walk (scope : Scope) (tokens : List Token) :
    scope.check tokens = Scope.empty.walk tokens := by
  rw [Scope.check, Scope.cleared_eq_empty]

/-- Tokens respect declarations when no condition uses a name before it is declared. -/
def checkDeclarations (tokens : List Token) : Except CheckError Unit :=
  (Scope.empty.check tokens).1

end IfStatement
