import IfStatement.Proofs.Statement.Search

/-! The search for a statement never looks at the spelling of an identifier. -/

namespace IfStatement

/-- Renaming changes the spelling of an identifier, and of no other token. -/
def Token.rename (newName : String → String) (token : Token) : Token :=
  if token.kind = .identifier then { token with lexeme := newName token.lexeme } else token

/-- Renaming leaves the place of a search and its checkpoint as they are. -/
def StatementSearch.rename (newName : String → String) (search : StatementSearch) :
    StatementSearch :=
  { search with tokens := search.tokens.map (Token.rename newName) }

/-- What a walk of a reading gives once the tokens that it leaves or blames are renamed. -/
def renamedResult (newName : String → String) :
    Except (Checkpoint × List Token) (List Token) → Except (Checkpoint × List Token) (List Token)
  | .ok rest => .ok (rest.map (Token.rename newName))
  | .error (checkpoint, blamed) => .error (checkpoint, blamed.map (Token.rename newName))

section Rename

variable (newName : String → String)

/-- An identifier gets the new name for its spelling. -/
theorem Token.rename_identifier {token : Token} (mention : token.kind = .identifier) :
    token.rename newName = { token with lexeme := newName token.lexeme } :=
  if_pos mention

/-- Any other token stays as it is. -/
theorem Token.rename_other {token : Token} (other : token.kind ≠ .identifier) :
    token.rename newName = token :=
  if_neg other

/-- Renaming keeps the kind of every token. -/
@[simp] theorem Token.kind_rename (token : Token) : (token.rename newName).kind = token.kind := by
  unfold Token.rename
  split <;> rfl

/-- Renaming keeps the place of every token. -/
@[simp] theorem Token.span_rename (token : Token) : (token.rename newName).span = token.span := by
  unfold Token.rename
  split <;> rfl

/-- A reserved word keeps its spelling. -/
@[simp] theorem Token.reservedWord_rename (token : Token) (word : String) :
    (token.kind = .reservedWord ∧ (token.rename newName).lexeme = word) ↔
      token.kind = .reservedWord ∧ token.lexeme = word := by
  apply and_congr_right
  intro reserved
  rw [Token.rename_other newName (by simp [reserved])]

/-- No reading depends on the spelling of an identifier. -/
theorem Reading.meet_rename (reading : Reading) (token : Token) :
    reading.meet (token.rename newName) = reading.meet token := by
  -- Every reading asks for the kind of the token or whether it is an `if`.
  cases reading <;> simp only [Reading.meet, Token.kind_rename, Token.reservedWord_rename]

/-- A walk along renamed tokens stops where the walk along the tokens themselves does. -/
theorem Reading.search_rename (reading : Reading) (tokens : List Token) :
    reading.search (tokens.map (Token.rename newName)) =
      renamedResult newName (reading.search tokens) := by
  -- The induction is on the tokens, and both walks are in the same reading at each of them.
  induction tokens generalizing reading with
  | nil => rfl
  | cons token rest ih =>
    rw [List.map_cons, Reading.search, Reading.search, Token.kind_rename, Reading.meet_rename]
    split
    · rfl
    split
    · exact ih reading
    split
    · rfl
    · rfl
    · exact ih _

/-- A search blames the same place when all its tokens are renamed. -/
theorem StatementSearch.blame_rename (search : StatementSearch) (blamed : List Token) :
    (search.rename newName).blame (blamed.map (Token.rename newName)) = search.blame blamed := by
  -- The token to blame is renamed as well, but it keeps its place.
  have same : (blamed.map (Token.rename newName)).head?.or (search.rename newName).tokens.getLast? =
      (blamed.head?.or search.tokens.getLast?).map (Token.rename newName) := by
    rw [StatementSearch.rename, List.head?_map, List.getLast?_map, Option.map_or]
  rw [StatementSearch.blame, same, StatementSearch.blame]
  cases blamed.head?.or search.tokens.getLast? with
  | none => rfl
  | some token => exact Token.span_rename newName token

/-- A search through renamed tokens gives the same verdict, and goes on from the same place. -/
theorem StatementSearch.advance_rename (search : StatementSearch) :
    (search.rename newName).advance =
      (search.advance.1, search.advance.2.rename newName) := by
  have left : (search.rename newName).tokens.drop (search.rename newName).position =
      (search.tokens.drop search.position).map (Token.rename newName) := List.map_drop.symm
  have length : (search.rename newName).tokens.length = search.tokens.length :=
    List.length_map ..
  -- Meeting the checkpoints in order is one walk, which ends in the same way for both.
  simp only [StatementSearch.advance, left, length, passAll_inOrder, Reading.search_rename]
  cases Reading.beforeIf.search (search.tokens.drop search.position) with
  | ok rest =>
    simp only [renamedResult, List.length_map]
    rfl
  | error failure =>
    simp only [renamedResult, List.length_map, StatementSearch.blame_rename]
    rfl

/-- Renamed tokens meet the grammar just as the tokens themselves, and fail at the same place. -/
theorem checkStatement_rename (tokens : List Token) :
    checkStatement (tokens.map (Token.rename newName)) = checkStatement tokens := by
  -- A new search of the renamed tokens is a new search that is renamed.
  have advanced : (StatementSearch.ofTokens (tokens.map (Token.rename newName))).advance = _ :=
    StatementSearch.advance_rename newName (.ofTokens tokens)
  rw [checkStatement, advanced]
  rfl

end Rename

end IfStatement
