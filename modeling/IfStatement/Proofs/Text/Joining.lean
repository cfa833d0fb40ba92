import IfStatement.Proofs.Text.InvalidCharacters
import IfStatement.Proofs.Text.Shifting
import IfStatement.Proofs.Text.Symbol
import IfStatement.Proofs.Text.Tiling
import Mathlib.Data.List.Basic

/-! Texts are scanned apart unless a token, or an error at the end, reaches into the next one. -/

namespace IfStatement

/-- Tokens fuse with a text behind them when the last one before the end marker would go on. -/
def FusesWith (tokens : List Token) (back : List Char) : Prop :=
  ∃ last ∈ tokens.dropLast.getLast?, ∃ next ∈ back.head?, last.symbol.ContinuedBy next

/-- An error blames a final `!`, the one sign that an equals sign behind it makes valid. -/
def BlamesFinalSign (front : List Char) (error : CheckError) : Prop :=
  ∃ before, front = before ++ ['!'] ∧
    error = .invalidCharacter '!' ⟨before.length, before.length + 1⟩

/-- Tokens that are cut from all of a text are cut from its front when more text comes behind it. -/
theorem Cuts.append {scanner final : Scanner} {lexed : List Token} {back : List Char}
    (cuts : Cuts scanner lexed final) (ended : final.rest = [])
    (apart : ∀ last ∈ lexed.getLast?, ∀ next ∈ back.head?, ¬ last.symbol.ContinuedBy next) :
    Cuts ⟨scanner.rest ++ back, scanner.position⟩ lexed ⟨back, final.position⟩ := by
  -- The induction is on the cut, and only its last slice has new text behind it.
  induction cuts with
  | nil =>
    rw [ended]
    exact .nil
  | @cons slice follow position kind lexeme later final spells cuts ih =>
    have stops : ∀ next ∈ (follow ++ back).head?, ¬ Symbol.ContinuedBy ⟨kind, lexeme⟩ next := by
      cases follow with
      | nil =>
        obtain rfl := cuts.eq_nil_of_ended rfl
        exact apart _ rfl
      | cons first rest => exact spells.not_continuedBy
    have laterApart : ∀ last ∈ later.getLast?, ∀ next ∈ back.head?,
        ¬ last.symbol.ContinuedBy next := by
      intro last member
      apply apart last
      rw [List.getLast?_cons, Option.mem_def.mp member]
      rfl
    rw [List.append_assoc]
    exact .cons (spells.followedBy stops) (ih ended laterApart)

/-- A text that does not fuse with the tokens before it is scanned as if it stood alone. -/
theorem tokenize_append_of_apart {front back : List Char} {tokens : List Token}
    (lexed : tokenize front = .ok tokens) (apart : ¬ FusesWith tokens back) :
    tokenize (front ++ back) =
      (shiftResult shiftTokens front.length (tokenize back)).map (tokens.dropLast ++ ·) := by
  obtain ⟨cut, final, cuts, ended, rfl⟩ := Scanner.tokenize_eq_ok_iff_cuts.mp lexed
  rw [FusesWith, List.dropLast_concat] at apart
  -- The tokens of the front are cut first, which leaves the scanner at the start of the back.
  have separate : ∀ last ∈ cut.getLast?, ∀ next ∈ back.head?,
      ¬ last.symbol.ContinuedBy next := by
    intro last member next starts continued
    exact apart ⟨last, member, next, starts, continued⟩
  have joined := cuts.append ended separate
  have behind : (⟨back, final.position⟩ : Scanner) =
      (Scanner.ofText back).shift front.length := by
    rw [cuts.position_of_ended ended]
    rfl
  rw [behind] at joined
  have whole := congrArg Prod.fst joined.tokenize
  rw [Scanner.tokenize_shift] at whole
  rw [List.dropLast_concat]
  exact whole

/-- A text that fuses with the tokens before it changes the last of them. -/
theorem tokenize_append_of_fuses {front back : List Char} {tokens : List Token}
    (lexed : tokenize front = .ok tokens) (fuses : FusesWith tokens back) (more : List Token) :
    tokenize (front ++ back) ≠ .ok (tokens.dropLast ++ more) := by
  obtain ⟨cut, final, cuts, ended, rfl⟩ := Scanner.tokenize_eq_ok_iff_cuts.mp lexed
  obtain ⟨last, isLast, next, starts, continued⟩ := fuses
  rw [List.dropLast_concat] at isLast ⊢
  obtain ⟨tiles, fit⟩ := cuts.tiles_ofText
  have member : last ∈ cut := List.mem_of_getLast? isLast
  intro same
  obtain ⟨whole, finish, wholeCuts, _, split⟩ := Scanner.tokenize_eq_ok_iff_cuts.mp same
  -- If the last token of the front were kept, it would fit the whole text.
  have kept : last ∈ whole := by
    have inside : last ∈ whole ++ [.endOfInput finish.position] :=
      split ▸ List.mem_append_left more member
    rcases List.mem_append.mp inside with kept | marker
    · exact kept
    · rw [List.mem_singleton] at marker
      exact absurd (congrArg Token.kind marker) (fit last member).kind_ne_endOfInput
  have fits : last.Fits (front ++ back) := wholeCuts.tiles_ofText.2 last kept
  -- It stops where the back starts, and there it would have been continued.
  have stop : last.span.stop = front.length := by
    have spanLast : last.span ∈ (cut.map Token.span).getLast? := by
      rw [List.getLast?_map, Option.mem_def.mp isLast]
      rfl
    rw [tiles.stop_of_last spanLast, cuts.position_of_ended ended]
  rw [Token.Fits, stop, List.drop_left] at fits
  exact fits.not_continuedBy next starts continued

/-- The error at a place blames a final `!` exactly when that sign is all there is from there on. -/
theorem blamesFinalSign_iff {front : List Char} {index : Nat} {error : CheckError}
    (blamed : invalidCharacterAt? front index = some error) :
    BlamesFinalSign front error ↔ front.drop index = ['!'] := by
  obtain ⟨found, place, rfl⟩ := invalidCharacterAt?_eq_some_iff.mp blamed
  constructor
  · intro final
    obtain ⟨before, rfl, same⟩ := final
    cases same
    exact List.drop_left
  · intro final
    obtain ⟨inside, here⟩ := List.getElem?_eq_some_iff.mp place
    have sign : front.drop index = found :: front.drop (index + 1) := by
      rw [List.drop_eq_getElem_cons inside, here]
    rw [final, List.cons.injEq] at sign
    obtain ⟨rfl, _⟩ := sign
    refine ⟨front.take index, ?_, ?_⟩
    · rw [← final, List.take_append_drop]
    · rw [List.length_take_of_le (Nat.le_of_lt inside)]

/-- An error stays the same whatever follows, unless that makes a comparison of a final `!`. -/
theorem tokenize_append_error_iff {front : List Char} {error : CheckError}
    (failed : tokenize front = .error error) (back : List Char) :
    tokenize (front ++ back) = .error error ↔
      ¬ (BlamesFinalSign front error ∧ back.head? = some '=') := by
  obtain ⟨index, invalid, least, blamed⟩ := (tokenize_error_iff_first_invalid front error).mp failed
  have inside := invalid.lt_length
  have blamedWhole : invalidCharacterAt? (front ++ back) index = some error := by
    rw [invalidCharacterAt?, List.getElem?_append_left inside]
    exact blamed
  -- The error is the one of its place, and so it stays while that place is invalid.
  have stays : InvalidAt (front ++ back) index ↔
      ¬ (BlamesFinalSign front error ∧ back.head? = some '=') := by
    rw [invalidAt_append_left inside, blamesFinalSign_iff blamed]
    exact and_iff_right invalid
  rw [← stays, tokenize_error_iff_first_invalid]
  constructor
  · intro same
    obtain ⟨other, otherInvalid, _, otherBlamed⟩ := same
    obtain ⟨_, _, rfl⟩ := invalidCharacterAt?_eq_some_iff.mp blamedWhole
    obtain ⟨_, _, equal⟩ := invalidCharacterAt?_eq_some_iff.mp otherBlamed
    cases equal
    exact otherInvalid
  · intro still
    refine ⟨index, still, ?_, blamedWhole⟩
    -- No earlier place has become invalid.
    intro earlier before wrong
    exact least earlier before ((invalidAt_append_left (by omega) back).mp wrong).1

/--
Joined texts are scanned apart exactly when no token reaches from the first into the second.

An error of the first is one of both, unless it blames a final `!` that an equals sign follows.
-/
theorem tokenize_append (front back : List Char) :
    (∀ tokens, tokenize front = .ok tokens →
      (¬ FusesWith tokens back → tokenize (front ++ back) =
        (shiftResult shiftTokens front.length (tokenize back)).map (tokens.dropLast ++ ·)) ∧
      (FusesWith tokens back → ∀ more,
        tokenize (front ++ back) ≠ .ok (tokens.dropLast ++ more))) ∧
    ∀ error, tokenize front = .error error →
      (tokenize (front ++ back) = .error error ↔
        ¬ (BlamesFinalSign front error ∧ back.head? = some '=')) :=
  ⟨fun _ lexed => ⟨tokenize_append_of_apart lexed, tokenize_append_of_fuses lexed⟩,
    fun _ failed => tokenize_append_error_iff failed back⟩

set_option maxRecDepth 4000 in
/-- Behind `x>` a digit stands apart and an equals sign does not, and only that excuses a `!`. -/
theorem tokenize_append_equals :
    let comparison : List Token :=
      [⟨.identifier, "x", ⟨0, 1⟩⟩, ⟨.relationalOperator, ">", ⟨1, 2⟩⟩, ⟨.endOfInput, "", ⟨2, 2⟩⟩]
    tokenize ['x', '>', '7'] = .ok (comparison.dropLast ++
        [⟨.number, "7", ⟨2, 3⟩⟩, ⟨.endOfInput, "", ⟨3, 3⟩⟩]) ∧
      (∀ more, tokenize ['x', '>', '=', '7'] ≠ .ok (comparison.dropLast ++ more)) ∧
      tokenize ['x', '!', '#'] = .error (.invalidCharacter '!' ⟨1, 2⟩) ∧
      tokenize ['x', '!', '='] ≠ .error (.invalidCharacter '!' ⟨1, 2⟩) := by
  intro comparison
  have front : tokenize ['x', '>'] = .ok comparison := by cbv
  have digit : tokenize ['7'] = .ok [⟨.number, "7", ⟨0, 1⟩⟩, ⟨.endOfInput, "", ⟨1, 1⟩⟩] := by cbv
  have failed : tokenize ['x', '!'] = .error (.invalidCharacter '!' ⟨1, 2⟩) := by cbv
  have final : BlamesFinalSign ['x', '!'] (.invalidCharacter '!' ⟨1, 2⟩) := ⟨['x'], rfl, rfl⟩
  have sign : comparison.dropLast.getLast? = some ⟨.relationalOperator, ">", ⟨1, 2⟩⟩ := rfl
  refine ⟨?_, ?_, ?_, ?_⟩
  · have apart : ¬ FusesWith comparison ['7'] := by
      simp [FusesWith, sign, Symbol.ContinuedBy, Token.symbol]
    have joined := ((tokenize_append ['x', '>'] ['7']).1 comparison front).1 apart
    rw [digit] at joined
    exact joined
  · have fuses : FusesWith comparison ['=', '7'] := by
      simp [FusesWith, sign, Symbol.ContinuedBy, Token.symbol, openComparisons]
    exact ((tokenize_append ['x', '>'] ['=', '7']).1 comparison front).2 fuses
  · exact ((tokenize_append ['x', '!'] ['#']).2 _ failed).mpr (by simp)
  · intro still
    exact ((tokenize_append ['x', '!'] ['=']).2 _ failed).mp still ⟨final, rfl⟩

end IfStatement
