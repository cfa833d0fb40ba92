import IfStatement.Proofs.Text.Cutting

/-! A token list is what a text becomes exactly when its spans tile the text and its slices fit. -/

namespace IfStatement

/-- Spans tile a stretch when each is nonempty and starts where the one before it stops. -/
def Tiles : List Span → Nat → Nat → Prop
  | [], start, stop => start = stop
  | span :: later, start, stop =>
    span.start = start ∧ span.start < span.stop ∧ Tiles later span.stop stop

/-- A token fits a text when the slice at its span spells its kind and its lexeme. -/
def Token.Fits (text : List Char) (token : Token) : Prop :=
  Spells (token.span.slice text) (text.drop token.span.stop) token.kind token.lexeme

/-- A tiled stretch does not end before it starts. -/
theorem Tiles.le {spans : List Span} {start stop : Nat} (tiles : Tiles spans start stop) :
    start ≤ stop := by
  -- Each tile moves the start forward, and the last one ends at the stop.
  induction spans generalizing start with
  | nil => exact Nat.le_of_eq tiles
  | cons span later ih =>
    obtain ⟨rfl, nonempty, tiles⟩ := tiles
    exact Nat.le_trans (Nat.le_of_lt nonempty) (ih tiles)

/-- Every span of a tiled stretch lies within it. -/
theorem Tiles.bounds {spans : List Span} {start stop : Nat} (tiles : Tiles spans start stop) :
    ∀ span ∈ spans, start ≤ span.start ∧ span.start < span.stop ∧ span.stop ≤ stop := by
  -- The first tile starts the stretch, and the others lie behind it.
  induction spans generalizing start with
  | nil => simp
  | cons span later ih =>
    obtain ⟨rfl, nonempty, tiles⟩ := tiles
    refine List.forall_mem_cons.mpr ⟨⟨Nat.le_refl _, nonempty, tiles.le⟩, fun other member => ?_⟩
    obtain ⟨lower, positive, upper⟩ := ih tiles other member
    exact ⟨by omega, positive, upper⟩

/-- The last tile stops where the tiled stretch does. -/
theorem Tiles.stop_of_last {spans : List Span} {start stop : Nat} (tiles : Tiles spans start stop)
    {last : Span} (member : last ∈ spans.getLast?) : last.stop = stop := by
  -- Each tile in front of another one only moves the start.
  induction spans generalizing start with
  | nil => cases member
  | cons span later ih =>
    obtain ⟨_, _, tiles⟩ := tiles
    cases later with
    | nil =>
      cases member
      exact tiles
    | cons next rest => exact ih tiles member

/-- A token just behind some characters fits when the slice that comes next spells it. -/
theorem fits_append_iff (before slice follow : List Char) (kind : TokenKind) (lexeme : String) :
    Token.Fits (before ++ (slice ++ follow))
        ⟨kind, lexeme, ⟨before.length, before.length + slice.length⟩⟩ ↔
      Spells slice follow kind lexeme := by
  -- The span cuts the slice off what comes before it and what follows it.
  have stop : (before ++ slice).length = before.length + slice.length := List.length_append
  rw [Token.Fits, Span.slice, ← List.append_assoc, List.take_left' stop, List.drop_left' stop,
    List.drop_left]

/-- Tokens that are cut from the rest of a text tile it, and each of them fits the text. -/
theorem Cuts.tiles {scanner final : Scanner} {lexed : List Token} (cuts : Cuts scanner lexed final)
    {before : List Char} (behind : scanner.position = before.length) :
    Tiles (lexed.map Token.span) scanner.position final.position ∧
      ∀ token ∈ lexed, token.Fits (before ++ scanner.rest) := by
  -- The text behind the scanner grows by a slice with every token that is cut.
  induction cuts generalizing before with
  | nil => exact ⟨rfl, by simp⟩
  | @cons slice follow position kind lexeme later final spells cuts ih =>
    -- The first slice joins the characters that are behind the others.
    have behindSlice : position + slice.length = (before ++ slice).length := by
      rw [List.length_append, ← behind]
    obtain ⟨tiles, fit⟩ := ih behindSlice
    have positive := spells.length_pos
    refine ⟨⟨rfl, by simp only; omega, tiles⟩, List.forall_mem_cons.mpr ⟨?_, ?_⟩⟩
    · cases behind
      exact (fits_append_iff before slice follow kind lexeme).mpr spells
    · simpa using fit

/-- Tokens that are cut from a whole text tile it from its start, and each of them fits it. -/
theorem Cuts.tiles_ofText {text : List Char} {lexed : List Token} {final : Scanner}
    (cuts : Cuts (.ofText text) lexed final) :
    Tiles (lexed.map Token.span) 0 final.position ∧ ∀ token ∈ lexed, token.Fits text := by
  -- Nothing is behind a scanner that has not read yet.
  have behind : (Scanner.ofText text).position = ([] : List Char).length := rfl
  exact cuts.tiles behind

/-- Tokens that tile the rest of a text and fit it are cut from it. -/
theorem cuts_of_tiles {before rest : List Char} {lexed : List Token}
    (tiles : Tiles (lexed.map Token.span) before.length (before ++ rest).length)
    (fit : ∀ token ∈ lexed, token.Fits (before ++ rest)) :
    Cuts ⟨rest, before.length⟩ lexed ⟨[], (before ++ rest).length⟩ := by
  -- The induction is on the tokens, and each of them moves its slice behind the scanner.
  induction lexed generalizing before rest with
  | nil =>
    have covered : before.length = (before ++ rest).length := tiles
    -- Without a token there is nothing to cover.
    have nothing : rest = [] := by simpa using covered
    subst nothing
    simpa using Cuts.nil
  | cons token later ih =>
    obtain ⟨kind, lexeme, ⟨start, stop⟩⟩ := token
    obtain ⟨fits, others⟩ := List.forall_mem_cons.mp fit
    obtain ⟨starts, nonempty, tiles⟩ := tiles
    simp only at starts nonempty tiles
    subst starts
    -- The first span covers the front of the rest, which it splits in two.
    obtain ⟨slice, follow, rfl, rfl⟩ :
        ∃ slice follow, rest = slice ++ follow ∧ stop = before.length + slice.length := by
      refine ⟨rest.take (stop - before.length), rest.drop (stop - before.length), by simp, ?_⟩
      have inside := tiles.le
      rw [List.length_append] at inside
      rw [List.length_take]
      omega
    -- The slice is spelled at the front, and the other tokens tile what follows it.
    have spells := (fits_append_iff before slice follow kind lexeme).mp fits
    rw [← List.append_assoc] at tiles others ⊢
    rw [← List.length_append] at tiles
    have cuts := ih tiles others
    rw [List.length_append] at cuts
    exact .cons spells cuts

/-- A scanner that has cut up a whole text stands at its end. -/
theorem Cuts.position_of_ended {text : List Char} {lexed : List Token} {final : Scanner}
    (cuts : Cuts (.ofText text) lexed final) (ended : final.rest = []) :
    final.position = text.length := by
  -- The characters that were read are then all characters of the text.
  obtain ⟨read, split, position⟩ := cuts.split
  simp only [Scanner.ofText, Nat.zero_add] at split position
  rw [position, split, ended, List.append_nil]

/-- Every token of a text, the end marker included, starts no later than the text ends. -/
theorem span_start_le_of_tokenize {text : List Char} {tokens : List Token}
    (lexed : tokenize text = .ok tokens) : ∀ token ∈ tokens, token.span.start ≤ text.length := by
  -- The tiles lie within the text, and the end marker stands at its end.
  obtain ⟨cut, final, cuts, ended, rfl⟩ := Scanner.tokenize_eq_ok_iff_cuts.mp lexed
  have bounds := cuts.tiles_ofText.1.bounds
  rw [cuts.position_of_ended ended] at bounds ⊢
  refine List.forall_mem_append.mpr ⟨fun token member => ?_, by simp [Token.endOfInput]⟩
  obtain ⟨_, positive, inside⟩ := bounds token.span (List.mem_map_of_mem member)
  omega

/--
The tokens of a text are exactly those that tile it, fit it and end with one end marker.

Since this holds of any token list, the tokens of a text are the only ones that do all of it.
-/
theorem tokenize_eq_ok_iff_tiles (text : List Char) (tokens : List Token) :
    tokenize text = .ok tokens ↔
      ∃ lexed, tokens = lexed ++ [⟨.endOfInput, "", ⟨text.length, text.length⟩⟩] ∧
        (∀ token ∈ lexed, token.kind ≠ .endOfInput) ∧
        Tiles (lexed.map Token.span) 0 text.length ∧ ∀ token ∈ lexed, token.Fits text := by
  rw [tokenize, Scanner.tokenize_eq_ok_iff_cuts]
  constructor
  -- From the scanner to the tiling, the tokens are cut from the start of the text.
  · rintro ⟨lexed, final, cuts, ended, rfl⟩
    obtain ⟨tiles, fit⟩ := cuts.tiles_ofText
    rw [cuts.position_of_ended ended] at tiles ⊢
    exact ⟨lexed, rfl, fun token member => (fit token member).kind_ne_endOfInput, tiles, fit⟩
  -- A tiling of the whole text is one with nothing before it.
  · rintro ⟨lexed, rfl, _, tiles, fit⟩
    have none : ([] : List Char) ++ text = text := List.nil_append text
    rw [← none] at tiles fit
    exact ⟨lexed, _, cuts_of_tiles tiles fit, rfl, rfl⟩

end IfStatement
