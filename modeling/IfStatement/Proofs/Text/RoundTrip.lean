import IfStatement.Proofs.Text.Symbol
import Mathlib.Data.List.Chain

/-! Symbols that keep apart are what texts are cut into, and printing them gives such a text. -/

namespace IfStatement

/-- A symbol is printed as its lexeme, white space as one space and the end as nothing. -/
def Symbol.printed (symbol : Symbol) : List Char :=
  if symbol.kind = .whitespace then [' ']
  else if symbol.kind = .endOfInput then []
  else symbol.lexeme.toList

/-- Symbols are printed one behind the other. -/
def render (symbols : List Symbol) : List Char :=
  symbols.flatMap Symbol.printed

/-- Well-formed symbols are lawful, end with their only end marker, and no neighbours fuse. -/
structure WellFormed (symbols : List Symbol) : Prop where
  ends : ∃ front, symbols = front ++ [.endOfInput] ∧ ∀ symbol ∈ front, symbol.kind ≠ .endOfInput
  lawful : ∀ symbol ∈ symbols, symbol.Lawful
  apart : symbols.IsChain fun left right => ¬ left.Fuses right

/-- Every run of white space is replaced by a single space. -/
def squeezeBlanks : List Char → List Char
  | [] => []
  | character :: rest =>
    if isWhiteSpace character then
      -- The last character of a run stands for all of it.
      if rest.head?.any isWhiteSpace then squeezeBlanks rest else ' ' :: squeezeBlanks rest
    else character :: squeezeBlanks rest

/-- The first character of a written symbol tells which symbols it would continue. -/
structure Symbol.FirstTells (symbol : Symbol) (slice : List Char) : Prop where
  blank : (∃ first ∈ slice.head?, isWhiteSpace first = true) ↔ symbol.kind = .whitespace
  word : (∃ first ∈ slice.head?, isAlphanumeric first = true) ↔
    symbol.kind.isWord = true ∨ symbol.kind = .number
  numeric : (∃ first ∈ slice.head?, isNumeric first = true) ↔
    ∃ first ∈ symbol.lexeme.toList.head?, isNumeric first = true
  equals : slice.head? = some '=' ↔ symbol.lexeme.toList ∈ [['='], ['=', '=']]

private theorem isNumeric_eq_false {character : Char} (noWord : isAlphanumeric character = false) :
    isNumeric character = false := by
  cases numeric : isNumeric character with
  | false => rfl
  | true =>
    rw [isAlphanumeric_of_isNumeric numeric] at noWord
    cases noWord

private theorem equals_classless : isWhiteSpace '=' = false ∧ isAlphanumeric '=' = false :=
  hasNoClass_iff.mp (hasNoClass_of_mem_signs (by simp [signs]))

private theorem firstTells_alphanumeric {kind : TokenKind} {first : Char} {more : List Char}
    (visible : kind ≠ .whitespace) (isWord : kind.isWord = true ∨ kind = .number)
    (starts : isAlphanumeric first = true) :
    Symbol.FirstTells ⟨kind, String.ofList (first :: more)⟩ (first :: more) := by
  -- What continues a word is apart from white space and from all the signs.
  have notBlank := not_isWhiteSpace_of_isAlphanumeric starts
  have notEquals : first ≠ '=' := by
    rintro rfl
    rw [equals_classless.2] at starts
    cases starts
  constructor
  · simp [notBlank, visible]
  · simp [starts, isWord]
  · rw [String.toList_ofList]
  · simp [notEquals]

private theorem firstTells_classless {kind : TokenKind} {sign : Char} {more : List Char}
    (visible : kind ≠ .whitespace) (noWord : ¬ (kind.isWord = true ∨ kind = .number))
    (isSign : sign ∈ signs) (equals : sign = '=' ↔ sign :: more ∈ [['='], ['=', '=']]) :
    Symbol.FirstTells ⟨kind, String.ofList (sign :: more)⟩ (sign :: more) := by
  -- A sign is in no class, so that only the equals sign is left to tell apart.
  obtain ⟨notBlank, notWord⟩ := hasNoClass_iff.mp (hasNoClass_of_mem_signs isSign)
  constructor
  · simp [notBlank, visible]
  · simp only [List.head?_cons, Option.mem_some_iff, exists_eq_left', notWord]
    exact iff_of_false Bool.false_ne_true noWord
  · rw [String.toList_ofList]
  · rw [String.toList_ofList, ← equals, List.head?_cons, Option.some.injEq]

/-- A lawful symbol is known by its first character as far as fusing goes. -/
theorem Symbol.Lawful.firstTells {symbol : Symbol} {slice : List Char} (lawful : symbol.Lawful)
    (written : symbol.WrittenAs slice) : symbol.FirstTells slice := by
  -- Each way to be lawful fixes the class of the first character, and thereby all four answers.
  cases lawful with
  | blank =>
    obtain ⟨nonempty, blank⟩ := written
    obtain ⟨first, rest, rfl⟩ := List.exists_cons_of_ne_nil nonempty
    have isBlank := blank first List.mem_cons_self
    have noWord := not_isAlphanumeric_of_isWhiteSpace isBlank
    have notEquals : first ≠ '=' := by
      rintro rfl
      rw [equals_classless.1] at isBlank
      cases isBlank
    constructor <;> simp [isBlank, noWord, isNumeric_eq_false noWord, notEquals, TokenKind.isWord]
  | @word first rest starts continues =>
    have visible := ofWord_ne_whitespace (String.ofList (first :: rest))
    rw [writtenAs_visible visible, String.toList_ofList] at written
    subst written
    exact firstTells_alphanumeric visible (.inl (isWord_ofWord _))
      (isAlphanumeric_of_isAlphabetic starts)
  | @number first rest noWord continues =>
    have visible : TokenKind.number ≠ .whitespace := by decide
    rw [writtenAs_visible visible, String.toList_ofList] at written
    subst written
    exact firstTells_alphanumeric visible (.inr rfl)
      (isAlphanumeric_of_isNumeric (continues first List.mem_cons_self))
  | punctuation listed =>
    obtain ⟨isSign, visible, _⟩ := mem_signs_of_punctuation listed
    rw [writtenAs_visible visible, String.toList_ofList] at written
    subst written
    simp only [punctuationSigns, List.mem_cons, Prod.mk.injEq, List.not_mem_nil, or_false] at listed
    apply firstTells_classless visible ?_ isSign
    all_goals
      rcases listed with ⟨rfl, rfl⟩ | ⟨rfl, rfl⟩ | ⟨rfl, rfl⟩ | ⟨rfl, rfl⟩ | ⟨rfl, rfl⟩ <;>
        simp [TokenKind.isWord]
  | @comparison spelling listed =>
    have visible : TokenKind.relationalOperator ≠ .whitespace := by decide
    rw [writtenAs_visible visible, String.toList_ofList] at written
    subst written
    cases slice with
    | nil => simp [comparisonSpellings] at listed
    | cons first more =>
      have isSign := mem_signs_of_comparison listed first List.mem_cons_self
      apply firstTells_classless visible (by simp [TokenKind.isWord]) isSign
      simp only [comparisonSpellings, List.mem_cons, List.cons.injEq, List.not_mem_nil, or_false]
        at listed
      rcases listed with ⟨rfl, rfl⟩ | ⟨rfl, rfl⟩ | ⟨rfl, rfl⟩ | ⟨rfl, rfl⟩ | ⟨rfl, rfl⟩ |
        ⟨rfl, rfl⟩ | ⟨rfl, rfl⟩ <;> simp
  | ending =>
    have visible : TokenKind.endOfInput ≠ .whitespace := by decide
    rw [writtenAs_visible visible] at written
    subst written
    constructor <;> simp [TokenKind.isWord]

/-- Symbols fuse exactly when the first character of the second one would continue the first. -/
theorem fuses_iff (left : Symbol) {right : Symbol} {slice : List Char} (lawful : right.Lawful)
    (written : right.WrittenAs slice) :
    left.Fuses right ↔ ∃ first ∈ slice.head?, left.ContinuedBy first := by
  -- A kind is continued by one class of characters, for which the first one gives the answer.
  have tells := lawful.firstTells written
  obtain ⟨kind, lexeme⟩ := left
  cases kind with
  | whitespace => exact tells.blank.symm
  | reservedWord | varKeyword | identifier => exact tells.word.symm
  | number => exact tells.numeric.symm
  | relationalOperator =>
    simp only [Symbol.Fuses, Symbol.ContinuedBy, ← tells.equals, Option.mem_def]
    constructor
    · rintro ⟨open_, starts⟩
      exact ⟨'=', starts, open_, rfl⟩
    · rintro ⟨first, starts, open_, rfl⟩
      exact ⟨open_, starts⟩
  | _ => simp [Symbol.Fuses, Symbol.ContinuedBy]

/-- A lawful symbol is printed in one of the ways to write it. -/
theorem Symbol.Lawful.writtenAs_printed {symbol : Symbol} (lawful : symbol.Lawful) :
    symbol.WrittenAs symbol.printed := by
  have space : isWhiteSpace ' ' = true := by decide +kernel
  by_cases blank : symbol.kind = .whitespace
  · simp [Symbol.WrittenAs, Symbol.printed, blank, space]
  · by_cases ended : symbol.kind = .endOfInput
    · rw [lawful.eq_endOfInput ended]
      rfl
    · simp [Symbol.WrittenAs, Symbol.printed, blank, ended]

/-- Every symbol but the end marker has a text. -/
theorem Symbol.Lawful.printed_ne_nil {symbol : Symbol} (lawful : symbol.Lawful)
    (more : symbol.kind ≠ .endOfInput) : symbol.printed ≠ [] := by
  have spells : Spells symbol.printed [] symbol.kind symbol.lexeme :=
    spells_iff.mpr ⟨lawful, more, lawful.writtenAs_printed, by simp⟩
  exact List.ne_nil_of_length_pos spells.length_pos

/-- Printing a symbol before others puts its own text in front. -/
theorem render_cons (symbol : Symbol) (rest : List Symbol) :
    render (symbol :: rest) = symbol.printed ++ render rest := List.flatMap_cons

/-- Printing an end marker behind other symbols adds nothing. -/
theorem render_concat_endOfInput (front : List Symbol) :
    render (front ++ [.endOfInput]) = render front := by
  simp [render, Symbol.printed, Symbol.endOfInput]

/-- What the scanner could go on with behind a symbol is not what a neighbour of it starts with. -/
theorem not_continuedBy_render {symbol : Symbol} {rest : List Symbol}
    (lawful : ∀ other ∈ rest, other.Lawful) (more : ∀ other ∈ rest, other.kind ≠ .endOfInput)
    (apart : ∀ next ∈ rest.head?, ¬ symbol.Fuses next) :
    ∀ character ∈ (render rest).head?, ¬ symbol.ContinuedBy character := by
  cases rest with
  | nil => simp [render]
  | cons next later =>
    have nextLawful := lawful next List.mem_cons_self
    have nonempty := nextLawful.printed_ne_nil (more next List.mem_cons_self)
    have separate := apart next rfl
    rw [fuses_iff symbol nextLawful nextLawful.writtenAs_printed] at separate
    -- The next symbol has a text of its own, so that its first character comes first.
    intro character member continued
    rw [render_cons, List.head?_append_of_ne_nil _ nonempty] at member
    exact separate ⟨character, member, continued⟩

/-- Printed symbols are cut from their text again, wherever the scanner stands. -/
theorem cuts_render {front : List Symbol} (lawful : ∀ symbol ∈ front, symbol.Lawful)
    (more : ∀ symbol ∈ front, symbol.kind ≠ .endOfInput)
    (apart : front.IsChain fun left right => ¬ left.Fuses right) (position : Nat) :
    ∃ tokens final, Cuts ⟨render front, position⟩ tokens ⟨[], final⟩ ∧
      tokens.map Token.symbol = front := by
  induction front generalizing position with
  | nil => exact ⟨[], position, .nil, rfl⟩
  | cons symbol rest ih =>
    obtain ⟨symbolLawful, restLawful⟩ := List.forall_mem_cons.mp lawful
    obtain ⟨symbolMore, restMore⟩ := List.forall_mem_cons.mp more
    obtain ⟨separate, restApart⟩ := List.isChain_cons.mp apart
    obtain ⟨tokens, final, cuts, symbols⟩ :=
      ih restLawful restMore restApart (position + symbol.printed.length)
    -- The symbol is spelled at the front, since nothing behind it continues it.
    have stops := not_continuedBy_render restLawful restMore separate
    have spells : Spells symbol.printed (render rest) symbol.kind symbol.lexeme :=
      spells_iff.mpr ⟨symbolLawful, symbolMore, symbolLawful.writtenAs_printed, stops⟩
    let token : Token :=
      ⟨symbol.kind, symbol.lexeme, ⟨position, position + symbol.printed.length⟩⟩
    refine ⟨token :: tokens, final, ?_, ?_⟩
    · rw [render_cons]
      exact .cons spells cuts
    · rw [List.map_cons, symbols]
      rfl

/-- The tokens that are cut from a text have lawful symbols, none of which is the end marker. -/
theorem Cuts.lawful {scanner final : Scanner} {tokens : List Token}
    (cuts : Cuts scanner tokens final) :
    ∀ symbol ∈ tokens.map Token.symbol, symbol.Lawful ∧ symbol.kind ≠ .endOfInput := by
  induction cuts with
  | nil => simp
  | cons spells _ ih =>
    obtain ⟨lawful, more, _⟩ := spells_iff.mp spells
    exact List.forall_mem_cons.mpr ⟨⟨lawful, more⟩, ih⟩

/-- The tokens that are cut from a text have symbols that keep apart. -/
theorem Cuts.apart {scanner final : Scanner} {tokens : List Token}
    (cuts : Cuts scanner tokens final) :
    (tokens.map Token.symbol).IsChain fun left right => ¬ left.Fuses right := by
  induction cuts with
  | nil => exact .nil
  | cons spells cuts ih =>
    have stops := spells.not_continuedBy
    refine List.isChain_cons.mpr ⟨?_, ih⟩
    intro next member fuses
    cases cuts with
    | nil => cases member
    | @cons slice follow _ kind lexeme _ _ nextSpells _ =>
      obtain ⟨lawful, _, written, _⟩ := spells_iff.mp nextSpells
      cases member
      -- The text behind the first slice starts where the second slice does.
      obtain ⟨first, starts, continued⟩ := (fuses_iff _ lawful written).mp fuses
      have nonempty := List.ne_nil_of_length_pos nextSpells.length_pos
      have heads : (slice ++ follow).head? = slice.head? :=
        List.head?_append_of_ne_nil slice nonempty
      exact stops first (heads ▸ starts) continued

/-- Text without white space is kept as it is. -/
theorem squeezeBlanks_visible {slice : List Char}
    (visible : ∀ character ∈ slice, isWhiteSpace character = false) (follow : List Char) :
    squeezeBlanks (slice ++ follow) = slice ++ squeezeBlanks follow := by
  induction slice with
  | nil => rfl
  | cons character rest ih =>
    obtain ⟨first, others⟩ := List.forall_mem_cons.mp visible
    simp [squeezeBlanks, first, ih others]

/-- A whole run of white space becomes one space. -/
theorem squeezeBlanks_run {slice follow : List Char} (nonempty : slice ≠ [])
    (run : IsRun isWhiteSpace slice follow) :
    squeezeBlanks (slice ++ follow) = ' ' :: squeezeBlanks follow := by
  obtain ⟨blank, boundary⟩ := run
  induction slice with
  | nil => exact absurd rfl nonempty
  | cons character rest ih =>
    obtain ⟨first, others⟩ := List.forall_mem_cons.mp blank
    cases rest with
    | nil =>
      -- Behind the last character of the run there is no more white space.
      have ends : follow.head?.any isWhiteSpace = false := by
        cases follow with
        | nil => rfl
        | cons next later => simpa using boundary next rfl
      simp [squeezeBlanks, first, ends]
    | cons next later =>
      have goesOn := others next List.mem_cons_self
      have tail := ih (List.cons_ne_nil next later) others
      rw [List.cons_append, squeezeBlanks, if_pos first, ← tail]
      simp [goesOn]

/-- Only white space is spelled by white space. -/
theorem Spells.visible {slice follow : List Char} {kind : TokenKind} {lexeme : String}
    (spells : Spells slice follow kind lexeme) (visible : kind ≠ .whitespace) :
    ∀ character ∈ slice, isWhiteSpace character = false := by
  -- Words, numbers and signs are each apart from white space.
  intro character member
  cases spells with
  | blank => exact absurd rfl visible
  | word _ _ run => exact not_isWhiteSpace_of_isAlphanumeric (run.1 character member)
  | number _ _ _ run =>
    have numeric := run.1 character member
    exact not_isWhiteSpace_of_isAlphanumeric (isAlphanumeric_of_isNumeric numeric)
  | punctuation _ listed =>
    have isSign := (mem_signs_of_punctuation listed).1
    rw [List.mem_singleton] at member
    subst member
    exact (hasNoClass_iff.mp (hasNoClass_of_mem_signs isSign)).1
  | comparison _ compares =>
    have isSign := mem_signs_of_comparison (isComparison_iff.mp compares).1 character member
    exact (hasNoClass_iff.mp (hasNoClass_of_mem_signs isSign)).1

/-- A slice is printed as it stands in the text, up to its white space. -/
theorem Spells.squeezed {slice follow : List Char} {kind : TokenKind} {lexeme : String}
    (spells : Spells slice follow kind lexeme) :
    squeezeBlanks (slice ++ follow) =
      Symbol.printed ⟨kind, lexeme⟩ ++ squeezeBlanks follow := by
  -- A slice is a whole run of white space, or else free of it.
  obtain ⟨_, more, written, stops⟩ := spells_iff.mp spells
  by_cases blank : kind = .whitespace
  · subst blank
    exact squeezeBlanks_run written.1 ⟨written.2, stops⟩
  · rw [writtenAs_visible blank] at written
    rw [squeezeBlanks_visible (spells.visible blank), Symbol.printed, if_neg blank, if_neg more,
      written]

/-- Printing the tokens that are cut from a text gives that text, up to its white space. -/
theorem Cuts.squeezed {scanner final : Scanner} {tokens : List Token}
    (cuts : Cuts scanner tokens final) :
    squeezeBlanks scanner.rest =
      render (tokens.map Token.symbol) ++ squeezeBlanks final.rest := by
  induction cuts with
  | nil => rfl
  | cons spells _ ih =>
    rw [spells.squeezed, ih, List.map_cons, render_cons, List.append_assoc]
    rfl

/-- Nothing fuses with the end marker. -/
theorem not_fuses_endOfInput (left : Symbol) : ¬ left.Fuses .endOfInput := by
  have lawful : Symbol.endOfInput.Lawful := .ending
  have nothing : Symbol.endOfInput.WrittenAs [] := rfl
  rw [fuses_iff left lawful nothing]
  simp

/-- The tokens of a text have well-formed symbols, which print as the text up to white space. -/
theorem wellFormed_of_tokenize {text : List Char} {tokens : List Token}
    (lexed : tokenize text = .ok tokens) :
    WellFormed (tokens.map Token.symbol) ∧
      render (tokens.map Token.symbol) = squeezeBlanks text := by
  -- What is cut from the text keeps apart already, and the end marker fuses with nothing.
  obtain ⟨cut, final, cuts, ended, rfl⟩ := Scanner.tokenize_eq_ok_iff_cuts.mp lexed
  have symbols : (cut ++ [Token.endOfInput final.position]).map Token.symbol =
      cut.map Token.symbol ++ [Symbol.endOfInput] := List.map_append
  have lawful := cuts.lawful
  rw [symbols]
  refine ⟨⟨?_, ?_, ?_⟩, ?_⟩
  · exact ⟨_, rfl, fun symbol member => (lawful symbol member).2⟩
  · refine List.forall_mem_append.mpr ⟨fun symbol member => (lawful symbol member).1, ?_⟩
    exact List.forall_mem_singleton.mpr .ending
  · refine List.isChain_append.mpr ⟨cuts.apart, .singleton _, ?_⟩
    intro left _ right member
    cases member
    exact not_fuses_endOfInput left
  · have squeezed := cuts.squeezed
    rw [ended] at squeezed
    rw [render_concat_endOfInput]
    exact (squeezed.trans (List.append_nil _)).symm

/-- Well-formed symbols are read back from the text that they are printed as. -/
theorem WellFormed.tokenize_render {symbols : List Symbol} (wellFormed : WellFormed symbols) :
    ∃ tokens, tokenize (render symbols) = .ok tokens ∧ tokens.map Token.symbol = symbols := by
  -- The end marker is not printed, and comes back when the text of the others is used up.
  obtain ⟨⟨front, rfl, more⟩, lawful, apart⟩ := wellFormed
  obtain ⟨frontLawful, _⟩ := List.forall_mem_append.mp lawful
  obtain ⟨frontApart, _⟩ := List.isChain_append.mp apart
  obtain ⟨tokens, final, cuts, same⟩ := cuts_render frontLawful more frontApart 0
  refine ⟨tokens ++ [.endOfInput final], ?_, ?_⟩
  · rw [render_concat_endOfInput]
    exact Scanner.tokenize_eq_ok_iff_cuts.mpr ⟨tokens, _, cuts, rfl, rfl⟩
  · rw [List.map_append, same]
    rfl

/--
Well-formed symbols are exactly those that are read back when they are printed.

The tokens of every text are well formed, and print as that text with its white space squeezed.
-/
theorem tokenize_render_roundtrip :
    (∀ symbols, WellFormed symbols ↔
      ∃ tokens, tokenize (render symbols) = .ok tokens ∧ tokens.map Token.symbol = symbols) ∧
    ∀ text tokens, tokenize text = .ok tokens →
      WellFormed (tokens.map Token.symbol) ∧
        render (tokens.map Token.symbol) = squeezeBlanks text := by
  constructor
  · intro symbols
    constructor
    · exact WellFormed.tokenize_render
    · rintro ⟨tokens, lexed, rfl⟩
      exact (wellFormed_of_tokenize lexed).1
  · intro text tokens lexed
    exact wellFormed_of_tokenize lexed

set_option maxRecDepth 4000 in
/-- A word, white space of several kinds, a long comparison and a number keep apart. -/
theorem tokenize_render_roundtrip_comparison :
    let tokens : List Token :=
      [⟨.identifier, "x", ⟨0, 1⟩⟩, ⟨.whitespace, "", ⟨1, 3⟩⟩, ⟨.relationalOperator, ">=", ⟨3, 5⟩⟩,
       ⟨.number, "7", ⟨5, 6⟩⟩, ⟨.endOfInput, "", ⟨6, 6⟩⟩]
    tokenize "x\t\n>=7".toList = .ok tokens ∧ WellFormed (tokens.map Token.symbol) ∧
      render (tokens.map Token.symbol) = squeezeBlanks "x\t\n>=7".toList := by
  intro tokens
  have lexed : tokenize "x\t\n>=7".toList = .ok tokens := by cbv
  exact ⟨lexed, tokenize_render_roundtrip.2 _ _ lexed⟩

end IfStatement
