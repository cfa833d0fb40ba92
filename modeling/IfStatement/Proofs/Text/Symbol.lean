import IfStatement.Proofs.Text.Cutting
import IfStatement.Proofs.Unicode.Classes

/-! A symbol is a token without its place, and neighbours can fuse when they are written. -/

namespace IfStatement

/-- A symbol is a kind together with a lexeme. -/
structure Symbol where
  kind : TokenKind
  lexeme : String
deriving DecidableEq

/-- The symbol of a token forgets its place in the text. -/
def Token.symbol (token : Token) : Symbol := ⟨token.kind, token.lexeme⟩

/-- The symbol that ends every text. -/
def Symbol.endOfInput : Symbol := ⟨.endOfInput, ""⟩

/-- The spellings of comparisons. -/
def comparisonSpellings : List (List Char) :=
  [['!', '='], ['>'], ['<'], ['='], ['>', '='], ['<', '='], ['=', '=']]

/-- A symbol is lawful when its lexeme is one that its kind can have. -/
inductive Symbol.Lawful : Symbol → Prop where
  /-- The extent of white space is not kept. -/
  | blank : Lawful ⟨.whitespace, ""⟩
  /-- A word starts with a letter, and its spelling decides its kind. -/
  | word {first : Char} {more : List Char} (starts : isAlphabetic first)
    (continues : ∀ character ∈ first :: more, isAlphanumeric character) :
    Lawful ⟨.ofWord (String.ofList (first :: more)), String.ofList (first :: more)⟩
  /-- A number does not start with a letter, even though some letters are numeric. -/
  | number {first : Char} {more : List Char} (starts : ¬ isAlphabetic first)
    (continues : ∀ character ∈ first :: more, isNumeric character) :
    Lawful ⟨.number, String.ofList (first :: more)⟩
  /-- Each punctuation sign has its own kind. -/
  | punctuation {sign : Char} {kind : TokenKind} (listed : (sign, kind) ∈ punctuationSigns) :
    Lawful ⟨kind, String.ofList [sign]⟩
  /-- There are seven comparisons. -/
  | comparison {spelling : List Char} (listed : spelling ∈ comparisonSpellings) :
    Lawful ⟨.relationalOperator, String.ofList spelling⟩
  /-- The end has no text. -/
  | ending : Lawful ⟨.endOfInput, ""⟩

/-- The kinds of words. -/
def TokenKind.isWord : TokenKind → Bool
  | .reservedWord | .varKeyword | .identifier => true
  | _ => false

/-- The comparisons that an equals sign behind them would make longer. -/
def openComparisons : List (List Char) := [['>'], ['<'], ['=']]

/-- The scanner would read on beyond a symbol if this character came next. -/
def Symbol.ContinuedBy (symbol : Symbol) (next : Char) : Prop :=
  match symbol.kind with
  | .whitespace => isWhiteSpace next
  | .reservedWord | .varKeyword | .identifier => isAlphanumeric next
  | .number => isNumeric next
  | .relationalOperator => symbol.lexeme.toList ∈ openComparisons ∧ next = '='
  | _ => False

/-- Two symbols fuse when the scanner cannot tell where the first of them would end. -/
def Symbol.Fuses (left right : Symbol) : Prop :=
  match left.kind with
  | .whitespace => right.kind = .whitespace
  | .reservedWord | .varKeyword | .identifier => right.kind.isWord ∨ right.kind = .number
  | .number => ∃ first ∈ right.lexeme.toList.head?, isNumeric first
  | .relationalOperator =>
    left.lexeme.toList ∈ openComparisons ∧ right.lexeme.toList ∈ [['='], ['=', '=']]
  | _ => False

/-- A symbol is written as a slice that is its lexeme, or any white space for white space. -/
def Symbol.WrittenAs (symbol : Symbol) (slice : List Char) : Prop :=
  if symbol.kind = .whitespace then slice ≠ [] ∧ ∀ character ∈ slice, isWhiteSpace character
  else slice = symbol.lexeme.toList

/-- A word of whatever kind is continued by what is alphanumeric. -/
theorem continuedBy_word (word lexeme : String) (next : Char) :
    Symbol.ContinuedBy ⟨.ofWord word, lexeme⟩ next ↔ isAlphanumeric next = true := by
  unfold TokenKind.ofWord
  split
  · rfl
  · split <;> rfl

/-- A punctuation sign stops the scanner, whatever comes next. -/
theorem not_continuedBy_punctuation {sign : Char} {kind : TokenKind}
    (listed : (sign, kind) ∈ punctuationSigns) (lexeme : String) (next : Char) :
    ¬ Symbol.ContinuedBy ⟨kind, lexeme⟩ next := by
  simp only [punctuationSigns, List.mem_cons, Prod.mk.injEq, List.not_mem_nil, or_false] at listed
  rcases listed with ⟨_, rfl⟩ | ⟨_, rfl⟩ | ⟨_, rfl⟩ | ⟨_, rfl⟩ | ⟨_, rfl⟩ <;> exact id

/-- Every kind of word is one of three. -/
theorem isWord_ofWord (word : String) : (TokenKind.ofWord word).isWord = true := by
  unfold TokenKind.ofWord
  split
  · rfl
  · split <;> rfl

/-- A comparison is one of the listed spellings, and one that no sign behind it makes longer. -/
theorem isComparison_iff {slice follow : List Char} :
    IsComparison slice follow ↔
      slice ∈ comparisonSpellings ∧
        ∀ next ∈ follow.head?, ¬ (slice ∈ openComparisons ∧ next = '=') := by
  constructor
  · rintro (long | ⟨short, alone⟩)
    · -- A comparison that ends with an equals sign cannot become longer.
      simp only [List.mem_cons, List.not_mem_nil, or_false] at long
      rcases long with rfl | rfl | rfl | rfl <;> simp [comparisonSpellings, openComparisons]
    · refine ⟨?_, ?_⟩
      · simp only [List.mem_cons, List.not_mem_nil, or_false] at short
        rcases short with rfl | rfl | rfl <;> simp [comparisonSpellings]
      · rintro next member ⟨_, rfl⟩
        exact alone (Option.mem_def.mp member)
  · rintro ⟨listed, alone⟩
    by_cases open_ : slice ∈ openComparisons
    · refine .inr ⟨open_, ?_⟩
      intro equals
      exact alone '=' equals ⟨open_, rfl⟩
    · left
      simp only [comparisonSpellings, List.mem_cons, List.not_mem_nil, or_false] at listed
      simp only [openComparisons, List.mem_cons, List.not_mem_nil, or_false, not_or] at open_
      obtain ⟨notGreater, notLess, notEqual⟩ := open_
      simpa [notGreater, notLess, notEqual] using listed

/-- A visible symbol is written as its lexeme. -/
theorem writtenAs_visible {kind : TokenKind} (visible : kind ≠ .whitespace) (lexeme : String)
    (slice : List Char) : Symbol.WrittenAs ⟨kind, lexeme⟩ slice ↔ slice = lexeme.toList := by
  rw [Symbol.WrittenAs, if_neg visible]

/-- A punctuation sign is a sign, and its kind is neither white space nor the end. -/
theorem mem_signs_of_punctuation {sign : Char} {kind : TokenKind}
    (listed : (sign, kind) ∈ punctuationSigns) :
    sign ∈ signs ∧ kind ≠ .whitespace ∧ kind ≠ .endOfInput := by
  have all : ∀ entry ∈ punctuationSigns,
      entry.1 ∈ signs ∧ entry.2 ≠ .whitespace ∧ entry.2 ≠ .endOfInput := by
    decide
  exact all (sign, kind) listed

/-- A comparison consists of signs. -/
theorem mem_signs_of_comparison {spelling : List Char} (listed : spelling ∈ comparisonSpellings) :
    ∀ character ∈ spelling, character ∈ signs := by
  have all : ∀ spelling ∈ comparisonSpellings, spelling ⊆ signs := by
    decide
  intro character member
  exact all spelling listed member

/-- Only the end marker has the kind of the end. -/
theorem Symbol.Lawful.eq_endOfInput {symbol : Symbol} (lawful : symbol.Lawful)
    (ended : symbol.kind = .endOfInput) : symbol = .endOfInput := by
  cases lawful with
  | @word first more =>
    have isWord := isWord_ofWord (String.ofList (first :: more))
    have noWord : TokenKind.ofWord (String.ofList (first :: more)) = .endOfInput := ended
    rw [noWord] at isWord
    cases isWord
  | punctuation listed => exact absurd ended (mem_signs_of_punctuation listed).2.2
  | ending => rfl
  | blank | number | comparison => cases ended

/--
A slice spells a token exactly when it is a way to write a lawful symbol and cannot go on.

The first three conditions are about the slice alone, and only the last one looks behind it.
-/
theorem spells_iff {slice follow : List Char} {kind : TokenKind} {lexeme : String} :
    Spells slice follow kind lexeme ↔
      Symbol.Lawful ⟨kind, lexeme⟩ ∧ kind ≠ .endOfInput ∧
        Symbol.WrittenAs ⟨kind, lexeme⟩ slice ∧
        ∀ next ∈ follow.head?, ¬ Symbol.ContinuedBy ⟨kind, lexeme⟩ next := by
  constructor
  · intro spells
    refine ⟨?_, spells.kind_ne_endOfInput, ?_⟩
    · cases spells with
      | blank => exact .blank
      | word visible starts run classified =>
        obtain rfl := isWordKind_iff.mp classified
        exact .word starts run.1
      | number visible noWord starts run => exact .number noWord run.1
      | punctuation classless listed => exact .punctuation listed
      | comparison classless compares => exact .comparison (isComparison_iff.mp compares).1
    · cases spells with
      | blank starts run => exact ⟨⟨List.cons_ne_nil _ _, run.1⟩, run.2⟩
      | word visible starts run classified =>
        obtain rfl := isWordKind_iff.mp classified
        refine ⟨(writtenAs_visible (ofWord_ne_whitespace _) _ _).mpr String.toList_ofList.symm, ?_⟩
        intro next member
        rw [continuedBy_word]
        exact run.2 next member
      | number _ _ starts run =>
        have visible : TokenKind.number ≠ .whitespace := by decide
        exact ⟨(writtenAs_visible visible _ _).mpr String.toList_ofList.symm, run.2⟩
      | punctuation classless listed =>
        have visible := (mem_signs_of_punctuation listed).2.1
        refine ⟨(writtenAs_visible visible _ _).mpr String.toList_ofList.symm, ?_⟩
        intro next _
        exact not_continuedBy_punctuation listed _ next
      | comparison classless compares =>
        have visible : TokenKind.relationalOperator ≠ .whitespace := by decide
        refine ⟨(writtenAs_visible visible _ _).mpr String.toList_ofList.symm, ?_⟩
        intro next member
        simp only [Symbol.ContinuedBy, String.toList_ofList]
        exact (isComparison_iff.mp compares).2 next member
  · rintro ⟨lawful, more, written, stops⟩
    cases lawful with
    | blank =>
      obtain ⟨nonempty, blank⟩ := written
      obtain ⟨first, rest, rfl⟩ := List.exists_cons_of_ne_nil nonempty
      exact .blank (blank first List.mem_cons_self) ⟨blank, stops⟩
    | @word first rest starts continues =>
      rw [writtenAs_visible (ofWord_ne_whitespace _), String.toList_ofList] at written
      subst written
      -- No word starts with white space, since white space continues no word.
      have visible := not_isWhiteSpace_of_isAlphanumeric (isAlphanumeric_of_isAlphabetic starts)
      have run : IsRun isAlphanumeric (first :: rest) follow := by
        refine ⟨continues, ?_⟩
        intro next member
        rw [← continuedBy_word]
        exact stops next member
      exact .word (by simp [visible]) starts run (isWordKind_iff.mpr rfl)
    | @number first rest noWord continues =>
      have apart : TokenKind.number ≠ .whitespace := by decide
      rw [writtenAs_visible apart, String.toList_ofList] at written
      subst written
      have starts := continues first List.mem_cons_self
      have visible := not_isWhiteSpace_of_isAlphanumeric (isAlphanumeric_of_isNumeric starts)
      exact .number (by simp [visible]) noWord starts ⟨continues, stops⟩
    | punctuation listed =>
      obtain ⟨isSign, visible, _⟩ := mem_signs_of_punctuation listed
      rw [writtenAs_visible visible, String.toList_ofList] at written
      subst written
      exact .punctuation (hasNoClass_of_mem_signs isSign) listed
    | @comparison spelling listed =>
      have visible : TokenKind.relationalOperator ≠ .whitespace := by decide
      rw [writtenAs_visible visible, String.toList_ofList] at written
      subst written
      simp only [Symbol.ContinuedBy, String.toList_ofList] at stops
      have compares := isComparison_iff.mpr ⟨listed, stops⟩
      cases slice with
      | nil => simp [comparisonSpellings] at listed
      | cons first rest =>
        have isSign := mem_signs_of_comparison listed first List.mem_cons_self
        exact .comparison (hasNoClass_of_mem_signs isSign) compares
    | ending => exact absurd rfl more

/-- The character behind a slice that spells a token does not continue it. -/
theorem Spells.not_continuedBy {slice follow : List Char} {kind : TokenKind} {lexeme : String}
    (spells : Spells slice follow kind lexeme) :
    ∀ next ∈ follow.head?, ¬ Symbol.ContinuedBy ⟨kind, lexeme⟩ next :=
  (spells_iff.mp spells).2.2.2

/-- A slice spells its token in front of any text that does not continue it. -/
theorem Spells.followedBy {slice follow other : List Char} {kind : TokenKind} {lexeme : String}
    (spells : Spells slice follow kind lexeme)
    (stops : ∀ next ∈ other.head?, ¬ Symbol.ContinuedBy ⟨kind, lexeme⟩ next) :
    Spells slice other kind lexeme := by
  -- Only the last of the conditions looks behind the slice.
  obtain ⟨lawful, more, written, _⟩ := spells_iff.mp spells
  exact spells_iff.mpr ⟨lawful, more, written, stops⟩

end IfStatement
