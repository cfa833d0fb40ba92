import IfStatement.Lexeme

/-! A slice of a text spells one lexeme, which its class and the text behind it determine. -/

namespace IfStatement

/-- A slice is a run of a class when all of it is in the class and the text behind it is not. -/
def IsRun (inClass : Char → Bool) (slice follow : List Char) : Prop :=
  (∀ character ∈ slice, inClass character) ∧ ∀ next ∈ follow.head?, ¬ inClass next

/-- Four words have a kind of their own, and every other word is an identifier. -/
def IsWordKind (word : String) (kind : TokenKind) : Prop :=
  (word ∈ ["if", "return", "true"] ∧ kind = .reservedWord) ∨
    (word = "var" ∧ kind = .varKeyword) ∨
    (word ∉ ["if", "return", "true", "var"] ∧ kind = .identifier)

/-- The signs that are tokens by themselves, with their kinds. -/
def punctuationSigns : List (Char × TokenKind) :=
  [('(', .openParen), (')', .closeParen), ('{', .openBrace), ('}', .closeBrace), (';', .semicolon)]

/-- A comparison ends with an equals sign, or has none behind it. -/
def IsComparison (slice follow : List Char) : Prop :=
  slice ∈ [['!', '='], ['>', '='], ['<', '='], ['=', '=']] ∨
    (slice ∈ [['>'], ['<'], ['=']] ∧ follow.head? ≠ some '=')

/-- A character of no class starts neither white space nor a word nor a number. -/
def HasNoClass (character : Char) : Prop :=
  ¬ isWhiteSpace character ∧ ¬ isAlphabetic character ∧ ¬ isNumeric character

/-- The first character of a slice decides by its class what the slice can spell. -/
inductive Spells : List Char → List Char → TokenKind → String → Prop where
  /-- White space is a whole run of it, and its text is not kept. -/
  | blank {first : Char} {more follow : List Char} (starts : isWhiteSpace first)
    (run : IsRun isWhiteSpace (first :: more) follow) :
    Spells (first :: more) follow .whitespace ""
  /-- A word starts with an alphabetic character and goes on as long as it is alphanumeric. -/
  | word {first : Char} {more follow : List Char} {kind : TokenKind}
    (visible : ¬ isWhiteSpace first) (starts : isAlphabetic first)
    (run : IsRun isAlphanumeric (first :: more) follow)
    (classified : IsWordKind (String.ofList (first :: more)) kind) :
    Spells (first :: more) follow kind (String.ofList (first :: more))
  /-- A number is a whole run of numeric characters. -/
  | number {first : Char} {more follow : List Char} (visible : ¬ isWhiteSpace first)
    (noWord : ¬ isAlphabetic first) (starts : isNumeric first)
    (run : IsRun isNumeric (first :: more) follow) :
    Spells (first :: more) follow .number (String.ofList (first :: more))
  /-- A punctuation sign stands for itself, whatever is behind it. -/
  | punctuation {sign : Char} {follow : List Char} {kind : TokenKind} (classless : HasNoClass sign)
    (listed : (sign, kind) ∈ punctuationSigns) : Spells [sign] follow kind (String.ofList [sign])
  /-- A comparison takes the equals sign behind its first sign. -/
  | comparison {first : Char} {more follow : List Char} (classless : HasNoClass first)
    (compares : IsComparison (first :: more) follow) :
    Spells (first :: more) follow .relationalOperator (String.ofList (first :: more))

/-- A run behind a first character is what can be taken of its class. -/
theorem IsRun.takeWhile {inClass : Char → Bool} {first : Char} {more follow : List Char}
    (run : IsRun inClass (first :: more) follow) : (more ++ follow).takeWhile inClass = more := by
  -- All of the slice is taken, and the character behind it stops the taking.
  obtain ⟨inside, boundary⟩ := run
  rw [List.takeWhile_append_of_pos fun character member => inside character (by simp [member])]
  cases follow with
  | nil => simp
  | cons next rest => simp [boundary next rfl]

/-- Taking all that is of a class behind a first character makes a run. -/
theorem isRun_takeWhile {inClass : Char → Bool} {first : Char} (starts : inClass first)
    (rest : List Char) :
    IsRun inClass (first :: rest.takeWhile inClass) (rest.dropWhile inClass) := by
  -- What is taken is in the class, and what is left does not start with it.
  refine ⟨List.forall_mem_cons.mpr ⟨starts, List.all_eq_true.mp List.all_takeWhile⟩, ?_⟩
  intro next member
  have behind := List.head?_dropWhile_not inClass rest
  rw [Option.mem_def.mp member] at behind
  simpa using behind

/-- The kind of a word is decided by its spelling alone. -/
theorem isWordKind_iff {word : String} {kind : TokenKind} :
    IsWordKind word kind ↔ kind = .ofWord word := by
  -- The reserved words are looked up first, and `var` is none of them.
  by_cases reserved : word = "if" ∨ word = "return" ∨ word = "true"
  · have notVar : word ≠ "var" := by
      rintro rfl
      simp at reserved
    simp [IsWordKind, TokenKind.ofWord, reserved, notVar]
  · by_cases isVar : word = "var"
    · simp [IsWordKind, TokenKind.ofWord, isVar]
    · simp [IsWordKind, TokenKind.ofWord, reserved, isVar]

/-- A sign is punctuation exactly when it is listed. -/
theorem ofPunctuation?_eq_some_iff {sign : Char} {kind : TokenKind} :
    TokenKind.ofPunctuation? sign = some kind ↔ (sign, kind) ∈ punctuationSigns := by
  -- Each listed sign is one case of the function, and the function has no other.
  constructor
  · intro found
    unfold TokenKind.ofPunctuation? at found
    split at found <;> cases found <;> simp [punctuationSigns]
  · intro listed
    simp only [punctuationSigns, List.mem_cons, Prod.mk.injEq, List.not_mem_nil, or_false] at listed
    rcases listed with ⟨rfl, rfl⟩ | ⟨rfl, rfl⟩ | ⟨rfl, rfl⟩ | ⟨rfl, rfl⟩ | ⟨rfl, rfl⟩ <;> rfl

/-- No word is white space. -/
theorem ofWord_ne_whitespace (word : String) : TokenKind.ofWord word ≠ .whitespace := by
  -- A word has one of three kinds, none of which is white space.
  unfold TokenKind.ofWord
  split
  · simp
  · split <;> simp

private theorem punctuation_ne_whitespace {sign : Char} {kind : TokenKind}
    (listed : (sign, kind) ∈ punctuationSigns) : kind ≠ .whitespace := by
  -- The list names no sign for white space.
  rintro rfl
  simp [punctuationSigns] at listed

private theorem isComparison_tail {first : Char} {rest : List Char}
    (starts : startsComparison first rest) :
    ∃ follow, rest = comparisonTail rest ++ follow ∧
      IsComparison (first :: comparisonTail rest) follow := by
  -- The sign behind the first one decides how long the comparison is.
  simp only [startsComparison, Bool.or_eq_true, Bool.and_eq_true, beq_iff_eq] at starts
  by_cases equals : rest.head? = some '='
  · -- An equals sign belongs to the comparison, and after `!` it has to be there.
    obtain ⟨follow, rfl⟩ := List.head?_eq_some_iff.mp equals
    refine ⟨follow, by simp [comparisonTail], .inl ?_⟩
    rcases starts with ((rfl | rfl) | rfl) | ⟨rfl, _⟩ <;> simp [comparisonTail]
  · refine ⟨rest, by simp [comparisonTail, equals], .inr ⟨?_, equals⟩⟩
    rcases starts with ((rfl | rfl) | rfl) | ⟨_, followed⟩
    · simp [comparisonTail, equals]
    · simp [comparisonTail, equals]
    · simp [comparisonTail, equals]
    · exact absurd followed equals

private theorem IsComparison.starts {first : Char} {more follow : List Char}
    (compares : IsComparison (first :: more) follow) :
    startsComparison first (more ++ follow) ∧ comparisonTail (more ++ follow) = more ∧
      TokenKind.ofPunctuation? first = none := by
  -- Both forms are finitely many, and no first sign of theirs is punctuation.
  rcases compares with long | ⟨short, alone⟩
  · simp only [List.mem_cons, List.cons.injEq, List.not_mem_nil, or_false] at long
    rcases long with ⟨rfl, rfl⟩ | ⟨rfl, rfl⟩ | ⟨rfl, rfl⟩ | ⟨rfl, rfl⟩ <;> exact ⟨rfl, rfl, rfl⟩
  · simp only [List.mem_cons, List.cons.injEq, List.not_mem_nil, or_false] at short
    rcases short with ⟨rfl, rfl⟩ | ⟨rfl, rfl⟩ | ⟨rfl, rfl⟩ <;>
      exact ⟨rfl, by simp [comparisonTail, alone], rfl⟩

/-- The lexeme at the front of a text is spelled by the slice that it takes from there. -/
theorem Spells.of_atFront? {first : Char} {rest : List Char} {lexeme : Lexeme}
    (found : Lexeme.atFront? first rest = some lexeme) :
    ∃ follow, first :: rest = lexeme.characters ++ follow ∧
      Spells lexeme.characters follow lexeme.kind lexeme.spelling := by
  -- The classes are tried in order, so each case knows that the earlier ones have failed.
  unfold Lexeme.atFront? at found
  split at found
  · rename_i starts
    cases found
    -- A run of white space has an empty spelling.
    exact ⟨rest.dropWhile isWhiteSpace, by simp, .blank starts (isRun_takeWhile starts rest)⟩
  rename_i visible
  split at found
  · rename_i starts
    cases found
    -- A word starts with a letter but goes on through digits.
    have alphanumeric : isAlphanumeric first := by simp [isAlphanumeric, starts]
    refine ⟨rest.dropWhile isAlphanumeric, by simp, ?_⟩
    rw [Lexeme.spelling, if_neg (ofWord_ne_whitespace _)]
    exact .word visible starts (isRun_takeWhile alphanumeric rest) (isWordKind_iff.mpr rfl)
  rename_i noWord
  split at found
  · rename_i starts
    cases found
    exact ⟨rest.dropWhile isNumeric, by simp, .number visible noWord starts
      (isRun_takeWhile starts rest)⟩
  rename_i noNumber
  -- What is left are the signs, which belong to no class of characters.
  have classless : HasNoClass first := ⟨visible, noWord, noNumber⟩
  split at found
  · rename_i kind isPunctuation
    cases found
    have listed := ofPunctuation?_eq_some_iff.mp isPunctuation
    refine ⟨rest, by simp, ?_⟩
    rw [Lexeme.spelling, if_neg (punctuation_ne_whitespace listed)]
    exact .punctuation classless listed
  split at found
  · rename_i starts
    cases found
    obtain ⟨follow, split, compares⟩ := isComparison_tail starts
    exact ⟨follow, congrArg (first :: ·) split, .comparison classless compares⟩
  · cases found

/-- Where no lexeme starts, the first character has no class, and it is no sign of a token. -/
theorem classless_of_atFront? {first : Char} {rest : List Char}
    (invalid : Lexeme.atFront? first rest = none) :
    HasNoClass first ∧ TokenKind.ofPunctuation? first = none ∧ ¬ startsComparison first rest := by
  -- Every class that is tried has missed the character, and so has every sign.
  unfold Lexeme.atFront? at invalid
  split at invalid
  · cases invalid
  rename_i visible
  split at invalid
  · cases invalid
  rename_i noWord
  split at invalid
  · cases invalid
  rename_i noNumber
  split at invalid
  · cases invalid
  rename_i noPunctuation
  split at invalid
  · cases invalid
  rename_i noComparison
  exact ⟨⟨visible, noWord, noNumber⟩, noPunctuation, noComparison⟩

/-- A slice that spells something is found as the lexeme at the front of its text. -/
theorem Spells.atFront? {slice follow : List Char} {kind : TokenKind} {spelling : String}
    (spells : Spells slice follow kind spelling) :
    ∃ first rest, slice ++ follow = first :: rest ∧
      Lexeme.atFront? first rest = some ⟨kind, slice⟩ ∧
      (⟨kind, slice⟩ : Lexeme).spelling = spelling := by
  -- Each way to spell a token meets its own branch and misses those before it.
  cases spells with
  | blank starts run =>
    exact ⟨_, _, rfl, by simp [Lexeme.atFront?, starts, run.takeWhile], rfl⟩
  | word visible starts run classified =>
    obtain rfl := isWordKind_iff.mp classified
    refine ⟨_, _, rfl, by simp [Lexeme.atFront?, visible, starts, run.takeWhile], ?_⟩
    rw [Lexeme.spelling, if_neg (ofWord_ne_whitespace _)]
  | number visible noWord starts run =>
    exact ⟨_, _, rfl, by simp [Lexeme.atFront?, visible, noWord, starts, run.takeWhile], rfl⟩
  | punctuation classless listed =>
    obtain ⟨visible, noWord, noNumber⟩ := classless
    have found := ofPunctuation?_eq_some_iff.mpr listed
    refine ⟨_, _, rfl, by simp [Lexeme.atFront?, visible, noWord, noNumber, found], ?_⟩
    rw [Lexeme.spelling, if_neg (punctuation_ne_whitespace listed)]
  | comparison classless compares =>
    obtain ⟨visible, noWord, noNumber⟩ := classless
    obtain ⟨starts, tail, noPunctuation⟩ := compares.starts
    exact ⟨_, _, rfl,
      by simp [Lexeme.atFront?, visible, noWord, noNumber, noPunctuation, starts, tail], rfl⟩

end IfStatement
