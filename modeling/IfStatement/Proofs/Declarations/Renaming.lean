import IfStatement.Proofs.Declarations.Session
import IfStatement.Proofs.Statement.Renaming

/-! Declarations are told apart by their names alone, and names only by whether they are equal. -/

namespace IfStatement

section Rename

variable {newName : String → String} {tokens : List Token} {index : Nat}

/-- At every place of renamed tokens stands the token of that place, renamed. -/
theorem getElem?_rename {renamed : Token} :
    (tokens.map (Token.rename newName))[index]? = some renamed ↔
      ∃ token, tokens[index]? = some token ∧ token.rename newName = renamed := by
  rw [List.getElem?_map, Option.map_eq_some_iff]

/-- A token that mentions a name mentions the new name afterwards. -/
theorem Token.Mentions.rename {token : Token} {name : String} (mentions : token.Mentions name) :
    (token.rename newName).Mentions (newName name) := by
  obtain ⟨mention, rfl⟩ := mentions
  rw [Token.rename_identifier newName mention]
  exact ⟨mention, rfl⟩

/-- With different names for different ones, the new name of a name is not mentioned otherwise. -/
theorem Token.Mentions.of_rename (injective : Function.Injective newName) {token : Token}
    {name : String} (mentions : (token.rename newName).Mentions (newName name)) :
    token.Mentions name := by
  obtain ⟨mention, same⟩ := mentions
  rw [Token.kind_rename] at mention
  rw [Token.rename_identifier newName mention] at same
  exact ⟨mention, injective same⟩

/-- A place is inside a condition after renaming exactly when it was before. -/
theorem insideCondition_rename :
    InsideCondition (tokens.map (Token.rename newName)) index ↔ InsideCondition tokens index := by
  -- What opens a condition and what closes one is no identifier.
  simp only [InsideCondition, getElem?_rename]
  constructor
  · rintro ⟨start, before, ⟨_, ⟨keyword, atStart, rfl⟩, isIf⟩, unclosed⟩
    rw [Token.kind_rename, Token.reservedWord_rename] at isIf
    refine ⟨start, before, ⟨keyword, atStart, isIf⟩, ?_⟩
    intro between behind ahead token found
    rw [← Token.kind_rename newName token]
    exact unclosed between behind ahead _ ⟨token, found, rfl⟩
  · rintro ⟨start, before, ⟨keyword, atStart, isIf⟩, unclosed⟩
    rw [← Token.reservedWord_rename newName, ← Token.kind_rename newName] at isIf
    refine ⟨start, before, ⟨_, ⟨keyword, atStart, rfl⟩, isIf⟩, ?_⟩
    rintro between behind ahead _ ⟨token, found, rfl⟩
    rw [Token.kind_rename]
    exact unclosed between behind ahead token found

/-- Renaming keeps mentions, of which there may be more when names are merged. -/
theorem MentionedBefore.rename {name : String} (mentioned : MentionedBefore tokens index name) :
    MentionedBefore (tokens.map (Token.rename newName)) index (newName name) := by
  obtain ⟨earlier, before, token, found, mentions⟩ := mentioned
  exact ⟨earlier, before, _, getElem?_rename.mpr ⟨token, found, rfl⟩, mentions.rename⟩

/-- Renaming brings no mention when no names are merged. -/
theorem MentionedBefore.of_rename (injective : Function.Injective newName) {name : String}
    (mentioned : MentionedBefore (tokens.map (Token.rename newName)) index (newName name)) :
    MentionedBefore tokens index name := by
  obtain ⟨earlier, before, _, stands, mentions⟩ := mentioned
  obtain ⟨token, found, rfl⟩ := getElem?_rename.mp stands
  exact ⟨earlier, before, token, found, mentions.of_rename injective⟩

/-- Renaming brings no undeclared use, whether names are merged or not. -/
theorem UndeclaredUse.of_rename {renamed : Token}
    (use : UndeclaredUse (tokens.map (Token.rename newName)) index renamed) :
    ∃ token, token.rename newName = renamed ∧ UndeclaredUse tokens index token := by
  obtain ⟨⟨stands, mention, fresh⟩, condition⟩ := use
  obtain ⟨token, found, rfl⟩ := getElem?_rename.mp stands
  rw [Token.kind_rename] at mention
  refine ⟨token, rfl, ⟨found, mention, ?_⟩, insideCondition_rename.mp condition⟩
  -- An earlier mention of the old name would be one of the new name.
  intro mentioned
  apply fresh
  rw [Token.rename_identifier newName mention]
  exact mentioned.rename

/-- An undeclared use stays one when no names are merged. -/
theorem UndeclaredUse.rename (injective : Function.Injective newName) {token : Token}
    (use : UndeclaredUse tokens index token) :
    UndeclaredUse (tokens.map (Token.rename newName)) index (token.rename newName) := by
  obtain ⟨⟨found, mention, fresh⟩, condition⟩ := use
  refine ⟨⟨getElem?_rename.mpr ⟨token, found, rfl⟩, ?_, ?_⟩, insideCondition_rename.mpr condition⟩
  · rw [Token.kind_rename]
    exact mention
  · rw [Token.rename_identifier newName mention]
    intro mentioned
    exact fresh (mentioned.of_rename injective)

/-- The token that is blamed after renaming is the one that was blamed before, renamed. -/
theorem blames_rename_iff (injective : Function.Injective newName) {renamed : Token} :
    Blames (tokens.map (Token.rename newName)) index renamed ↔
      ∃ token, token.rename newName = renamed ∧ Blames tokens index token := by
  simp only [blames_iff]
  -- The undeclared uses are at the same places, and so is the first of them.
  constructor
  · rintro ⟨use, least⟩
    obtain ⟨token, same, use⟩ := use.of_rename
    refine ⟨token, same, use, ?_⟩
    intro earlier before other earlierUse
    exact least earlier before _ (earlierUse.rename injective)
  · rintro ⟨token, rfl, use, least⟩
    refine ⟨use.rename injective, ?_⟩
    intro earlier before _ earlierUse
    obtain ⟨other, _, earlierUse⟩ := earlierUse.of_rename
    exact least earlier before other earlierUse

/-- Renaming keeps an accepted list accepted, even when it merges names. -/
theorem checkDeclarations_rename_ok (accepted : checkDeclarations tokens = .ok ()) :
    checkDeclarations (tokens.map (Token.rename newName)) = .ok () := by
  rcases checkDeclarations_cases (tokens.map (Token.rename newName)) with
    ⟨passed, _⟩ | ⟨place, _, first, _⟩
  · exact passed
  · obtain ⟨token, _, use⟩ := first.use.of_rename
    exact absurd use (not_undeclaredUse_of_ok accepted place token)

/-- A refused list is refused at the same place under the new name, unless names are merged. -/
theorem checkDeclarations_rename_error (injective : Function.Injective newName)
    {error : CheckError} (failed : checkDeclarations tokens = .error error) :
    ∃ name span, error = .undeclaredVariable name span ∧
      checkDeclarations (tokens.map (Token.rename newName)) =
        .error (.undeclaredVariable (newName name) span) := by
  obtain ⟨place, token, blames, rfl⟩ := exists_blames failed
  have mention := (blames_iff.mp blames).use.1.identifier
  -- The blamed token is still to blame, with its new name and its old place.
  have renamed := (blames_rename_iff injective).mpr ⟨token, rfl, blames⟩
  have refused := (blames_iff.mp renamed).error
  rw [Token.span_rename, Token.rename_identifier newName mention] at refused
  exact ⟨token.lexeme, token.span, rfl, refused⟩

/-- A check declares the new name of a name exactly when it declared the name itself. -/
theorem declaredBy_rename_iff (injective : Function.Injective newName) {name : String} :
    DeclaredBy (tokens.map (Token.rename newName)) (newName name) ↔ DeclaredBy tokens name := by
  -- Mentions, conditions and the blamed token are all at the same places.
  constructor
  · rintro ⟨index, _, stands, mentions, outside, ahead⟩
    obtain ⟨token, found, rfl⟩ := getElem?_rename.mp stands
    rw [insideCondition_rename] at outside
    refine ⟨index, token, found, mentions.of_rename injective, outside, ?_⟩
    intro place blamed blames
    exact ahead place _ ((blames_rename_iff injective).mpr ⟨blamed, rfl, blames⟩)
  · rintro ⟨index, token, found, mentions, outside, ahead⟩
    have stillOutside : ¬ InsideCondition (tokens.map (Token.rename newName)) index :=
      fun inside => outside (insideCondition_rename.mp inside)
    refine ⟨index, _, getElem?_rename.mpr ⟨token, found, rfl⟩, mentions.rename, stillOutside, ?_⟩
    intro place _ blames
    obtain ⟨blamed, _, blames⟩ := (blames_rename_iff injective).mp blames
    exact ahead place blamed blames

/-- After a check the new name of a name is declared exactly when the name itself would be. -/
theorem Scope.isDeclared_check_rename (injective : Function.Injective newName)
    (scope other : Scope) (name : String) :
    (scope.check (tokens.map (Token.rename newName))).2.isDeclared (newName name) =
      (other.check tokens).2.isDeclared name := by
  -- Each check remembers just its own tokens, whatever its scope knew before.
  have renamed := scope.check_remembers (tokens.map (Token.rename newName)) (newName name)
  have original := other.check_remembers tokens name
  simp only [Option.some.injEq, exists_eq_left'] at renamed original
  rw [Bool.eq_iff_iff, renamed, original]
  exact declaredBy_rename_iff injective

end Rename

/--
Renaming identifiers changes neither the verdict of the grammar nor a list that is accepted.

When no names are merged, the same place is blamed under the new name, and new names are declared
where the old ones were.
-/
theorem checks_up_to_renaming (newName : String → String) (tokens : List Token) :
    let renamed := tokens.map (Token.rename newName)
    checkStatement renamed = checkStatement tokens ∧
    (checkDeclarations tokens = .ok () → checkDeclarations renamed = .ok ()) ∧
    (Function.Injective newName →
      (checkDeclarations renamed = .ok () ↔ checkDeclarations tokens = .ok ()) ∧
      (∀ error, checkDeclarations tokens = .error error →
        ∃ name span, error = .undeclaredVariable name span ∧
          checkDeclarations renamed = .error (.undeclaredVariable (newName name) span)) ∧
      ∀ (scope other : Scope) (name : String),
        (scope.check renamed).2.isDeclared (newName name) =
          (other.check tokens).2.isDeclared name) := by
  intro renamed
  refine ⟨checkStatement_rename newName tokens, checkDeclarations_rename_ok, ?_⟩
  intro injective
  refine ⟨⟨?_, checkDeclarations_rename_ok⟩, ?_, Scope.isDeclared_check_rename injective⟩
  · intro passed
    -- A failure would be one of the renamed tokens as well.
    cases verdict : checkDeclarations tokens with
    | ok _ => rfl
    | error error =>
      obtain ⟨_, _, _, refused⟩ := checkDeclarations_rename_error injective verdict
      rw [passed] at refused
      cases refused
  · intro error failed
    exact checkDeclarations_rename_error injective failed

/-- A variable is still one when its new name is spelled like the keyword. -/
theorem checks_up_to_renaming_keyword :
    let newName : String → String := fun name => "i" ++ name
    let condition : List Token := [⟨.reservedWord, "if", ⟨2, 4⟩⟩, ⟨.identifier, "f", ⟨5, 6⟩⟩]
    let declared : List Token := ⟨.identifier, "f", ⟨0, 1⟩⟩ :: condition
    checkDeclarations declared = .ok () ∧
      checkDeclarations (declared.map (Token.rename newName)) = .ok () ∧
      Function.Injective newName ∧
      checkDeclarations condition = .error (.undeclaredVariable "f" ⟨5, 6⟩) ∧
      ∃ name span, CheckError.undeclaredVariable "f" ⟨5, 6⟩ = .undeclaredVariable name span ∧
        checkDeclarations (condition.map (Token.rename newName)) =
          .error (.undeclaredVariable (newName name) span) := by
  intro newName condition declared
  have injective : Function.Injective newName := by
    intro left right same
    exact (String.append_right_inj "i").mp same
  obtain ⟨_, accepted, _⟩ := checks_up_to_renaming newName declared
  obtain ⟨_, _, unmerged⟩ := checks_up_to_renaming newName condition
  exact ⟨rfl, accepted rfl, injective, rfl, (unmerged injective).2.1 _ rfl⟩

end IfStatement
