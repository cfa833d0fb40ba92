import IfStatement.Proofs.Declarations.Embedding

/-! A failed check blames the first undeclared use, and nothing that follows it is an excuse. -/

namespace IfStatement

/-- A check blames a token when it accepts all before it, and fails there whatever follows. -/
structure Blames (tokens : List Token) (index : Nat) (token : Token) : Prop where
  found : tokens[index]? = some token
  accepted : checkDeclarations (tokens.take index) = .ok ()
  refused : ∀ later, checkDeclarations (tokens.take index ++ token :: later) =
    .error (.undeclaredVariable token.lexeme token.span)

/-- An undeclared use is the first one when no place before it has another. -/
structure FirstUndeclaredUse (tokens : List Token) (index : Nat) (token : Token) : Prop where
  use : UndeclaredUse tokens index token
  least : ∀ earlier < index, ∀ other, ¬ UndeclaredUse tokens earlier other

/-- A check either finds no undeclared use, or fails with the first one. -/
theorem checkDeclarations_cases (tokens : List Token) :
    (checkDeclarations tokens = .ok () ∧ ∀ index token, ¬ UndeclaredUse tokens index token) ∨
    ∃ index token, FirstUndeclaredUse tokens index token ∧
      checkDeclarations tokens = .error (.undeclaredVariable token.lexeme token.span) := by
  obtain ⟨stop, _, clean, ⟨rfl, accepted⟩ | ⟨token, use, refused⟩⟩ :=
    Scope.empty.check_stops tokens
  · left
    refine ⟨accepted, ?_⟩
    intro index token use
    exact clean index use.lt_length token use
  · exact .inr ⟨stop, token, ⟨use, clean⟩, refused⟩

/-- An accepted list has no undeclared use. -/
theorem not_undeclaredUse_of_ok {tokens : List Token} (accepted : checkDeclarations tokens = .ok ())
    (index : Nat) (token : Token) : ¬ UndeclaredUse tokens index token := by
  rcases checkDeclarations_cases tokens with ⟨_, clean⟩ | ⟨_, _, _, refused⟩
  · exact clean index token
  · rw [accepted] at refused
    cases refused

section First

variable {tokens : List Token} {index : Nat} {token : Token}

/-- There is no more than one first undeclared use. -/
theorem FirstUndeclaredUse.unique (first : FirstUndeclaredUse tokens index token)
    {other : Nat} {blamed : Token} (second : FirstUndeclaredUse tokens other blamed) :
    index = other ∧ token = blamed := by
  rcases Nat.lt_trichotomy index other with before | rfl | behind
  · exact absurd first.use (second.least index before token)
  · exact ⟨rfl, Option.some.inj (first.use.1.found.symm.trans second.use.1.found)⟩
  · exact absurd second.use (first.least other behind blamed)

/-- A check fails with the first undeclared use. -/
theorem FirstUndeclaredUse.error (first : FirstUndeclaredUse tokens index token) :
    checkDeclarations tokens = .error (.undeclaredVariable token.lexeme token.span) := by
  rcases checkDeclarations_cases tokens with ⟨_, clean⟩ | ⟨_, _, second, refused⟩
  · exact absurd first.use (clean index token)
  · rw [(first.unique second).2]
    exact refused

/-- What follows some tokens makes no difference to the undeclared uses among them. -/
theorem undeclaredUse_append_iff {front : List Token} (back : List Token)
    (inside : index < front.length) :
    UndeclaredUse (front ++ back) index token ↔ UndeclaredUse front index token := by
  have embeds := embeds_append front back
  constructor
  · intro use
    have found := use.1.found
    rw [List.getElem?_append_left inside] at found
    exact embeds.undeclaredUse_old (fun _ => False.elim) found use
  · exact embeds.undeclaredUse fun _ => False.elim

/-- What follows some tokens makes no difference to the first undeclared use among them. -/
theorem firstUndeclaredUse_append_iff {front : List Token} (back : List Token)
    (inside : index < front.length) :
    FirstUndeclaredUse (front ++ back) index token ↔ FirstUndeclaredUse front index token := by
  have same : ∀ earlier ≤ index, ∀ other,
      UndeclaredUse (front ++ back) earlier other ↔ UndeclaredUse front earlier other :=
    fun earlier before other => undeclaredUse_append_iff back (Nat.lt_of_le_of_lt before inside)
  constructor
  · rintro ⟨use, least⟩
    refine ⟨(same index (Nat.le_refl _) token).mp use, ?_⟩
    intro earlier before other earlierUse
    exact least earlier before other ((same earlier (Nat.le_of_lt before) other).mpr earlierUse)
  · rintro ⟨use, least⟩
    refine ⟨(same index (Nat.le_refl _) token).mpr use, ?_⟩
    intro earlier before other earlierUse
    exact least earlier before other ((same earlier (Nat.le_of_lt before) other).mp earlierUse)

/-- The last token is the first undeclared use when it fails a check that has passed without it. -/
theorem firstUndeclaredUse_concat_iff (front : List Token) (token : Token) :
    FirstUndeclaredUse (front ++ [token]) front.length token ↔
      checkDeclarations front = .ok () ∧ ∀ later, checkDeclarations (front ++ token :: later) =
        .error (.undeclaredVariable token.lexeme token.span) := by
  have inside : front.length < (front ++ [token]).length := by simp
  constructor
  · intro first
    constructor
    · rcases checkDeclarations_cases front with ⟨accepted, _⟩ | ⟨other, blamed, second, _⟩
      · exact accepted
      · -- A use in front of the token would come before the first one.
        have before := second.use.lt_length
        have use := (undeclaredUse_append_iff [token] before).mpr second.use
        exact absurd use (first.least other before blamed)
    · intro later
      rw [List.append_cons]
      exact ((firstUndeclaredUse_append_iff later inside).mpr first).error
  · rintro ⟨accepted, refused⟩
    rcases checkDeclarations_cases (front ++ [token]) with
      ⟨passed, _⟩ | ⟨other, blamed, first, _⟩
    · rw [refused []] at passed
      cases passed
    · have found := first.use.1.found
      have within := first.use.lt_length
      rw [List.length_append, List.length_singleton] at within
      -- The first use is not in front of the token, and so it is the token itself.
      rcases Nat.lt_or_eq_of_le (Nat.le_of_lt_succ within) with before | rfl
      · have use := (undeclaredUse_append_iff [token] before).mp first.use
        exact absurd use (not_undeclaredUse_of_ok accepted other blamed)
      · rw [List.getElem?_concat_length, Option.some.injEq] at found
        rw [← found] at first
        exact first

/-- Checks of what is before a token, and of it, tell whether it is the first undeclared use. -/
theorem firstUndeclaredUse_iff_of_found (found : tokens[index]? = some token) :
    FirstUndeclaredUse tokens index token ↔ checkDeclarations (tokens.take index) = .ok () ∧
      ∀ later, checkDeclarations (tokens.take index ++ token :: later) =
        .error (.undeclaredVariable token.lexeme token.span) := by
  have inside : index < tokens.length := (List.getElem?_eq_some_iff.mp found).1
  have front : tokens.take (index + 1) = tokens.take index ++ [token] := by
    rw [List.take_add_one, found]
    rfl
  have within : index < (tokens.take (index + 1)).length := by
    rw [List.length_take_of_le inside]
    exact Nat.lt_succ_self index
  -- The tokens behind the one at the place are cut off, so that it is the last one.
  have concat := firstUndeclaredUse_concat_iff (tokens.take index) token
  rw [List.length_take_of_le (Nat.le_of_lt inside), ← front] at concat
  rw [← concat, ← firstUndeclaredUse_append_iff (tokens.drop (index + 1)) within,
    List.take_append_drop]

/-- A check blames the first undeclared use and no other token. -/
theorem blames_iff : Blames tokens index token ↔ FirstUndeclaredUse tokens index token := by
  constructor
  · rintro ⟨found, accepted, refused⟩
    exact (firstUndeclaredUse_iff_of_found found).mpr ⟨accepted, refused⟩
  · intro first
    have found := first.use.1.found
    obtain ⟨accepted, refused⟩ := (firstUndeclaredUse_iff_of_found found).mp first
    exact ⟨found, accepted, refused⟩

/-- A check blames no more than one token. -/
theorem Blames.unique (blames : Blames tokens index token) {other : Nat} {blamed : Token}
    (second : Blames tokens other blamed) : index = other ∧ token = blamed :=
  (blames_iff.mp blames).unique (blames_iff.mp second)

end First

/-- A check that fails blames the token that its error is about. -/
theorem exists_blames {tokens : List Token} {error : CheckError}
    (failed : checkDeclarations tokens = .error error) :
    ∃ index token, Blames tokens index token ∧
      error = .undeclaredVariable token.lexeme token.span := by
  rcases checkDeclarations_cases tokens with ⟨accepted, _⟩ | ⟨index, token, first, refused⟩
  · rw [failed] at accepted
    cases accepted
  · rw [failed, Except.error.injEq] at refused
    exact ⟨index, token, blames_iff.mpr first, refused⟩

/-- A check blames an undeclared use, or a token before it. -/
theorem UndeclaredUse.exists_blames {tokens : List Token} {index : Nat} {token : Token}
    (use : UndeclaredUse tokens index token) :
    ∃ first ≤ index, ∃ blamed, Blames tokens first blamed := by
  rcases checkDeclarations_cases tokens with ⟨_, clean⟩ | ⟨other, blamed, first, _⟩
  · exact absurd use (clean index token)
  · have before : other ≤ index :=
      Nat.le_of_not_lt fun behind => first.least index behind token use
    exact ⟨other, before, blamed, blames_iff.mpr first⟩

end IfStatement
