import IfStatement.Proofs.Declarations.Blame

/-! An edit that narrows conditions or adds declarations can only take errors away. -/

namespace IfStatement

/--
An edit eases the check of some tokens when it brings no error and moves no blame to the front.

The relation tells which places before and after the edit have the same token.
-/
structure Eases (tokens edited : List Token) (Stays : Nat → Nat → Prop) : Prop where
  /-- What was accepted is still accepted. -/
  passes : checkDeclarations tokens = .ok () → checkDeclarations edited = .ok ()
  /-- What is blamed was there, and it or a token before it was blamed already. -/
  blames : ∀ error, checkDeclarations edited = .error error →
    ∃ place token, Blames edited place token ∧
      error = .undeclaredVariable token.lexeme token.span ∧
      ∃ later, Stays later place ∧ tokens[later]? = some token ∧
        ∃ index ≤ later, ∃ blamed, Blames tokens index blamed

/-- An edit eases a check when all undeclared uses that it leaves were there before. -/
theorem eases_of_uses {tokens edited : List Token} {Stays : Nat → Nat → Prop}
    (old : ∀ place token, UndeclaredUse edited place token →
      ∃ index, Stays index place ∧ UndeclaredUse tokens index token) :
    Eases tokens edited Stays := by
  constructor
  · intro accepted
    rcases checkDeclarations_cases edited with ⟨passed, _⟩ | ⟨place, token, first, _⟩
    · exact passed
    · obtain ⟨index, _, use⟩ := old place token first.use
      exact absurd use (not_undeclaredUse_of_ok accepted index token)
  · intro error failed
    obtain ⟨place, token, blames, same⟩ := exists_blames failed
    obtain ⟨later, stays, use⟩ := old place token (blames_iff.mp blames).use
    exact ⟨place, token, blames, same, later, stays, use.1.found, use.exists_blames⟩

/-- Inserting a token eases a check when it opens no condition and is no undeclared use itself. -/
theorem eases_insert (front : List Token) {inserted : Token} (back : List Token)
    (unopening : ¬ (inserted.kind = .reservedWord ∧ inserted.lexeme = "if"))
    (declared : ¬ UndeclaredUse (front ++ inserted :: back) front.length inserted) :
    Eases (front ++ back) (front ++ inserted :: back)
      fun index place => place = movedPlace front.length index := by
  apply eases_of_uses
  intro place token use
  rcases eq_movedPlace_or_eq front.length place with ⟨index, rfl⟩ | rfl
  · have found := use.1.found
    rw [getElem?_movedPlace] at found
    refine ⟨index, rfl, (embeds_insert front inserted back).undeclaredUse_old ?_ found use⟩
    rintro _ rfl
    exact unopening
  · have found := use.1.found
    rw [getElem?_inserted, Option.some.injEq] at found
    rw [← found] at use
    exact absurd use declared

/-- Removing a token eases a check when it neither closes a condition nor is an identifier. -/
theorem eases_remove (front : List Token) {removed : Token} (back : List Token)
    (harmless : removed.kind ≠ .identifier ∧ removed.kind ≠ .closeParen) :
    Eases (front ++ removed :: back) (front ++ back)
      fun index place => index = movedPlace front.length place := by
  apply eases_of_uses
  intro place token use
  refine ⟨_, rfl, (embeds_insert front removed back).undeclaredUse ?_ use⟩
  rintro _ rfl
  exact harmless

/-- Whether a place is inside a condition depends on what is before it. -/
theorem insideCondition_append_iff (front back : List Token) :
    InsideCondition (front ++ back) front.length ↔ InsideCondition front front.length := by
  have embeds := embeds_append front back
  exact ⟨embeds.insideCondition_old (fun _ => False.elim) (Nat.le_refl _),
    embeds.insideCondition (fun _ => False.elim) (Nat.le_refl _)⟩

/-- Inserting an identifier outside of conditions eases a check. -/
theorem eases_declare (front back : List Token) {inserted : Token}
    (mention : inserted.kind = .identifier)
    (outside : ¬ InsideCondition (front ++ back) front.length) :
    Eases (front ++ back) (front ++ inserted :: back)
      fun index place => place = movedPlace front.length index := by
  apply eases_insert
  · simp [mention]
  · intro use
    rw [insideCondition_append_iff] at outside
    exact outside ((insideCondition_append_iff front (inserted :: back)).mp use.2)

/-- No name is used undeclared when the very first token mentions it. -/
theorem Blames.lexeme_ne {tokens : List Token} {first token : Token} {index : Nat}
    (blames : Blames (first :: tokens) (index + 1) token) (mention : first.kind = .identifier) :
    token.lexeme ≠ first.lexeme := by
  intro same
  apply (blames_iff.mp blames).use.1.first
  exact ⟨0, Nat.succ_pos index, first, rfl, mention, same.symm⟩

/--
Closing a condition, not opening one, or declaring a name outside of conditions eases a check.

Declaring the name that was blamed leaves only later tokens of other names to be blamed.
-/
theorem checkDeclarations_eased (front back : List Token) (token : Token) :
    (token.kind = .closeParen →
      Eases (front ++ back) (front ++ token :: back)
        fun index place => place = movedPlace front.length index) ∧
    (token.kind = .reservedWord ∧ token.lexeme = "if" →
      Eases (front ++ token :: back) (front ++ back)
        fun index place => index = movedPlace front.length place) ∧
    (token.kind = .identifier → ¬ InsideCondition (front ++ back) front.length →
      Eases (front ++ back) (front ++ token :: back)
        fun index place => place = movedPlace front.length index) ∧
    (token.kind = .identifier → ∀ span,
      checkDeclarations back = .error (.undeclaredVariable token.lexeme span) →
      ∀ error, checkDeclarations (token :: back) = .error error →
        ∃ later other, Blames (token :: back) (later + 1) other ∧
          error = .undeclaredVariable other.lexeme other.span ∧ back[later]? = some other ∧
          other.lexeme ≠ token.lexeme ∧ ∃ index < later, ∃ blamed, Blames back index blamed) := by
  refine ⟨?_, ?_, eases_declare front back, ?_⟩
  · intro closes
    apply eases_insert front back
    · simp [closes]
    · intro use
      have mention := use.1.identifier
      rw [closes] at mention
      cases mention
  · rintro ⟨reserved, _⟩
    apply eases_remove front back
    simp [reserved]
  · intro mention span failed error stillFailed
    have eased : Eases back (token :: back) fun index place => place = movedPlace 0 index :=
      eases_declare [] back mention (not_insideCondition_zero back)
    obtain ⟨_, other, blames, same, later, rfl, found, index, before, blamed, first⟩ :=
      eased.blames error stillFailed
    have differs : other.lexeme ≠ token.lexeme := blames.lexeme_ne mention
    refine ⟨later, other, blames, same, found, differs, index, ?_, blamed, first⟩
    -- The token that was blamed before has the name that is declared now.
    apply Nat.lt_of_le_of_ne before
    rintro rfl
    rw [(blames_iff.mp first).error, Except.error.injEq, CheckError.undeclaredVariable.injEq]
      at failed
    rw [first.found, Option.some.injEq] at found
    rw [← found] at differs
    exact differs failed.1

/-- Behind a declaration of the first operand, the second one is blamed in its place. -/
theorem checkDeclarations_eased_secondOperand :
    let declared : Token := ⟨.identifier, "x", ⟨0, 1⟩⟩
    let condition : List Token :=
      [⟨.reservedWord, "if", ⟨2, 4⟩⟩, ⟨.identifier, "x", ⟨5, 6⟩⟩, ⟨.identifier, "y", ⟨7, 8⟩⟩]
    checkDeclarations condition = .error (.undeclaredVariable "x" ⟨5, 6⟩) ∧
      checkDeclarations (declared :: condition) = .error (.undeclaredVariable "y" ⟨7, 8⟩) ∧
      ∃ later other, Blames (declared :: condition) (later + 1) other ∧
        CheckError.undeclaredVariable "y" ⟨7, 8⟩ = .undeclaredVariable other.lexeme other.span ∧
        condition[later]? = some other ∧ other.lexeme ≠ "x" ∧
        ∃ index < later, ∃ blamed, Blames condition index blamed := by
  intro declared condition
  obtain ⟨_, _, _, declares⟩ := checkDeclarations_eased [] condition declared
  exact ⟨rfl, rfl, declares rfl ⟨5, 6⟩ rfl _ rfl⟩

end IfStatement
