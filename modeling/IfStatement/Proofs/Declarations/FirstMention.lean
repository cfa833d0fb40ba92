import IfStatement.Declarations

/-! No name may be mentioned for the first time in a condition, and the check finds where one is. -/

namespace IfStatement

/-- A place is inside a condition when some `if` before it has no closing parenthesis behind it. -/
def InsideCondition (tokens : List Token) (index : Nat) : Prop :=
  ∃ start < index,
    (∃ keyword, tokens[start]? = some keyword ∧
      keyword.kind = .reservedWord ∧ keyword.lexeme = "if") ∧
    ∀ between, start < between → between < index →
      ∀ token, tokens[between]? = some token → token.kind ≠ .closeParen

/-- A token mentions a name when it is an identifier of that spelling. -/
def Token.Mentions (token : Token) (name : String) : Prop :=
  token.kind = .identifier ∧ token.lexeme = name

/-- A name is mentioned before a place when some earlier token mentions it. -/
def MentionedBefore (tokens : List Token) (index : Nat) (name : String) : Prop :=
  ∃ earlier < index, ∃ token, tokens[earlier]? = some token ∧ token.Mentions name

/-- The token at a place is the first mention of its name. -/
structure FirstMention (tokens : List Token) (index : Nat) (token : Token) : Prop where
  found : tokens[index]? = some token
  identifier : token.kind = .identifier
  first : ¬ MentionedBefore tokens index token.lexeme

/-- A name is used undeclared where its first mention is inside a condition. -/
def UndeclaredUse (tokens : List Token) (index : Nat) (token : Token) : Prop :=
  FirstMention tokens index token ∧ InsideCondition tokens index

/-- What a scope knows after a walk that has accepted all tokens before a place. -/
structure Scope.Reflects (scope : Scope) (tokens : List Token) (index : Nat) : Prop where
  condition : scope.insideCondition = true ↔ InsideCondition tokens index
  declared : ∀ name, scope.isDeclared name = true ↔ MentionedBefore tokens index name

/-- No place before the first token is inside a condition. -/
theorem not_insideCondition_zero (tokens : List Token) : ¬ InsideCondition tokens 0 := by
  rintro ⟨start, before, _⟩
  omega

/-- Passing a token opens a condition, closes it or leaves it as it is. -/
theorem insideCondition_succ {tokens : List Token} {index : Nat} {token : Token}
    (found : tokens[index]? = some token) :
    InsideCondition tokens (index + 1) ↔
      (token.kind = .reservedWord ∧ token.lexeme = "if") ∨
        InsideCondition tokens index ∧ token.kind ≠ .closeParen := by
  constructor
  · rintro ⟨start, before, ⟨keyword, atStart, isIf⟩, unclosed⟩
    -- The `if` is the token itself, or it stands before the token as well.
    rcases Nat.lt_or_eq_of_le (Nat.le_of_lt_succ before) with earlier | rfl
    · right
      have open_ : InsideCondition tokens index := by
        refine ⟨start, earlier, ⟨keyword, atStart, isIf⟩, ?_⟩
        intro between behind ahead
        exact unclosed between behind (by omega)
      exact ⟨open_, unclosed index earlier (by omega) token found⟩
    · left
      rw [found, Option.some.injEq] at atStart
      rw [atStart]
      exact isIf
  · rintro (isIf | ⟨⟨start, before, keyword, unclosed⟩, open_⟩)
    · refine ⟨index, by omega, ⟨token, found, isIf⟩, ?_⟩
      intro between behind ahead
      omega
    · refine ⟨start, by omega, keyword, ?_⟩
      intro between behind ahead other atBetween
      rcases Nat.lt_or_eq_of_le (Nat.le_of_lt_succ ahead) with earlier | rfl
      · exact unclosed between behind earlier other atBetween
      · rw [found, Option.some.injEq] at atBetween
        rw [← atBetween]
        exact open_

/-- Passing a token adds the name that it mentions. -/
theorem mentionedBefore_succ {tokens : List Token} {index : Nat} {token : Token}
    (found : tokens[index]? = some token) (name : String) :
    MentionedBefore tokens (index + 1) name ↔
      MentionedBefore tokens index name ∨ token.Mentions name := by
  -- An earlier mention stays where it is, and the only new place is that of the token.
  constructor
  · rintro ⟨earlier, before, other, atEarlier, mentions⟩
    rcases Nat.lt_or_eq_of_le (Nat.le_of_lt_succ before) with earlier' | rfl
    · exact .inl ⟨earlier, earlier', other, atEarlier, mentions⟩
    · rw [found, Option.some.injEq] at atEarlier
      rw [atEarlier]
      exact .inr mentions
  · rintro (⟨earlier, before, mention⟩ | mentions)
    · exact ⟨earlier, by omega, mention⟩
    · exact ⟨index, by omega, token, found, mentions⟩

/-- An identifier neither opens nor closes a condition. -/
theorem insideCondition_succ_identifier {tokens : List Token} {index : Nat} {token : Token}
    (found : tokens[index]? = some token) (mention : token.kind = .identifier) :
    InsideCondition tokens (index + 1) ↔ InsideCondition tokens index := by
  rw [insideCondition_succ found]
  simp [mention]

/-- An identifier mentions its own spelling and no other name. -/
theorem mentions_iff {token : Token} (mention : token.kind = .identifier) (name : String) :
    token.Mentions name ↔ token.lexeme = name := by
  rw [Token.Mentions]
  exact and_iff_right mention

/-- A token that is no identifier is accepted, and can only open or close a condition. -/
theorem Scope.visit_of_not_identifier (scope : Scope) {token : Token}
    (other : token.kind ≠ .identifier) :
    ∃ next, scope.visit token = .ok next ∧ next.declared = scope.declared ∧
      (next.insideCondition = true ↔ (token.kind = .reservedWord ∧ token.lexeme = "if") ∨
        scope.insideCondition = true ∧ token.kind ≠ .closeParen) := by
  -- Two kinds of token move the flag, and the names are left alone by all of them.
  unfold Scope.visit
  cases kind : token.kind with
  | identifier => exact absurd kind other
  | reservedWord =>
    by_cases isIf : token.lexeme = "if" <;> simp [isIf]
  | closeParen => simp
  | _ => simp

/-- An identifier outside a condition declares its name. -/
theorem Scope.visit_outside {scope : Scope} {token : Token} (mention : token.kind = .identifier)
    (outside : scope.insideCondition = false) :
    scope.visit token = .ok { scope with declared := scope.declared.insert token.lexeme } := by
  simp [Scope.visit, mention, outside]

/-- An identifier in a condition is accepted when its name is declared, and blamed when not. -/
theorem Scope.visit_inside {scope : Scope} {token : Token} (mention : token.kind = .identifier)
    (inside : scope.insideCondition = true) :
    scope.visit token =
      if scope.isDeclared token.lexeme then .ok scope
      else .error (.undeclaredVariable token.lexeme token.span) := by
  simp [Scope.visit, mention, inside]

/-- An empty scope reflects that nothing has been passed. -/
theorem Scope.reflects_empty (tokens : List Token) : Scope.empty.Reflects tokens 0 := by
  constructor
  · simp [Scope.empty, not_insideCondition_zero]
  · intro name
    have none : ¬ MentionedBefore tokens 0 name := by
      rintro ⟨earlier, before, _⟩
      omega
    simp [Scope.empty, Scope.isDeclared, none]

section Step

variable {scope : Scope} {tokens : List Token} {index : Nat} {token : Token}

/-- Declaring its name keeps a scope in line with an identifier. -/
theorem Scope.Reflects.declare (reflects : scope.Reflects tokens index)
    (found : tokens[index]? = some token) (mention : token.kind = .identifier) :
    ({ scope with declared := scope.declared.insert token.lexeme } : Scope).Reflects tokens
      (index + 1) := by
  constructor
  · rw [insideCondition_succ_identifier found mention]
    exact reflects.condition
  · intro name
    have before := reflects.declared name
    simp only [Scope.isDeclared, List.contains_iff_mem] at before
    simp only [Scope.isDeclared, List.contains_iff_mem, List.mem_insert_iff]
    rw [mentionedBefore_succ found, mentions_iff mention, ← before, or_comm, eq_comm]

/-- A name that is declared already needs no change of the scope. -/
theorem Scope.Reflects.again (reflects : scope.Reflects tokens index)
    (found : tokens[index]? = some token) (mention : token.kind = .identifier)
    (known : MentionedBefore tokens index token.lexeme) : scope.Reflects tokens (index + 1) := by
  constructor
  · rw [insideCondition_succ_identifier found mention]
    exact reflects.condition
  · intro name
    rw [mentionedBefore_succ found, mentions_iff mention, reflects.declared name]
    constructor
    · exact .inl
    · rintro (before | rfl)
      · exact before
      · exact known

/-- Any other token only opens or closes a condition. -/
theorem Scope.Reflects.pass (reflects : scope.Reflects tokens index)
    (found : tokens[index]? = some token) (other : token.kind ≠ .identifier) :
    ∃ next, scope.visit token = .ok next ∧ next.Reflects tokens (index + 1) := by
  obtain ⟨next, visited, kept, moved⟩ := scope.visit_of_not_identifier other
  refine ⟨next, visited, ?_, ?_⟩
  · rw [moved, insideCondition_succ found, reflects.condition]
  · intro name
    have silent : ¬ token.Mentions name := fun mentions => other mentions.1
    rw [mentionedBefore_succ found, Scope.isDeclared, kept, ← Scope.isDeclared,
      reflects.declared name]
    simp [silent]

/--
One step of a walk keeps a scope in line with the tokens passed, or stops at an undeclared use.

An accepted mention is never an undeclared use, so that all mentions so far are declarations.
-/
theorem Scope.Reflects.visit (reflects : scope.Reflects tokens index)
    (found : tokens[index]? = some token) :
    (∃ next, scope.visit token = .ok next ∧ next.Reflects tokens (index + 1) ∧
      ¬ UndeclaredUse tokens index token) ∨
    (scope.visit token = .error (.undeclaredVariable token.lexeme token.span) ∧
      UndeclaredUse tokens index token) := by
  by_cases mention : token.kind = .identifier
  · cases inside : scope.insideCondition with
    | false =>
      have outside : ¬ InsideCondition tokens index := by
        rw [← reflects.condition, inside]
        exact Bool.false_ne_true
      left
      exact ⟨_, Scope.visit_outside mention inside, reflects.declare found mention,
        fun use => outside use.2⟩
    | true =>
      have condition := reflects.condition.mp inside
      rw [Scope.visit_inside mention inside]
      -- In a condition, what has been declared so far decides between the two outcomes.
      by_cases known : scope.isDeclared token.lexeme = true
      · have mentioned := (reflects.declared token.lexeme).mp known
        left
        rw [if_pos known]
        exact ⟨scope, rfl, reflects.again found mention mentioned,
          fun use => use.1.first mentioned⟩
      · have fresh : ¬ MentionedBefore tokens index token.lexeme := by
          rw [← reflects.declared]
          exact known
        right
        rw [if_neg known]
        exact ⟨rfl, ⟨found, mention, fresh⟩, condition⟩
  · obtain ⟨next, visited, reflectsNext⟩ := reflects.pass found mention
    exact .inl ⟨next, visited, reflectsNext, fun use => mention use.1.identifier⟩

end Step

/--
A walk stops at the first undeclared use, or at the end if there is none.

In both cases its scope reflects exactly the tokens before the place where it stops.
-/
theorem Scope.Reflects.walk {scope : Scope} {tokens : List Token} {index : Nat}
    (reflects : scope.Reflects tokens index) (bounded : index ≤ tokens.length) :
    ∃ stop, index ≤ stop ∧ (scope.walk (tokens.drop index)).2.Reflects tokens stop ∧
      (∀ earlier, index ≤ earlier → earlier < stop →
        ∀ token, ¬ UndeclaredUse tokens earlier token) ∧
      ((stop = tokens.length ∧ (scope.walk (tokens.drop index)).1 = .ok ()) ∨
        ∃ token, UndeclaredUse tokens stop token ∧ (scope.walk (tokens.drop index)).1 =
          .error (.undeclaredVariable token.lexeme token.span)) := by
  -- The induction is on the tokens that are left, and one step is made at the first of them.
  induction left : tokens.drop index generalizing scope index with
  | nil =>
    have ended : index = tokens.length := by
      have length := congrArg List.length left
      rw [List.length_drop, List.length_nil] at length
      omega
    refine ⟨index, Nat.le_refl _, reflects, ?_, .inl ⟨ended, rfl⟩⟩
    intro earlier behind ahead
    omega
  | cons token rest ih =>
    have found : tokens[index]? = some token := by
      rw [← List.head?_drop, left, List.head?_cons]
    have inside : index < tokens.length := (List.getElem?_eq_some_iff.mp found).1
    have others : tokens.drop (index + 1) = rest := by
      rw [← List.tail_drop, left, List.tail_cons]
    rcases reflects.visit found with ⟨next, visited, reflectsNext, declared⟩ | ⟨visited, use⟩
    · obtain ⟨stop, reached, final, clean, outcome⟩ := ih reflectsNext inside others
      have step : scope.walk (token :: rest) = next.walk rest := by
        rw [Scope.walk, visited]
      rw [step]
      refine ⟨stop, by omega, final, ?_, outcome⟩
      intro earlier behind ahead other
      -- The place of this step is clean, and so are those of all later ones.
      rcases Nat.lt_or_eq_of_le behind with later | rfl
      · exact clean earlier later ahead other
      · intro use
        have sameToken : other = token := Option.some.inj (use.1.found.symm.trans found)
        exact declared (sameToken ▸ use)
    · have step : scope.walk (token :: rest) =
          (.error (.undeclaredVariable token.lexeme token.span), scope) := by
        rw [Scope.walk, visited]
      rw [step]
      refine ⟨index, Nat.le_refl _, reflects, ?_, .inr ⟨token, use, rfl⟩⟩
      intro earlier behind ahead
      omega

/-- A check of whole lists stops at their first undeclared use, if they have one. -/
theorem Scope.check_stops (scope : Scope) (tokens : List Token) :
    ∃ stop, (scope.check tokens).2.Reflects tokens stop ∧
      (∀ earlier < stop, ∀ token, ¬ UndeclaredUse tokens earlier token) ∧
      ((stop = tokens.length ∧ (scope.check tokens).1 = .ok ()) ∨
        ∃ token, UndeclaredUse tokens stop token ∧
          (scope.check tokens).1 = .error (.undeclaredVariable token.lexeme token.span)) := by
  -- What the scope knew before does not matter.
  rw [Scope.check_eq_walk]
  obtain ⟨stop, _, final, clean, outcome⟩ :=
    (Scope.reflects_empty tokens).walk (Nat.zero_le tokens.length)
  refine ⟨stop, final, ?_, outcome⟩
  intro earlier ahead
  exact clean earlier (Nat.zero_le earlier) ahead

/-- A check that fails blames an undeclared use by its name and its place. -/
theorem checkDeclarations_error {tokens : List Token} {error : CheckError}
    (failed : checkDeclarations tokens = .error error) :
    ∃ index token, UndeclaredUse tokens index token ∧
      error = .undeclaredVariable token.lexeme token.span := by
  obtain ⟨stop, _, _, ⟨_, accepted⟩ | ⟨token, use, refused⟩⟩ := Scope.empty.check_stops tokens
  · rw [checkDeclarations, accepted] at failed
    cases failed
  · rw [checkDeclarations, refused] at failed
    exact ⟨stop, token, use, (Except.error.inj failed).symm⟩

/--
Declarations are respected exactly when no name is first mentioned inside a condition.

Otherwise the check blames the first such mention by its name and its place.
-/
theorem checkDeclarations_first_mentions (tokens : List Token) :
    (checkDeclarations tokens = .ok () ↔
      ∀ index token, FirstMention tokens index token → ¬ InsideCondition tokens index) ∧
    ∀ error, checkDeclarations tokens = .error error ↔
      ∃ index token, FirstMention tokens index token ∧ InsideCondition tokens index ∧
        (∀ earlier < index, ∀ other, FirstMention tokens earlier other →
          ¬ InsideCondition tokens earlier) ∧
        error = .undeclaredVariable token.lexeme token.span := by
  obtain ⟨stop, _, clean, ⟨ended, accepted⟩ | ⟨blamed, use, refused⟩⟩ :=
    Scope.empty.check_stops tokens
  · -- A walk that has reached the end has left no place out.
    have none : ∀ index token, ¬ UndeclaredUse tokens index token := by
      intro index token use
      have inside := (List.getElem?_eq_some_iff.mp use.1.found).1
      exact clean index (ended ▸ inside) token use
    rw [checkDeclarations, accepted]
    constructor
    · exact iff_of_true rfl fun index token first inside => none index token ⟨first, inside⟩
    · intro error
      refine iff_of_false nofun ?_
      rintro ⟨index, token, first, inside, _⟩
      exact none index token ⟨first, inside⟩
  · rw [checkDeclarations, refused]
    constructor
    · exact iff_of_false nofun fun all => all stop blamed use.1 use.2
    · intro error
      constructor
      · intro same
        refine ⟨stop, blamed, use.1, use.2, ?_, (Except.error.inj same).symm⟩
        intro earlier ahead other first inside
        exact clean earlier ahead other ⟨first, inside⟩
      · rintro ⟨index, token, first, inside, least, rfl⟩
        -- Two least places of an undeclared use are the same place.
        have same : index = stop := by
          rcases Nat.lt_trichotomy index stop with ahead | same | behind
          · exact absurd ⟨first, inside⟩ (clean index ahead token)
          · exact same
          · exact absurd use.2 (least stop behind blamed use.1)
        have sameToken : token = blamed := by
          subst same
          exact Option.some.inj (first.found.symm.trans use.1.found)
        rw [sameToken]

end IfStatement
