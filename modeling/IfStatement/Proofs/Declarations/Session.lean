import IfStatement.Proofs.Declarations.Blame

/-! A scope can be used over and over, since a check leaves nothing of the earlier ones. -/

namespace IfStatement

/-- A user of a scope has it check some tokens, or asks it whether a name is declared. -/
inductive Inquiry where
  /-- Checks these tokens. -/
  | check (tokens : List Token)
  /-- Asks whether this name is declared. -/
  | isDeclared (name : String)

/-- A user of a scope is told the result of a check, or whether a name is declared. -/
inductive Answer where
  /-- The result of a check. -/
  | verdict (result : Except CheckError Unit)
  /-- Whether a name is declared. -/
  | declared (known : Bool)

/-- A scope answers an inquiry, and only a check changes what it knows. -/
def Scope.answer (scope : Scope) : Inquiry → Answer × Scope
  | .check tokens => (.verdict (scope.check tokens).1, (scope.check tokens).2)
  | .isDeclared name => (.declared (scope.isDeclared name), scope)

/-- The answers of a scope to some inquiries, one after the other. -/
def Scope.answers (scope : Scope) : List Inquiry → List Answer
  | [] => []
  | inquiry :: later => (scope.answer inquiry).1 :: (scope.answer inquiry).2.answers later

/-- The scope that some inquiries leave behind. -/
def Scope.afterInquiries (scope : Scope) (inquiries : List Inquiry) : Scope :=
  inquiries.foldl (fun scope inquiry => (scope.answer inquiry).2) scope

/-- The tokens that an inquiry has checked. -/
def Inquiry.tokens? : Inquiry → Option (List Token)
  | .check tokens => some tokens
  | .isDeclared _ => none

/-- The tokens of the most recent check, if there was one. -/
def lastChecked? (inquiries : List Inquiry) : Option (List Token) :=
  (inquiries.filterMap Inquiry.tokens?).getLast?

/-- A check declares what it finds outside of conditions, up to the token that it blames. -/
def DeclaredBy (tokens : List Token) (name : String) : Prop :=
  ∃ index token, tokens[index]? = some token ∧ token.Mentions name ∧
    ¬ InsideCondition tokens index ∧ ∀ place blamed, Blames tokens place blamed → index < place

/-- A scope remembers some tokens when it knows exactly the names that a check of them declares. -/
def Scope.Remembers (scope : Scope) (checked : Option (List Token)) : Prop :=
  ∀ name, scope.isDeclared name = true ↔ ∃ tokens, checked = some tokens ∧ DeclaredBy tokens name

/-- An answer is right when it depends on no inquiry but the last check. -/
def Answer.RightFor (earlier : List Inquiry) : Inquiry → Answer → Prop
  | .check tokens, .verdict result => result = checkDeclarations tokens
  | .isDeclared name, .declared known =>
    known = true ↔ ∃ tokens, lastChecked? earlier = some tokens ∧ DeclaredBy tokens name
  | _, _ => False

/-- A name that is mentioned has a first mention. -/
theorem MentionedBefore.exists_firstMention {tokens : List Token} {index : Nat} {name : String}
    (mentioned : MentionedBefore tokens index name) :
    ∃ first < index, ∃ token, FirstMention tokens first token ∧ token.lexeme = name := by
  -- Each mention is the first one, or there is another before it.
  induction index using Nat.strongRecOn with
  | ind index ih =>
    obtain ⟨earlier, before, token, found, mention, rfl⟩ := mentioned
    by_cases again : MentionedBefore tokens earlier token.lexeme
    · obtain ⟨first, ahead, mentioned⟩ := ih earlier before again
      exact ⟨first, Nat.lt_trans ahead before, mentioned⟩
    · exact ⟨earlier, before, token, ⟨found, mention, again⟩, rfl⟩

/-- A check knows of all that stands before the token that it blames, and of nothing else. -/
theorem Scope.check_reflects (scope : Scope) (tokens : List Token) :
    ∃ stop, (scope.check tokens).2.Reflects tokens stop ∧
      (∀ earlier < stop, ∀ token, ¬ UndeclaredUse tokens earlier token) ∧
      ∀ index < tokens.length,
        index < stop ↔ ∀ place blamed, Blames tokens place blamed → index < place := by
  obtain ⟨stop, reflects, clean, ⟨rfl, _⟩ | ⟨token, use, _⟩⟩ := scope.check_stops tokens
  · refine ⟨tokens.length, reflects, clean, ?_⟩
    -- Nothing is blamed when the check comes to the end.
    intro index inside
    refine iff_of_true inside ?_
    intro place blamed blames
    have use := (blames_iff.mp blames).use
    exact absurd use (clean place use.lt_length blamed)
  · refine ⟨stop, reflects, clean, ?_⟩
    have stopped : Blames tokens stop token := blames_iff.mpr ⟨use, clean⟩
    intro index _
    constructor
    · intro before place blamed blames
      rw [← (stopped.unique blames).1]
      exact before
    · intro ahead
      exact ahead stop token stopped

/-- A check leaves a scope that remembers its tokens, whether it has failed or not. -/
theorem Scope.check_remembers (scope : Scope) (tokens : List Token) :
    (scope.check tokens).2.Remembers (some tokens) := by
  obtain ⟨stop, reflects, clean, stops⟩ := scope.check_reflects tokens
  intro name
  rw [reflects.declared name]
  constructor
  · intro mentioned
    -- The first mention is outside of conditions, because it would be blamed inside one.
    obtain ⟨first, before, token, mention, rfl⟩ := mentioned.exists_firstMention
    have inside := (List.getElem?_eq_some_iff.mp mention.found).1
    have outside : ¬ InsideCondition tokens first :=
      fun condition => clean first before token ⟨mention, condition⟩
    exact ⟨tokens, rfl, first, token, mention.found, ⟨mention.identifier, rfl⟩, outside,
      (stops first inside).mp before⟩
  · rintro ⟨_, same, index, token, found, mentions, _, ahead⟩
    cases same
    have inside := (List.getElem?_eq_some_iff.mp found).1
    exact ⟨index, (stops index inside).mpr ahead, token, found, mentions⟩

/-- A scope that nothing was asked of remembers no tokens. -/
theorem Scope.empty_remembers : Scope.empty.Remembers (lastChecked? []) := by
  intro name
  simp [Scope.isDeclared, Scope.empty, lastChecked?]

/-- An inquiry leaves a scope that remembers the tokens of the last check. -/
theorem Scope.Remembers.answer {scope : Scope} {earlier : List Inquiry}
    (remembers : scope.Remembers (lastChecked? earlier)) (inquiry : Inquiry) :
    (scope.answer inquiry).2.Remembers (lastChecked? (earlier ++ [inquiry])) := by
  cases inquiry with
  | check tokens =>
    have last : lastChecked? (earlier ++ [.check tokens]) = some tokens := by
      simp [lastChecked?, Inquiry.tokens?]
    rw [last]
    exact scope.check_remembers tokens
  | isDeclared name =>
    have last : lastChecked? (earlier ++ [.isDeclared name]) = lastChecked? earlier := by
      simp [lastChecked?, Inquiry.tokens?]
    rw [last]
    exact remembers

/-- Further inquiries leave a scope that remembers the tokens of the last check of all. -/
theorem Scope.Remembers.afterInquiries {scope : Scope} {earlier : List Inquiry}
    (remembers : scope.Remembers (lastChecked? earlier)) (inquiries : List Inquiry) :
    (scope.afterInquiries inquiries).Remembers (lastChecked? (earlier ++ inquiries)) := by
  -- Each inquiry in turn joins those that were made before.
  induction inquiries generalizing scope earlier with
  | nil =>
    rw [List.append_nil]
    exact remembers
  | cons inquiry later ih =>
    rw [List.append_cons]
    exact ih (remembers.answer inquiry)

/-- The answers to further inquiries are those of the scope that the earlier ones leave behind. -/
theorem Scope.answers_append (scope : Scope) (earlier later : List Inquiry) :
    scope.answers (earlier ++ later) =
      scope.answers earlier ++ (scope.afterInquiries earlier).answers later := by
  induction earlier generalizing scope with
  | nil => rfl
  | cons inquiry earlier ih =>
    rw [List.cons_append, Scope.answers, ih, Scope.answers, List.cons_append]
    rfl

/-- There is one answer to each inquiry. -/
theorem Scope.length_answers (scope : Scope) (inquiries : List Inquiry) :
    (scope.answers inquiries).length = inquiries.length := by
  induction inquiries generalizing scope with
  | nil => rfl
  | cons inquiry later ih => rw [Scope.answers, List.length_cons, List.length_cons, ih]

/--
Each check gives what it gives by itself, and afterwards its names are declared and no others.

Before the first check, no name is declared.
-/
theorem Scope.answers_of_last_check (earlier : List Inquiry) (inquiry : Inquiry)
    (later : List Inquiry) :
    ∃ answer, (Scope.empty.answers (earlier ++ inquiry :: later))[earlier.length]? = some answer ∧
      answer.RightFor earlier inquiry := by
  have remembers : (Scope.empty.afterInquiries earlier).Remembers (lastChecked? earlier) :=
    Scope.empty_remembers.afterInquiries earlier
  refine ⟨((Scope.empty.afterInquiries earlier).answer inquiry).1, ?_, ?_⟩
  · rw [Scope.answers_append, ← Scope.length_answers Scope.empty earlier,
      List.getElem?_append_right (Nat.le_refl _), Nat.sub_self]
    rfl
  · cases inquiry with
    | check tokens =>
      -- The scope is cleared first, and so is the one of a check by itself.
      show ((Scope.empty.afterInquiries earlier).check tokens).1 = checkDeclarations tokens
      rw [checkDeclarations, Scope.check_eq_walk, Scope.check_eq_walk]
    | isDeclared name => exact remembers name

/-- A check that fails at `b` has declared `a` already, and it never comes to `c`. -/
example :
    let tokens : List Token :=
      [⟨.identifier, "a", ⟨0, 1⟩⟩, ⟨.reservedWord, "if", ⟨2, 4⟩⟩, ⟨.identifier, "b", ⟨5, 6⟩⟩,
       ⟨.closeParen, ")", ⟨6, 7⟩⟩, ⟨.identifier, "c", ⟨8, 9⟩⟩]
    Scope.empty.answers
        [.isDeclared "a", .check tokens, .isDeclared "a", .isDeclared "b", .isDeclared "c"] =
      [.declared false, .verdict (.error (.undeclaredVariable "b" ⟨5, 6⟩)), .declared true,
       .declared false, .declared false] := rfl

end IfStatement
