import IfStatement.Proofs.Declarations.FirstMention

/-! A longer list keeps the mentions of its tokens, and only what it adds can turn conditions. -/

namespace IfStatement

/--
Tokens are embedded in a longer list that has each at its new place, all of them in their order.

Whatever stands at any other place of the longer list was added.
-/
structure Embeds (place : Nat → Nat) (tokens longer : List Token) (Added : Token → Prop) :
    Prop where
  ascending : ∀ {earlier later}, earlier < later → place earlier < place later
  kept : ∀ {index token}, tokens[index]? = some token → longer[place index]? = some token
  others : ∀ {index token}, longer[index]? = some token →
    (∃ old, index = place old) ∨ Added token

/-- An undeclared use is the use of a token in the list. -/
theorem UndeclaredUse.lt_length {tokens : List Token} {index : Nat} {token : Token}
    (use : UndeclaredUse tokens index token) : index < tokens.length :=
  (List.getElem?_eq_some_iff.mp use.1.found).1

section Embeds

variable {place : Nat → Nat} {tokens longer : List Token} {Added : Token → Prop} {index : Nat}

/-- New places are in the order of the old ones. -/
theorem Embeds.of_place_lt (embeds : Embeds place tokens longer Added) {earlier later : Nat}
    (ahead : place earlier < place later) : earlier < later := by
  apply Nat.lt_of_not_le
  intro behind
  rcases Nat.lt_or_eq_of_le behind with before | rfl
  · have reversed := embeds.ascending before
    omega
  · omega

/-- What was not added stands before a new place exactly as it stood before the old one. -/
theorem Embeds.old_place (embeds : Embeds place tokens longer Added)
    (inside : index ≤ tokens.length) {other : Nat} (ahead : other < place index) {token : Token}
    (found : longer[other]? = some token) (old : ¬ Added token) :
    ∃ earlier < index, other = place earlier ∧ tokens[earlier]? = some token := by
  rcases embeds.others found with ⟨earlier, rfl⟩ | added
  · have before := embeds.of_place_lt ahead
    refine ⟨earlier, before, rfl, ?_⟩
    -- Some token stood at the old place, and it is the one that stands at the new place.
    have stood := List.getElem?_eq_getElem (Nat.lt_of_lt_of_le before inside)
    rw [stood, ← embeds.kept stood]
    exact found
  · exact absurd added old

/-- A longer list has all the mentions. -/
theorem Embeds.mentionedBefore (embeds : Embeds place tokens longer Added) {name : String}
    (mentioned : MentionedBefore tokens index name) :
    MentionedBefore longer (place index) name := by
  obtain ⟨earlier, before, token, found, mentions⟩ := mentioned
  exact ⟨place earlier, embeds.ascending before, token, embeds.kept found, mentions⟩

/-- A longer list has no new mentions when no identifier was added. -/
theorem Embeds.mentionedBefore_old (embeds : Embeds place tokens longer Added)
    (silent : ∀ token, Added token → token.kind ≠ .identifier) (inside : index ≤ tokens.length)
    {name : String} (mentioned : MentionedBefore longer (place index) name) :
    MentionedBefore tokens index name := by
  obtain ⟨other, ahead, token, found, mentions⟩ := mentioned
  have old : ¬ Added token := fun added => silent token added mentions.1
  obtain ⟨earlier, before, _, stood⟩ := embeds.old_place inside ahead found old
  exact ⟨earlier, before, token, stood, mentions⟩

/-- A condition stays open when no closing parenthesis was added. -/
theorem Embeds.insideCondition (embeds : Embeds place tokens longer Added)
    (unclosing : ∀ token, Added token → token.kind ≠ .closeParen)
    (inside : index ≤ tokens.length) (condition : InsideCondition tokens index) :
    InsideCondition longer (place index) := by
  obtain ⟨start, before, ⟨keyword, atStart, isIf⟩, open_⟩ := condition
  refine ⟨place start, embeds.ascending before, ⟨keyword, embeds.kept atStart, isIf⟩, ?_⟩
  intro between behind ahead token found closes
  -- A closing parenthesis behind the `if` would have stood there before.
  have old : ¬ Added token := fun added => unclosing token added closes
  obtain ⟨earlier, earlierBefore, rfl, stood⟩ := embeds.old_place inside ahead found old
  exact open_ earlier (embeds.of_place_lt behind) earlierBefore token stood closes

/-- No condition is opened when no `if` was added. -/
theorem Embeds.insideCondition_old (embeds : Embeds place tokens longer Added)
    (unopening : ∀ token, Added token → ¬ (token.kind = .reservedWord ∧ token.lexeme = "if"))
    (inside : index ≤ tokens.length) (condition : InsideCondition longer (place index)) :
    InsideCondition tokens index := by
  obtain ⟨start, before, ⟨keyword, atStart, isIf⟩, open_⟩ := condition
  have old : ¬ Added keyword := fun added => unopening keyword added isIf
  obtain ⟨earlier, earlierBefore, rfl, stood⟩ := embeds.old_place inside before atStart old
  refine ⟨earlier, earlierBefore, ⟨keyword, stood, isIf⟩, ?_⟩
  intro between behind ahead token found
  exact open_ (place between) (embeds.ascending behind) (embeds.ascending ahead) token
    (embeds.kept found)

/-- An undeclared use stays one when neither an identifier nor a closing parenthesis was added. -/
theorem Embeds.undeclaredUse (embeds : Embeds place tokens longer Added)
    (harmless : ∀ token, Added token → token.kind ≠ .identifier ∧ token.kind ≠ .closeParen)
    {token : Token} (use : UndeclaredUse tokens index token) :
    UndeclaredUse longer (place index) token := by
  have inside : index ≤ tokens.length := Nat.le_of_lt use.lt_length
  obtain ⟨⟨found, mention, fresh⟩, condition⟩ := use
  refine ⟨⟨embeds.kept found, mention, ?_⟩, ?_⟩
  · intro mentioned
    exact fresh (embeds.mentionedBefore_old (fun other added => (harmless other added).1)
      inside mentioned)
  · exact embeds.insideCondition (fun other added => (harmless other added).2) inside condition

/-- No undeclared use is new among the old tokens when no `if` was added. -/
theorem Embeds.undeclaredUse_old (embeds : Embeds place tokens longer Added)
    (unopening : ∀ token, Added token → ¬ (token.kind = .reservedWord ∧ token.lexeme = "if"))
    {token : Token} (found : tokens[index]? = some token)
    (use : UndeclaredUse longer (place index) token) : UndeclaredUse tokens index token := by
  obtain ⟨⟨_, mention, fresh⟩, condition⟩ := use
  have inside : index ≤ tokens.length := Nat.le_of_lt (List.getElem?_eq_some_iff.mp found).1
  exact ⟨⟨found, mention, fun mentioned => fresh (embeds.mentionedBefore mentioned)⟩,
    embeds.insideCondition_old unopening inside condition⟩

end Embeds

/-- The tokens of a front keep their places whatever follows them. -/
theorem embeds_append (front back : List Token) :
    Embeds id front (front ++ back) fun _ => False where
  ascending ahead := ahead
  kept found := by
    rw [id, List.getElem?_append_left (List.getElem?_eq_some_iff.mp found).1]
    exact found
  others {index _} _ := .inl ⟨index, rfl⟩

/-- The place at which a token stands once another one was inserted at the given place. -/
def movedPlace (inserted index : Nat) : Nat :=
  if index < inserted then index else index + 1

/-- Only the place of the inserted token is not one to which some token has moved. -/
theorem eq_movedPlace_or_eq (inserted index : Nat) :
    (∃ old, index = movedPlace inserted old) ∨ index = inserted := by
  rcases Nat.lt_trichotomy index inserted with before | same | behind
  · exact .inl ⟨index, by rw [movedPlace, if_pos before]⟩
  · exact .inr same
  · exact .inl ⟨index - 1, by rw [movedPlace, if_neg (by omega)]; omega⟩

/-- At the place to which a token has moved stands that token. -/
theorem getElem?_movedPlace (front : List Token) (inserted : Token) (back : List Token)
    (index : Nat) :
    (front ++ inserted :: back)[movedPlace front.length index]? = (front ++ back)[index]? := by
  unfold movedPlace
  by_cases before : index < front.length
  · rw [if_pos before, List.getElem?_append_left before, List.getElem?_append_left before]
  · -- Behind the inserted token, places and tokens move on together.
    rw [if_neg before, List.getElem?_append_right (by omega),
      List.getElem?_append_right (by omega), Nat.sub_add_comm (by omega), List.getElem?_cons_succ]

/-- At its own place stands the token that was inserted. -/
theorem getElem?_inserted (front : List Token) (inserted : Token) (back : List Token) :
    (front ++ inserted :: back)[front.length]? = some inserted := by
  rw [List.getElem?_append_right (Nat.le_refl _), Nat.sub_self, List.getElem?_cons_zero]

/-- The tokens of a list move apart to make room for one that is inserted. -/
theorem embeds_insert (front : List Token) (inserted : Token) (back : List Token) :
    Embeds (movedPlace front.length) (front ++ back) (front ++ inserted :: back)
      (· = inserted) where
  ascending ahead := by
    unfold movedPlace
    split <;> split <;> omega
  kept found := by
    rw [getElem?_movedPlace]
    exact found
  others {index _} found := by
    rcases eq_movedPlace_or_eq front.length index with moved | rfl
    · exact .inl moved
    · rw [getElem?_inserted, Option.some.injEq] at found
      exact .inr found.symm

end IfStatement
