import IfStatement.Proofs.Json.Marks
import IfStatement.Proofs.Position.Lines
import IfStatement.Report.Document
import IfStatement.Unicode.WhiteSpace

/-! Layouts of one document differ only by the blanks that they put outside its string literals. -/

namespace IfStatement

/-- A character stands outside all string literals or in one of them, as those before it tell. -/
inductive Standing where
  /-- Outside all literals, which is also where the quote stands that opens one. -/
  | outside
  /-- In a literal, which is also where the quote stands that closes it. -/
  | inside
  /-- In a literal and directly behind a backslash, which takes its meaning from a quote. -/
  | escaped
deriving DecidableEq

/-- Where the next character stands. -/
def Standing.after : Standing → Char → Standing
  | .outside, character => if character = '"' then .inside else .outside
  | .inside, character =>
    if character = '"' then .outside else if character = '\\' then .escaped else .inside
  | .escaped, _ => .inside

/-- Where the character behind a text stands. -/
def Standing.behind (standing : Standing) (text : List Char) : Standing :=
  text.foldl Standing.after standing

/-- The characters of a text, each with where it stands when the first one stands here. -/
def Standing.placed (standing : Standing) : List Char → List (Standing × Char)
  | [] => []
  | character :: rest => (standing, character) :: (standing.after character).placed rest

/-- The characters of a whole text, each with where it stands. -/
def placedCharacters (text : List Char) : List (Standing × Char) :=
  Standing.outside.placed text

/-- A space or a line break is free when it stands outside all literals. -/
def isFreeBlank (place : Standing × Char) : Bool :=
  place.1 = .outside ∧ (place.2 = ' ' ∨ place.2 = '\n')

/-- What is left of a text without its free blanks. -/
def withoutFreeBlanks (text : List Char) : List Char :=
  ((placedCharacters text).filter (!isFreeBlank ·)).map Prod.snd

/-- A character is dense when it is no control character, and no white space unless in a literal. -/
def IsDense (place : Standing × Char) : Prop :=
  32 ≤ place.2.toNat ∧ (place.1 = .outside → isWhiteSpace place.2 = false)

/-- Behind two texts stands what stands behind the second, read on from behind the first. -/
theorem Standing.behind_append (standing : Standing) (front back : List Char) :
    standing.behind (front ++ back) = (standing.behind front).behind back :=
  List.foldl_append

/-- The characters of a second text are placed from behind the first. -/
theorem Standing.placed_append (standing : Standing) (front back : List Char) :
    standing.placed (front ++ back) =
      standing.placed front ++ (standing.behind front).placed back := by
  -- Each character of the first text moves on where the others stand.
  induction front generalizing standing with
  | nil => rfl
  | cons character rest ih =>
    rw [List.cons_append, Standing.placed, Standing.placed, ih]
    rfl

/-- Placing characters changes none of them. -/
theorem Standing.map_snd_placed (standing : Standing) (text : List Char) :
    (standing.placed text).map Prod.snd = text := by
  induction text generalizing standing with
  | nil => rfl
  | cons character rest ih => rw [Standing.placed, List.map_cons, ih]

/-- Text without a quote leaves what stands outside literals there. -/
theorem placed_unquoted {text : List Char} (unquoted : ∀ character ∈ text, character ≠ '"') :
    Standing.outside.behind text = .outside ∧
      Standing.outside.placed text = text.map (Standing.outside, ·) := by
  -- Outside literals, a quote is the only character that leads elsewhere.
  induction text with
  | nil => exact ⟨rfl, rfl⟩
  | cons character rest ih =>
    obtain ⟨noQuote, others⟩ := List.forall_mem_cons.mp unquoted
    have still : Standing.outside.after character = .outside := if_neg noQuote
    obtain ⟨behind, placed⟩ := ih others
    constructor
    · rw [Standing.behind, List.foldl_cons, still]
      exact behind
    · rw [Standing.placed, still, placed, List.map_cons]

/-- A loose text has all of a dense one and, beside it, nothing but blanks outside literals. -/
structure Loosens (loose dense : List Char) : Prop where
  /-- No literal of the loose text is left open. -/
  looseCloses : Standing.outside.behind loose = .outside
  /-- No literal of the dense text is left open. -/
  denseCloses : Standing.outside.behind dense = .outside
  /-- Without its free blanks, the loose text is the dense one. -/
  kept : (placedCharacters loose).filter (!isFreeBlank ·) = placedCharacters dense
  /-- All characters of the dense text are dense. -/
  isDense : ∀ place ∈ placedCharacters dense, IsDense place

/-- Loose texts can be put behind each other. -/
theorem Loosens.append {front back looseFront looseBack : List Char}
    (first : Loosens looseFront front) (second : Loosens looseBack back) :
    Loosens (looseFront ++ looseBack) (front ++ back) := by
  -- As the front leaves no literal open, the back is placed as it is by itself.
  have loose : placedCharacters (looseFront ++ looseBack) =
      placedCharacters looseFront ++ placedCharacters looseBack := by
    rw [placedCharacters, Standing.placed_append, first.looseCloses]
    rfl
  have dense : placedCharacters (front ++ back) =
      placedCharacters front ++ placedCharacters back := by
    rw [placedCharacters, Standing.placed_append, first.denseCloses]
    rfl
  constructor
  · rw [Standing.behind_append, first.looseCloses, second.looseCloses]
  · rw [Standing.behind_append, first.denseCloses, second.denseCloses]
  · rw [loose, dense, List.filter_append, first.kept, second.kept]
  · rw [dense]
    exact List.forall_mem_append.mpr ⟨first.isDense, second.isDense⟩

/-- Blanks by themselves loosen the empty text. -/
theorem loosens_blanks {blanks : List Char}
    (blank : ∀ character ∈ blanks, character = ' ' ∨ character = '\n') : Loosens blanks [] := by
  have unquoted : ∀ character ∈ blanks, character ≠ '"' := by
    intro character member isQuote
    rcases blank character member with space | lineBreak
    · exact absurd (isQuote.symm.trans space) (by decide)
    · exact absurd (isQuote.symm.trans lineBreak) (by decide)
  obtain ⟨closes, placed⟩ := placed_unquoted unquoted
  refine ⟨closes, rfl, ?_, nofun⟩
  -- Each of them is free, so that none is kept.
  rw [placedCharacters, placed, List.filter_eq_nil_iff.mpr]
  · rfl
  · intro place member
    obtain ⟨character, inside, rfl⟩ := List.mem_map.mp member
    simp [isFreeBlank, blank character inside]

/-- What is dense and closes its literals is loose as well. -/
theorem loosens_self {text : List Char} (closes : Standing.outside.behind text = .outside)
    (isDense : ∀ place ∈ placedCharacters text, IsDense place) : Loosens text text := by
  refine ⟨closes, closes, ?_, isDense⟩
  -- Neither of the two blanks can stand outside literals.
  rw [List.filter_eq_self]
  intro place member
  obtain ⟨standing, character⟩ := place
  obtain ⟨_, visible⟩ := isDense _ member
  have space : isWhiteSpace ' ' = true := by decide +kernel
  have lineBreak : isWhiteSpace '\n' = true := by decide +kernel
  cases free : isFreeBlank (standing, character) with
  | false => rfl
  | true =>
    simp only [isFreeBlank, decide_eq_true_eq] at free
    obtain ⟨outside, rfl | rfl⟩ := free
    · exact absurd (visible outside) (by simp [space])
    · exact absurd (visible outside) (by simp [lineBreak])

/-- A character is plain when it is no quote, no control character and no white space. -/
def isPlain (character : Char) : Bool :=
  character ≠ '"' ∧ 32 ≤ character.toNat ∧ isWhiteSpace character = false

/-- Plain characters are dense. -/
theorem loosens_plain {text : List Char} (plain : text.all isPlain) : Loosens text text := by
  have each : ∀ character ∈ text, character ≠ '"' ∧ 32 ≤ character.toNat ∧
      isWhiteSpace character = false :=
    fun character member => of_decide_eq_true (List.all_eq_true.mp plain character member)
  obtain ⟨closes, placed⟩ := placed_unquoted fun character member => (each character member).1
  refine loosens_self closes ?_
  intro place member
  rw [placedCharacters, placed] at member
  obtain ⟨character, inside, rfl⟩ := List.mem_map.mp member
  exact ⟨(each character inside).2.1, fun _ => (each character inside).2.2⟩

/-- A piece of a literal stays in it and holds no control character. -/
structure StaysInside (piece : List Char) : Prop where
  behind : Standing.inside.behind piece = .inside
  placed : ∀ place ∈ Standing.inside.placed piece, place.1 ≠ .outside ∧ 32 ≤ place.2.toNat

/-- A character is escaped to a piece of a literal. -/
theorem staysInside_escape (character : Char) : StaysInside (escape character) := by
  rcases escape_cases character with ⟨letter, written, _, meant⟩ | ⟨control, written⟩ |
    ⟨noQuote, noBackslash, visible, written⟩
  · -- Behind the backslash, even a quote does not close the literal.
    have printable : 32 ≤ letter.toNat := by
      unfold unescape? at meant
      split at meant
      case h_9 => cases meant
      all_goals decide
    rw [written]
    exact ⟨rfl, by simpa [Standing.placed, Standing.after] using printable⟩
  · -- The six characters of a code are all printable, and none of them is a quote.
    have digits : ∀ value < 16, value.digitChar ≠ '"' ∧ value.digitChar ≠ '\\' ∧
        32 ≤ value.digitChar.toNat := by
      decide
    obtain ⟨highQuote, highBackslash, high⟩ := digits (character.toNat / 16) (by omega)
    obtain ⟨lowQuote, lowBackslash, low⟩ := digits (character.toNat % 16) (by omega)
    rw [written]
    constructor
    · simp [Standing.behind, Standing.after, highQuote, highBackslash, lowQuote, lowBackslash]
    · simp [Standing.placed, Standing.after, highQuote, highBackslash, high, low]
  · rw [written]
    constructor
    · simp [Standing.behind, Standing.after, noQuote, noBackslash]
    · simpa [Standing.placed] using visible

/-- The characters of a string are escaped to a piece of a literal. -/
theorem staysInside_flatMap_escape (characters : List Char) :
    StaysInside (characters.flatMap escape) := by
  -- The first character stays inside, and the others are placed from there.
  induction characters with
  | nil => exact ⟨rfl, nofun⟩
  | cons character rest ih =>
    obtain ⟨first, firstPlaced⟩ := staysInside_escape character
    rw [List.flatMap_cons]
    constructor
    · rw [Standing.behind_append, first, ih.behind]
    · rw [Standing.placed_append, first]
      exact List.forall_mem_append.mpr ⟨firstPlaced, ih.placed⟩

/-- A literal is dense, whatever the string. -/
theorem loosens_quote (text : String) : Loosens (quote text) (quote text) := by
  obtain ⟨behind, placed⟩ := staysInside_flatMap_escape text.toList
  have quotePrintable : 32 ≤ '"'.toNat := by decide
  have quoteVisible : isWhiteSpace '"' = false := by decide +kernel
  -- The first quote leads inside, and only the last one leads outside again.
  have split : quote text = ['"'] ++ (text.toList.flatMap escape ++ ['"']) := rfl
  have opens : Standing.outside.behind ['"'] = .inside := rfl
  rw [split]
  apply loosens_self
  · rw [Standing.behind_append, opens, Standing.behind_append, behind]
    rfl
  · rw [placedCharacters, Standing.placed_append, opens, Standing.placed_append, behind]
    intro place member
    rcases List.mem_append.mp member with first | later
    · obtain rfl := List.mem_singleton.mp first
      exact ⟨quotePrintable, fun _ => quoteVisible⟩
    rcases List.mem_append.mp later with within | last
    · obtain ⟨inside, printable⟩ := placed place within
      exact ⟨printable, fun outside => absurd outside inside⟩
    · obtain rfl := List.mem_singleton.mp last
      exact ⟨quotePrintable, fun _ => quoteVisible⟩

/-- A layout is spaced when its blanks are spaces and line breaks. -/
structure Layout.Spaced (layout : Layout) : Prop where
  lineBreak : ∀ depth, ∀ character ∈ layout.lineBreak depth, character = ' ' ∨ character = '\n'
  afterColon : ∀ character ∈ layout.afterColon, character = ' ' ∨ character = '\n'

/-- The pretty layout is spaced. -/
theorem Layout.spaced_pretty : Layout.pretty.Spaced := by
  constructor
  · -- A line break and spaces come before an item.
    intro depth character member
    rcases List.mem_cons.mp member with lineBreak | space
    · exact .inr lineBreak
    · exact .inl (List.eq_of_mem_replicate space)
  · simp [Layout.pretty]

/-- Items between commas are loosened by the blanks behind the commas. -/
theorem loosens_intercalate {layout : Layout} (spaced : layout.Spaced) (depth : Nat)
    {loose dense : List (List Char)} (each : List.Forall₂ Loosens loose dense) :
    Loosens (List.intercalate (',' :: layout.lineBreak depth) loose)
      (List.intercalate [','] dense) := by
  -- The last item is taken as it is, and each one before it together with its comma.
  induction each with
  | nil => exact loosens_blanks nofun
  | @cons item denseItem items denseItems first others ih =>
    cases others with
    | nil => simpa using first
    | cons _ _ =>
      have comma : Loosens [','] [','] := loosens_plain (by decide +kernel)
      have blanks := loosens_blanks (spaced.lineBreak depth)
      simpa [List.intercalate_cons_cons] using first.append ((comma.append blanks).append ih)

/-- Items in brackets are loosened by the blanks behind the one bracket and before the other. -/
theorem loosens_enclose {layout : Layout} (spaced : layout.Spaced) (depth denseDepth : Nat)
    {opening closing : Char} (opens : Loosens [opening] [opening])
    (closes : Loosens [closing] [closing]) {loose dense : List (List Char)}
    (each : List.Forall₂ Loosens loose dense) :
    Loosens (layout.enclose depth opening closing loose)
      (Layout.compact.enclose denseDepth opening closing dense) := by
  cases each with
  -- Without items, no layout puts a blank between the brackets.
  | nil => exact opens.append closes
  | cons first others =>
    have items := loosens_intercalate spaced (depth + 1) (.cons first others)
    have before := loosens_blanks (spaced.lineBreak (depth + 1))
    have behind := loosens_blanks (spaced.lineBreak depth)
    simpa [Layout.enclose, Layout.compact] using
      opens.append (before.append (items.append (behind.append closes)))

/-- Digits are visible outside literals. -/
theorem loosens_digits {digits : List Char} (decimal : ∀ digit ∈ digits, digit.isDigit) :
    Loosens digits digits := by
  apply loosens_plain
  rw [List.all_eq_true]
  intro digit member
  -- The ten digits stand together among the code points, and white space does not reach there.
  obtain ⟨lower, upper⟩ : 48 ≤ digit.toNat ∧ digit.toNat ≤ 57 := by
    simpa [Char.isDigit, Char.le_def, UInt32.le_iff_toNat_le] using decimal digit member
  refine decide_eq_true ⟨?_, by omega, ?_⟩
  · intro isQuote
    rw [isQuote] at lower
    exact absurd lower (by decide)
  · simp [isWhiteSpace, whiteSpaceRanges, covers]
    omega

mutual

/-- A document is written with blanks and, beside them, with its compact text. -/
theorem Json.loosens_write {layout : Layout} (spaced : layout.Spaced) (depth denseDepth : Nat) :
    ∀ document : Json,
    Loosens (document.write layout depth) (document.write .compact denseDepth)
  | .null =>
    show Loosens ['n', 'u', 'l', 'l'] ['n', 'u', 'l', 'l'] from loosens_plain (by decide +kernel)
  | .bool true =>
    show Loosens ['t', 'r', 'u', 'e'] ['t', 'r', 'u', 'e'] from loosens_plain (by decide +kernel)
  | .bool false =>
    show Loosens ['f', 'a', 'l', 's', 'e'] ['f', 'a', 'l', 's', 'e'] from
      loosens_plain (by decide +kernel)
  | .number _ =>
    loosens_digits fun _ member => Nat.isDigit_of_mem_toDigits (by omega) (by omega) member
  | .string text => loosens_quote text
  | .array elements =>
    loosens_enclose spaced depth denseDepth (loosens_plain (by decide +kernel))
      (loosens_plain (by decide +kernel))
      (Json.loosens_writeElements spaced (depth + 1) (denseDepth + 1) elements)
  | .object members =>
    loosens_enclose spaced depth denseDepth (loosens_plain (by decide +kernel))
      (loosens_plain (by decide +kernel))
      (Json.loosens_writeMembers spaced (depth + 1) (denseDepth + 1) members)

/-- Each element of an array is written with blanks and with its compact text. -/
theorem Json.loosens_writeElements {layout : Layout} (spaced : layout.Spaced)
    (depth denseDepth : Nat) : ∀ elements : List Json,
    List.Forall₂ Loosens (Json.writeElements layout depth elements)
      (Json.writeElements .compact denseDepth elements)
  | [] => .nil
  | element :: rest =>
    .cons (element.loosens_write spaced depth denseDepth)
      (Json.loosens_writeElements spaced depth denseDepth rest)

/-- Each member of an object is written with blanks and with its compact text. -/
theorem Json.loosens_writeMembers {layout : Layout} (spaced : layout.Spaced)
    (depth denseDepth : Nat) : ∀ members : List (String × Json),
    List.Forall₂ Loosens (Json.writeMembers layout depth members)
      (Json.writeMembers .compact denseDepth members)
  | [] => .nil
  | (name, value) :: rest => by
    refine .cons ?_ (Json.loosens_writeMembers spaced depth denseDepth rest)
    -- Blanks stand between the colon and the value.
    have colon : Loosens [':'] [':'] := loosens_plain (by decide +kernel)
    have blanks := loosens_blanks spaced.afterColon
    have written := value.loosens_write spaced depth denseDepth
    simpa [Layout.compact] using
      (loosens_quote name).append (colon.append (blanks.append written))

end

/-- The text of a document in a spaced layout loosens its compact text. -/
theorem Json.loosens_render {layout : Layout} (spaced : layout.Spaced) (document : Json) :
    Loosens (document.render layout).toList (document.render .compact).toList := by
  rw [Json.render, Json.render, String.toList_ofList, String.toList_ofList]
  exact document.loosens_write spaced 0 0

section Consequences

variable {loose dense : List Char} (loosens : Loosens loose dense)

include loosens

/-- Without its free blanks, a loose text is the dense one. -/
theorem Loosens.withoutFreeBlanks_eq : withoutFreeBlanks loose = dense := by
  rw [withoutFreeBlanks, loosens.kept, placedCharacters, Standing.map_snd_placed]

/-- A dense text has no control characters, not even in its literals. -/
theorem Loosens.printable : ∀ character ∈ dense, 32 ≤ character.toNat := by
  -- Every character of the text is placed somewhere.
  intro character member
  rw [← Standing.outside.map_snd_placed dense] at member
  obtain ⟨place, placed, rfl⟩ := List.mem_map.mp member
  exact (loosens.isDense place placed).1

/-- The control characters of a loose text are line breaks outside its literals. -/
theorem Loosens.control {place : Standing × Char} (member : place ∈ placedCharacters loose)
    (control : place.2.toNat < 32) : place = (.outside, '\n') := by
  -- What is not free is in the dense text as well, where there are no control characters.
  by_cases free : isFreeBlank place = true
  · obtain ⟨standing, character⟩ := place
    simp only [isFreeBlank, decide_eq_true_eq] at free
    obtain ⟨rfl, rfl | rfl⟩ := free
    · exact absurd control (by decide)
    · rfl
  · have kept : place ∈ (placedCharacters loose).filter (!isFreeBlank ·) :=
      List.mem_filter.mpr ⟨member, by simpa using free⟩
    rw [loosens.kept] at kept
    have printable := (loosens.isDense place kept).1
    omega

end Consequences

/--
The pretty text of a report is its compact text with free blanks between.

The compact text is one line without any control character, and it has white space in literals only.
The pretty text has no control character either, except for the line breaks outside its literals.
-/
theorem Report.render_differs_by_blanks (report : Report) :
    let pretty := (report.render .pretty).toList
    let compact := (report.render .compact).toList
    withoutFreeBlanks pretty = compact ∧
    (∀ character, (.outside, character) ∈ placedCharacters compact →
      isWhiteSpace character = false) ∧
    (∀ character ∈ compact, 0x20 ≤ character.toNat) ∧ linesOf compact = [compact] ∧
    (∀ standing character, (standing, character) ∈ placedCharacters pretty →
      character.toNat < 0x20 → character = '\n' ∧ standing = .outside) := by
  intro pretty compact
  have loosens : Loosens pretty compact := report.toJson.loosens_render Layout.spaced_pretty
  refine ⟨loosens.withoutFreeBlanks_eq, ?_, loosens.printable, ?_, ?_⟩
  · intro character member
    exact (loosens.isDense _ member).2 rfl
  · -- A line break would be a control character.
    apply linesOf_unbroken
    intro member
    exact absurd (loosens.printable _ member) (by decide)
  · intro standing character member control
    have place := loosens.control member control
    rw [Prod.mk.injEq] at place
    exact ⟨place.2, place.1⟩

end IfStatement
