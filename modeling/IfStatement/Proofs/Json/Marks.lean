import IfStatement.Json
import Mathlib.Data.List.Forall2

/-! The text of a document is read mark by mark, whatever blanks a layout puts between them. -/

namespace IfStatement

/-- A mark is a smallest part of a JSON text that has a meaning of its own. -/
inductive Mark where
  /-- The bracket that opens an array. -/
  | openBracket
  /-- The bracket that closes an array. -/
  | closeBracket
  /-- The brace that opens an object. -/
  | openBrace
  /-- The brace that closes an object. -/
  | closeBrace
  /-- The comma between two items. -/
  | comma
  /-- The colon between a name and its value. -/
  | colon
  /-- A string, which is a value or a name. -/
  | string (text : String)
  /-- A value that is written without quotes and without brackets. -/
  | scalar (value : Json)

/-- What a reader of marks is in the middle of. -/
inductive ReadMode where
  /-- The last mark is complete. -/
  | between
  /-- These letters of a word are to come, and the whole word means the value. -/
  | word (left : List Char) (value : Json)
  /-- Digits of this value have been read. -/
  | number (value : Nat)
  /-- These characters of a string have been read. -/
  | string (text : List Char)
  /-- A backslash has been read behind these characters of a string. -/
  | escape (text : List Char)
  /-- More hexadecimal digits than the given number are to come, behind some of this value. -/
  | code (text : List Char) (left value : Nat)

/-- The characters that may stand between marks. -/
def isBlank (character : Char) : Bool :=
  character = ' ' ∨ character = '\n' ∨ character = '\r' ∨ character = '\t'

/-- The value of a hexadecimal digit. -/
def hexDigit? (character : Char) : Option Nat :=
  if character.isDigit then some (character.toNat - '0'.toNat)
  else if 'a' ≤ character ∧ character ≤ 'f' then some (character.toNat - 'a'.toNat + 10)
  else if 'A' ≤ character ∧ character ≤ 'F' then some (character.toNat - 'A'.toNat + 10)
  else none

/-- The marks that a character completes when it follows a complete mark, and what it starts. -/
def startMark? (character : Char) : Option (List Mark × ReadMode) :=
  if character.isDigit then some ([], .number (character.toNat - '0'.toNat))
  else if isBlank character then some ([], .between)
  else
    match character with
    | '[' => some ([.openBracket], .between)
    | ']' => some ([.closeBracket], .between)
    | '{' => some ([.openBrace], .between)
    | '}' => some ([.closeBrace], .between)
    | ',' => some ([.comma], .between)
    | ':' => some ([.colon], .between)
    | '"' => some ([], .string [])
    | 'n' => some ([], .word ['u', 'l', 'l'] .null)
    | 't' => some ([], .word ['r', 'u', 'e'] (.bool true))
    | 'f' => some ([], .word ['a', 'l', 's', 'e'] (.bool false))
    | _ => none

/-- The character that is written as a backslash and the given character. -/
def unescape? : Char → Option Char
  | '"' => some '"'
  | '\\' => some '\\'
  | '/' => some '/'
  | 'b' => some '\x08'
  | 'f' => some '\x0C'
  | 'n' => some '\n'
  | 'r' => some '\r'
  | 't' => some '\t'
  | _ => none

/-- The marks that a character completes, and what the reader is in the middle of behind it. -/
def ReadMode.step? : ReadMode → Char → Option (List Mark × ReadMode)
  | .between, character => startMark? character
  | .word [] _, _ => none
  | .word [last] value, character =>
    if character = last then some ([.scalar value], .between) else none
  | .word (next :: left) value, character =>
    if character = next then some ([], .word left value) else none
  | .number value, character =>
    if character.isDigit then some ([], .number (10 * value + (character.toNat - '0'.toNat)))
    -- A number has no mark at its end, so that the next mark ends it.
    else (startMark? character).map fun (marks, mode) => (.scalar (.number value) :: marks, mode)
  | .string text, character =>
    if character = '"' then some ([.string (String.ofList text)], .between)
    else if character = '\\' then some ([], .escape text)
    else if character.toNat < 32 then none
    else some ([], .string (text ++ [character]))
  | .escape text, character =>
    if character = 'u' then some ([], .code text 3 0)
    else (unescape? character).map fun meant => ([], .string (text ++ [meant]))
  | .code text left value, character =>
    (hexDigit? character).bind fun digit =>
      match left with
      | left + 1 => some ([], .code text left (16 * value + digit))
      | 0 =>
        -- Half of a surrogate pair is no character by itself.
        if (16 * value + digit).isValidChar then
          some ([], .string (text ++ [Char.ofNat (16 * value + digit)]))
        else none

/-- The marks of a text that is read on from the middle of something, if it is well formed. -/
def readMarks : ReadMode → List Char → Option (List Mark)
  | .between, [] => some []
  | .number value, [] => some [.scalar (.number value)]
  | _, [] => none
  | mode, character :: rest => do
    let (marks, next) ← mode.step? character
    let later ← readMarks next rest
    return marks ++ later

mutual

/-- The marks of a document, which are the same in all layouts. -/
def Json.marks : Json → List Mark
  | .null => [.scalar .null]
  | .bool value => [.scalar (.bool value)]
  | .number value => [.scalar (.number value)]
  | .string text => [.string text]
  | .array elements =>
    .openBracket :: [Mark.comma].intercalate (Json.elementMarks elements) ++ [.closeBracket]
  | .object members =>
    .openBrace :: [Mark.comma].intercalate (Json.memberMarks members) ++ [.closeBrace]

/-- The marks of the elements of an array, each by itself. -/
def Json.elementMarks : List Json → List (List Mark)
  | [] => []
  | element :: rest => element.marks :: Json.elementMarks rest

/-- The marks of the members of an object, each with its name before its value. -/
def Json.memberMarks : List (String × Json) → List (List Mark)
  | [] => []
  | (name, value) :: rest => (.string name :: .colon :: value.marks) :: Json.memberMarks rest

end

/-- Numbers end where no digit comes next. -/
def NoDigitNext (rest : List Char) : Prop :=
  ∀ character ∈ rest.head?, ¬ character.isDigit

/-- A text reads as marks when they are what it consists of, blanks aside. -/
def ReadsAs (text : List Char) (marks : List Mark) : Prop :=
  readMarks .between text = some marks

/-- One character is read by one step, and the others from where it leads. -/
theorem readMarks_cons {mode next : ReadMode} {character : Char} {marks later : List Mark}
    {rest : List Char} (step : mode.step? character = some (marks, next))
    (reads : readMarks next rest = some later) :
    readMarks mode (character :: rest) = some (marks ++ later) := by
  -- The marks of the step come before those of the rest.
  simp [readMarks, step, reads]

/-- Only what one step can read has been read as marks. -/
theorem exists_step_of_readMarks {mode : ReadMode} {character : Char} {rest : List Char}
    {marks : List Mark} (reads : readMarks mode (character :: rest) = some marks) :
    ∃ first next later, mode.step? character = some (first, next) ∧
      readMarks next rest = some later ∧ marks = first ++ later := by
  -- Reading succeeds only when both the step and the reading of the rest do.
  simp only [readMarks, Option.bind_eq_bind, Option.bind_eq_some_iff, Option.pure_def,
    Option.some.injEq] at reads
  obtain ⟨⟨first, next⟩, step, later, readsLater, rfl⟩ := reads
  exact ⟨first, next, later, step, readsLater, rfl⟩

section Marks

variable {rest : List Char} {later : List Mark}

/-- A mark of one character is read in one step. -/
theorem ReadsAs.sign {character : Char} {mark : Mark} (reads : ReadsAs rest later)
    (starts : ReadMode.between.step? character = some ([mark], .between)) :
    ReadsAs (character :: rest) (mark :: later) :=
  readMarks_cons starts reads

/-- Blanks between marks are passed over. -/
theorem ReadsAs.blanks {blanks : List Char} (reads : ReadsAs rest later)
    (blank : ∀ character ∈ blanks, isBlank character) : ReadsAs (blanks ++ rest) later := by
  -- Each blank completes no mark and starts none.
  induction blanks with
  | nil => exact reads
  | cons character more ih =>
    obtain ⟨first, others⟩ := List.forall_mem_cons.mp blank
    have starts : ReadMode.between.step? character = some ([], .between) := by
      simp only [isBlank, decide_eq_true_eq] at first
      rcases first with rfl | rfl | rfl | rfl <;> rfl
    exact readMarks_cons starts (ih others)

/-- A word is read letter by letter. -/
theorem readMarks_word (value : Json) (reads : ReadsAs rest later) (left : List Char)
    (next : Char) :
    readMarks (.word (next :: left) value) (next :: left ++ rest) =
      some (.scalar value :: later) := by
  -- The last letter completes the mark, and each other one leaves a shorter word.
  induction left generalizing next with
  | nil =>
    have step : (ReadMode.word [next] value).step? next = some ([.scalar value], .between) :=
      if_pos rfl
    exact readMarks_cons step reads
  | cons after left ih =>
    have step : (ReadMode.word (next :: after :: left) value).step? next =
        some ([], .word (after :: left) value) := if_pos rfl
    exact readMarks_cons step (ih after)

/-- A word that a letter starts is read as its value. -/
theorem ReadsAs.word (reads : ReadsAs rest later) {first next : Char} {left : List Char}
    {value : Json} (starts : startMark? first = some ([], .word (next :: left) value)) :
    ReadsAs (first :: next :: left ++ rest) (.scalar value :: later) := by
  have opens : ReadMode.between.step? first = some ([], .word (next :: left) value) := starts
  exact readMarks_cons opens (readMarks_word value reads left next)

/-- The digits of a number are read until something else comes next. -/
theorem readMarks_number (reads : ReadsAs rest later) (ends : NoDigitNext rest)
    {digits : List Char} (decimal : ∀ digit ∈ digits, digit.isDigit) (value : Nat) :
    readMarks (.number value) (digits ++ rest) =
      some (.scalar (.number (Nat.ofDigitChars 10 digits value)) :: later) := by
  -- The value read so far grows by one digit at a time, so that it is any value in the induction.
  induction digits generalizing value with
  | nil =>
    rw [Nat.ofDigitChars_nil, List.nil_append]
    -- The number ends with the text, or with the first character of another mark.
    cases rest with
    | nil =>
      cases reads
      rfl
    | cons character others =>
      obtain ⟨first, next, after, step, readsAfter, rfl⟩ := exists_step_of_readMarks reads
      have ended : (ReadMode.number value).step? character =
          some (.scalar (.number value) :: first, next) := by
        have starts : startMark? character = some (first, next) := step
        simp [ReadMode.step?, ends character rfl, starts]
      exact readMarks_cons ended readsAfter
  | cons digit more ih =>
    obtain ⟨isDigit, others⟩ := List.forall_mem_cons.mp decimal
    have step : (ReadMode.number value).step? digit =
        some ([], .number (10 * value + (digit.toNat - '0'.toNat))) := if_pos isDigit
    rw [Nat.ofDigitChars_cons]
    exact readMarks_cons step (ih others _)

/-- Hexadecimal digits have the values from which they are written. -/
theorem hexDigit?_digitChar {value : Nat} (small : value < 16) :
    hexDigit? value.digitChar = some value := by
  -- There are sixteen of them.
  have all : ∀ value < 16, hexDigit? value.digitChar = some value := by
    decide
  exact all value small

/-- A character is escaped by one letter or by its code, or else it stands for itself. -/
theorem escape_cases (character : Char) :
    (∃ letter, escape character = ['\\', letter] ∧ letter ≠ 'u' ∧
      unescape? letter = some character) ∨
    (character.toNat < 32 ∧ escape character = ['\\', 'u', '0', '0',
      (character.toNat / 16).digitChar, (character.toNat % 16).digitChar]) ∨
    (character ≠ '"' ∧ character ≠ '\\' ∧ ¬ character.toNat < 32 ∧
      escape character = [character]) := by
  -- The branches of the writer are taken in their order, and the first seven name a letter.
  unfold escape
  split_ifs with quote backslash backspace formFeed lineFeed carriageReturn tab control
  · exact .inl ⟨'"', rfl, by decide, by rw [quote]; rfl⟩
  · exact .inl ⟨'\\', rfl, by decide, by rw [backslash]; rfl⟩
  · exact .inl ⟨'b', rfl, by decide, by rw [backspace]; rfl⟩
  · exact .inl ⟨'f', rfl, by decide, by rw [formFeed]; rfl⟩
  · exact .inl ⟨'n', rfl, by decide, by rw [lineFeed]; rfl⟩
  · exact .inl ⟨'r', rfl, by decide, by rw [carriageReturn]; rfl⟩
  · exact .inl ⟨'t', rfl, by decide, by rw [tab]; rfl⟩
  · exact .inr (.inl ⟨control, rfl⟩)
  · exact .inr (.inr ⟨quote, backslash, control, rfl⟩)

/-- The code of a control character is read digit by digit. -/
theorem readMarks_code {text : List Char} {character : Char} (control : character.toNat < 32)
    (reads : readMarks (.string (text ++ [character])) rest = some later) :
    readMarks (.string text) (['\\', 'u', '0', '0', (character.toNat / 16).digitChar,
      (character.toNat % 16).digitChar] ++ rest) = some later := by
  -- The first two digits are zeros, and the other two are those of the character.
  have high := hexDigit?_digitChar (show character.toNat / 16 < 16 by omega)
  have low := hexDigit?_digitChar (show character.toNat % 16 < 16 by omega)
  have third : (ReadMode.code text 1 0).step? (character.toNat / 16).digitChar =
      some ([], .code text 0 (16 * 0 + character.toNat / 16)) := by
    simp [ReadMode.step?, high]
  -- The last digit completes the code, and the code is that of the character.
  have code : 16 * (16 * 0 + character.toNat / 16) + character.toNat % 16 = character.toNat := by
    omega
  have valid : character.toNat.isValidChar := character.valid
  have fourth : (ReadMode.code text 0 (16 * 0 + character.toNat / 16)).step?
      (character.toNat % 16).digitChar = some ([], .string (text ++ [character])) := by
    simp only [ReadMode.step?, low, Option.bind_some, code, if_pos valid, Char.ofNat_toNat]
  have backslash : (ReadMode.string text).step? '\\' = some ([], .escape text) := rfl
  have letter : (ReadMode.escape text).step? 'u' = some ([], .code text 3 0) := rfl
  have first : (ReadMode.code text 3 0).step? '0' = some ([], .code text 2 0) := rfl
  have second : (ReadMode.code text 2 0).step? '0' = some ([], .code text 1 0) := rfl
  exact readMarks_cons backslash <| readMarks_cons letter <| readMarks_cons first <|
    readMarks_cons second <| readMarks_cons third <| readMarks_cons fourth reads

/-- A character is read back from what it is written as in a string. -/
theorem readMarks_escape {text : List Char} {character : Char}
    (reads : readMarks (.string (text ++ [character])) rest = some later) :
    readMarks (.string text) (escape character ++ rest) = some later := by
  -- Whatever the escape is, its last step adds the character to those already read.
  rcases escape_cases character with ⟨letter, written, noCode, meant⟩ | ⟨control, written⟩ |
    ⟨noQuote, noBackslash, visible, written⟩
  · have backslash : (ReadMode.string text).step? '\\' = some ([], .escape text) := rfl
    have letter : (ReadMode.escape text).step? letter =
        some ([], .string (text ++ [character])) := by
      simp [ReadMode.step?, noCode, meant]
    rw [written]
    exact readMarks_cons backslash (readMarks_cons letter reads)
  · rw [written]
    exact readMarks_code control reads
  · have itself : (ReadMode.string text).step? character =
        some ([], .string (text ++ [character])) := by
      simp only [ReadMode.step?, if_neg noQuote, if_neg noBackslash, if_neg visible]
    rw [written]
    exact readMarks_cons itself reads

/-- The characters of a string are read back one by one, up to the quote. -/
theorem readMarks_string (reads : ReadsAs rest later) (text characters : List Char) :
    readMarks (.string text) (characters.flatMap escape ++ '"' :: rest) =
      some (.string (String.ofList (text ++ characters)) :: later) := by
  -- The characters already read are any in the induction, as each one read is added to them.
  induction characters generalizing text with
  | nil =>
    rw [List.append_nil]
    -- No character is written as a bare quote, so that this one ends the string.
    have step : (ReadMode.string text).step? '"' =
        some ([.string (String.ofList text)], .between) := rfl
    exact readMarks_cons step reads
  | cons character more ih =>
    have split : text ++ character :: more = text ++ [character] ++ more := by simp
    rw [List.flatMap_cons, List.append_assoc, split]
    exact readMarks_escape (ih _)

/-- A quoted string is read as the string. -/
theorem ReadsAs.quote (reads : ReadsAs rest later) (text : String) :
    ReadsAs (IfStatement.quote text ++ rest) (.string text :: later) := by
  -- Behind the first quote, no characters of the string have been read.
  have opens : ReadMode.between.step? '"' = some ([], .string []) := rfl
  have inside := readMarks_string reads [] text.toList
  rw [List.nil_append, String.ofList_toList] at inside
  rw [IfStatement.quote, List.cons_append, List.cons_append, List.append_assoc]
  exact readMarks_cons opens inside

/-- A written number is read as the number, when something else comes next. -/
theorem ReadsAs.number (reads : ReadsAs rest later) (ends : NoDigitNext rest) (value : Nat) :
    ReadsAs (Nat.toDigits 10 value ++ rest) (.scalar (.number value) :: later) := by
  have decimal : ∀ digit ∈ Nat.toDigits 10 value, digit.isDigit :=
    fun digit member => Nat.isDigit_of_mem_toDigits (by omega) (by omega) member
  have whole : Nat.ofDigitChars 10 (Nat.toDigits 10 value) 0 = value :=
    Nat.ofDigitChars_toDigits (by omega) (by omega)
  -- The first digit starts the number, as if a zero came before it.
  cases digits : Nat.toDigits 10 value with
  | nil => exact absurd digits Nat.toDigits_ne_nil
  | cons digit more =>
    rw [digits] at decimal whole
    obtain ⟨isDigit, others⟩ := List.forall_mem_cons.mp decimal
    have starts : ReadMode.between.step? digit =
        some ([], .number (10 * 0 + (digit.toNat - '0'.toNat))) := by
      rw [Nat.mul_zero, Nat.zero_add]
      exact if_pos isDigit
    rw [Nat.ofDigitChars_cons] at whole
    have read := readMarks_number reads ends others (10 * 0 + (digit.toNat - '0'.toNat))
    rw [whole] at read
    exact readMarks_cons starts read

end Marks

/-- A piece of text reads as marks when it does so before anything that ends a number. -/
def Reads (piece : List Char) (marks : List Mark) : Prop :=
  ∀ rest later, NoDigitNext rest → ReadsAs rest later → ReadsAs (piece ++ rest) (marks ++ later)

/-- A layout is blank when it puts nothing but blanks between the parts of a document. -/
structure Layout.Blank (layout : Layout) : Prop where
  lineBreak : ∀ depth, ∀ character ∈ layout.lineBreak depth, isBlank character
  afterColon : ∀ character ∈ layout.afterColon, isBlank character

/-- The compact layout is blank. -/
theorem Layout.blank_compact : Layout.compact.Blank := by
  -- It puts nothing at all between the parts.
  constructor <;> simp [Layout.compact]

/-- The pretty layout is blank. -/
theorem Layout.blank_pretty : Layout.pretty.Blank := by
  constructor
  · -- A line break and spaces come before an item.
    intro depth character member
    rcases List.mem_cons.mp member with rfl | space
    · rfl
    · rw [List.eq_of_mem_replicate space]
      rfl
  · simp [Layout.pretty, isBlank]

/-- What starts with a blank does not go on with a digit. -/
theorem noDigitNext_of_blank {blanks rest : List Char}
    (blank : ∀ character ∈ blanks, isBlank character) (ends : NoDigitNext rest) :
    NoDigitNext (blanks ++ rest) := by
  cases blanks with
  | nil => exact ends
  | cons character more =>
    intro next here
    cases here
    -- None of the four blanks is a digit.
    have first := blank character List.mem_cons_self
    simp only [isBlank, decide_eq_true_eq] at first
    rcases first with rfl | rfl | rfl | rfl <;> decide

/-- Items between commas read as their marks between commas. -/
theorem reads_intercalate {layout : Layout} (blank : layout.Blank) (depth : Nat)
    {items : List (List Char)} {marks : List (List Mark)}
    (each : List.Forall₂ Reads items marks) :
    Reads (List.intercalate (',' :: layout.lineBreak depth) items)
      ([Mark.comma].intercalate marks) := by
  -- The last item is read like any piece, and each one before it together with its comma.
  induction each with
  | nil => exact fun _ _ _ reads => reads
  | @cons item mark items marks first others ih =>
    cases others with
    | nil => simpa using first
    | cons _ _ =>
      intro rest later ends reads
      -- The comma ends the first item, and the blanks behind it are passed over.
      have behind := ((ih rest later ends reads).blanks (blank.lineBreak depth)).sign
        (show ReadMode.between.step? ',' = some ([.comma], .between) from rfl)
      have comma : ∀ more, NoDigitNext (',' :: more) := by
        intro more next here
        cases here
        decide
      simpa [List.intercalate_cons_cons] using first _ _ (comma _) behind

/-- Items in brackets read as the marks of the brackets around those of the items. -/
theorem reads_enclose {layout : Layout} (blank : layout.Blank) (depth : Nat)
    {opening closing : Char} {openMark closeMark : Mark}
    (opens : ReadMode.between.step? opening = some ([openMark], .between))
    (closes : ReadMode.between.step? closing = some ([closeMark], .between))
    (noDigit : ¬ closing.isDigit) {items : List (List Char)} {marks : List (List Mark)}
    (each : List.Forall₂ Reads items marks) :
    Reads (layout.enclose depth opening closing items)
      (openMark :: [Mark.comma].intercalate marks ++ [closeMark]) := by
  -- The pieces are read from the back, where what is left is known to read.
  intro rest later ends reads
  have closed := reads.sign closes
  cases each with
  -- Without items, the closing bracket comes at once.
  | nil => exact closed.sign opens
  | @cons item mark items marks first others =>
    have all : List.Forall₂ Reads (item :: items) (mark :: marks) := .cons first others
    -- The blanks before the closing bracket end the last item, and so does the bracket itself.
    have bracket : NoDigitNext (closing :: rest) := by
      intro next here
      cases here
      exact noDigit
    have inner := reads_intercalate blank (depth + 1) all _ _
      (noDigitNext_of_blank (blank.lineBreak depth) bracket) (closed.blanks (blank.lineBreak depth))
    have opened := (inner.blanks (blank.lineBreak (depth + 1))).sign opens
    simpa [Layout.enclose] using opened

mutual

/-- A written document reads as its marks, in every blank layout and at every depth. -/
theorem Json.reads_write {layout : Layout} (blank : layout.Blank) (depth : Nat) :
    ∀ document : Json, Reads (document.write layout depth) document.marks
  | .null => fun _ _ _ reads =>
    reads.word (show startMark? 'n' = some ([], .word ['u', 'l', 'l'] .null) from rfl)
  | .bool true => fun _ _ _ reads =>
    reads.word (show startMark? 't' = some ([], .word ['r', 'u', 'e'] (.bool true)) from rfl)
  | .bool false => fun _ _ _ reads =>
    reads.word (show startMark? 'f' = some ([], .word ['a', 'l', 's', 'e'] (.bool false)) from rfl)
  | .number value => fun _ _ ends reads => reads.number ends value
  | .string text => fun _ _ _ reads => reads.quote text
  | .array elements =>
    reads_enclose blank depth rfl rfl (by decide)
      (Json.reads_writeElements blank (depth + 1) elements)
  | .object members =>
    reads_enclose blank depth rfl rfl (by decide)
      (Json.reads_writeMembers blank (depth + 1) members)

/-- Each element of an array reads as its marks. -/
theorem Json.reads_writeElements {layout : Layout} (blank : layout.Blank) (depth : Nat) :
    ∀ elements : List Json,
    List.Forall₂ Reads (Json.writeElements layout depth elements) (Json.elementMarks elements)
  | [] => .nil
  | element :: rest =>
    .cons (element.reads_write blank depth) (Json.reads_writeElements blank depth rest)

/-- Each member of an object reads as its name, a colon and the marks of its value. -/
theorem Json.reads_writeMembers {layout : Layout} (blank : layout.Blank) (depth : Nat) :
    ∀ members : List (String × Json),
    List.Forall₂ Reads (Json.writeMembers layout depth members) (Json.memberMarks members)
  | [] => .nil
  | (name, value) :: rest => by
    refine .cons ?_ (Json.reads_writeMembers blank depth rest)
    -- The name, the colon and the value of the member are read from the back as well.
    intro follow later ends reads
    have written := value.reads_write blank depth follow later ends reads
    have colon := (written.blanks blank.afterColon).sign
      (show ReadMode.between.step? ':' = some ([.colon], .between) from rfl)
    simpa using colon.quote name

end

end IfStatement
