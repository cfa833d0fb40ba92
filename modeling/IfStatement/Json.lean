/-! JSON documents are written without any space or with one member on each line. -/

namespace IfStatement

/-- A JSON value, whose objects keep their members in the order they are given. -/
inductive Json where
  /-- The absent value. -/
  | null
  /-- A truth value. -/
  | bool (value : Bool)
  /-- A natural number, which is all the numbers a report holds. -/
  | number (value : Nat)
  /-- A string of any characters. -/
  | string (value : String)
  /-- A list of values. -/
  | array (elements : List Json)
  /-- A list of named values. -/
  | object (members : List (String × Json))

/-- A layout decides the blanks between the parts of a document. -/
structure Layout where
  /-- The blanks before an item, or before a closing bracket, at a given depth. -/
  lineBreak : Nat → List Char
  /-- The blanks between the colon of a member and its value. -/
  afterColon : List Char

/-- The compact layout has no blanks at all. -/
def Layout.compact : Layout := ⟨fun _ => [], []⟩

/-- The pretty layout gives each item a line of its own, indented by two spaces a level. -/
def Layout.pretty : Layout := ⟨fun depth => '\n' :: List.replicate (2 * depth) ' ', [' ']⟩

/-- Brackets enclose items on the level below, and close up when there are none. -/
def Layout.enclose (layout : Layout) (depth : Nat) (opening closing : Char)
    (items : List (List Char)) : List Char :=
  if items.isEmpty then [opening, closing]
  else
    opening :: layout.lineBreak (depth + 1)
      ++ List.intercalate (',' :: layout.lineBreak (depth + 1)) items
      ++ layout.lineBreak depth ++ [closing]

/-- Only the quote, the backslash and the control characters below the space are escaped. -/
def escape (character : Char) : List Char :=
  if character = '"' then ['\\', '"']
  else if character = '\\' then ['\\', '\\']
  else if character = '\x08' then ['\\', 'b']
  else if character = '\x0C' then ['\\', 'f']
  else if character = '\n' then ['\\', 'n']
  else if character = '\r' then ['\\', 'r']
  else if character = '\t' then ['\\', 't']
  -- Code points below thirty-two have two hexadecimal digits, so the other two are zero.
  else if character.toNat < 32 then
    ['\\', 'u', '0', '0', (character.toNat / 16).digitChar, (character.toNat % 16).digitChar]
  else [character]

/-- A string literal is quoted and escaped character by character. -/
def quote (text : String) : List Char :=
  '"' :: text.toList.flatMap escape ++ ['"']

mutual

/-- Writes a value that stands at the given depth. -/
def Json.write (layout : Layout) (depth : Nat) : Json → List Char
  | .null => ['n', 'u', 'l', 'l']
  | .bool true => ['t', 'r', 'u', 'e']
  | .bool false => ['f', 'a', 'l', 's', 'e']
  | .number value => Nat.toDigits 10 value
  | .string value => quote value
  | .array elements =>
    layout.enclose depth '[' ']' (Json.writeElements layout (depth + 1) elements)
  | .object members =>
    layout.enclose depth '{' '}' (Json.writeMembers layout (depth + 1) members)

/-- Writes the elements of an array, each by itself. -/
def Json.writeElements (layout : Layout) (depth : Nat) : List Json → List (List Char)
  | [] => []
  | element :: rest => Json.write layout depth element :: Json.writeElements layout depth rest

/-- Writes the members of an object, each with its name before its value. -/
def Json.writeMembers (layout : Layout) (depth : Nat) : List (String × Json) → List (List Char)
  | [] => []
  | (name, value) :: rest =>
    (quote name ++ ':' :: layout.afterColon ++ Json.write layout depth value)
      :: Json.writeMembers layout depth rest

end

/-- The text of a document starts at depth zero and ends without a line break. -/
def Json.render (layout : Layout) (document : Json) : String :=
  String.ofList (document.write layout 0)

end IfStatement
