import IfStatement.Span

/-! An offset is shown to a reader as a line and a column, found by a scan or in a table. -/

namespace IfStatement

/-- A position counts lines and columns from one, and only `\n` ends a line. -/
structure Position where
  /-- The number of the line, counted from one. -/
  line : Nat
  /-- The number of the character within its line, counted from one. -/
  column : Nat
deriving DecidableEq

/-- Every text starts on the first column of the first line. -/
def Position.first : Position := ⟨1, 1⟩

/-- Passing over a character moves one column on, or to the start of the next line. -/
def Position.after (position : Position) (character : Char) : Position :=
  if character = '\n' then ⟨position.line + 1, 1⟩ else ⟨position.line, position.column + 1⟩

/-- The position of an offset is reached by passing over the characters before it. -/
def Position.ofOffset (text : List Char) (offset : Nat) : Position :=
  (text.take offset).foldl Position.after .first

/-- Collects the offsets just after each line break, for text that begins at the given offset. -/
def breakOffsets : List Char → Nat → List Nat
  | [], _ => []
  | character :: rest, offset =>
    if character = '\n' then (offset + 1) :: breakOffsets rest (offset + 1)
    else breakOffsets rest (offset + 1)

/-- The line starts of a text are the offsets at which its lines start. -/
structure LineStarts where
  /-- One offset for each line, in ascending order and beginning with zero. -/
  offsets : Array Nat

/-- The first line starts at offset zero, and each line break starts another. -/
def LineStarts.ofText (text : List Char) : LineStarts :=
  ⟨(0 :: breakOffsets text 0).toArray⟩

/--
Counts the line starts at or before an offset by halving the candidates between two bounds.

Every start below the lower bound is known to qualify, and none at or above the upper bound is.
-/
def LineStarts.countUpTo (lines : LineStarts) (offset low high : Nat) : Nat :=
  if low < high then
    let middle := (low + high) / 2
    if lines.offsets.getD middle 0 ≤ offset then lines.countUpTo offset (middle + 1) high
    else lines.countUpTo offset low middle
  else low
termination_by high - low

/-- The line of an offset is the number of lines that have started by then. -/
def LineStarts.lineOf (lines : LineStarts) (offset : Nat) : Nat :=
  lines.countUpTo offset 0 lines.offsets.size

/--
An offset is located on its line, and past the end the column of the last line counts on.

Should no line have started by then, the offset is located on the first one.
-/
def LineStarts.position (lines : LineStarts) (offset : Nat) : Position :=
  let line := max (lines.lineOf offset) 1
  ⟨line, offset - lines.offsets.getD (line - 1) 0 + 1⟩

/-- The difference of two machine words, unless it would be below zero. -/
def subWord? (left right : Nat) : Option Nat :=
  if right ≤ left then some (left - right) else none

/-- The sum of two machine words, unless it would not fit in sixty-four bits. -/
def addWord? (left right : Nat) : Option Nat :=
  if left + right < UInt64.size then some (left + right) else none

/-- Locates an offset as above, unless that takes a line start or a number that is not there. -/
def LineStarts.locate? (lines : LineStarts) (offset : Nat) : Option Position := do
  let line := max (lines.lineOf offset) 1
  let index ← subWord? line 1
  let start ← lines.offsets[index]?
  let distance ← subWord? offset start
  let column ← addWord? distance 1
  return ⟨line, column⟩

end IfStatement
