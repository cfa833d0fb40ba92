import IfStatement.Unicode.Ranges

/-! The characters with the Unicode 17.0 property `White_Space`. -/

namespace IfStatement

/-- The code points that separate lexemes, as ascending closed ranges. -/
def whiteSpaceRanges : List (Nat × Nat) :=
  [(0x0009, 0x000D), (0x0020, 0x0020), (0x0085, 0x0085), (0x00A0, 0x00A0), (0x1680, 0x1680),
   (0x2000, 0x200A), (0x2028, 0x2029), (0x202F, 0x202F), (0x205F, 0x205F), (0x3000, 0x3000)]

/-- A character is white space exactly when its code point has the property. -/
def isWhiteSpace (character : Char) : Bool :=
  covers whiteSpaceRanges character.toNat

end IfStatement
