/-! A character property is a table of closed code point ranges in ascending order. -/

namespace IfStatement

/-- An ascending table covers a code point when one of its ranges holds it. -/
def covers : List (Nat × Nat) → Nat → Bool
  | [], _ => false
  -- Every later range starts above this one, so a smaller code point is in none of them.
  | (first, last) :: later, code => first ≤ code && (code ≤ last || covers later code)

end IfStatement
