/-! Places in a text are counted in characters, first as offsets from its start. -/

namespace IfStatement

/-- A span runs from its start offset up to, but not including, its stop offset. -/
structure Span where
  /-- The offset of the first character. -/
  start : Nat
  /-- The offset just after the last character. -/
  stop : Nat
deriving DecidableEq

/-- The empty span at the start of a text stands in where there is nothing to point at. -/
def Span.origin : Span := ⟨0, 0⟩

/-- The characters that a span covers. -/
def Span.slice (span : Span) (text : List Char) : List Char :=
  (text.take span.stop).drop span.start

end IfStatement
