namespace FieldMenu.Pattern

structure Place where
  line : Nat := 1
  column : Nat := 1
deriving DecidableEq, Repr, Inhabited

def Place.after (place : Place) (c : Char) : Place :=
  if c = '\n' then { line := place.line + 1 } else { place with column := place.column + 1 }

structure Span where
  start : Place
  stop : Place
deriving DecidableEq, Repr, Inhabited

namespace Span

def point (place : Place) : Span :=
  { start := place, stop := place }

def isOneLine (span : Span) : Bool :=
  span.start.line == span.stop.line

/-- The number of columns of a span of one line, where an empty span is seen as one column. -/
def width (span : Span) : Nat :=
  max 1 (span.stop.column - span.start.column)

end Span

end FieldMenu.Pattern
