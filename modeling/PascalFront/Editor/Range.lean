import PascalFront.Position
/-!
# Ranges in an editor

Editors count lines and characters from zero, with numbers of 31 bits. A span
without a place becomes the range at the very start of the document; a span that
starts or ends outside these numbers has no range.
-/

namespace PascalFront.Editor

/-- A point in a document. -/
structure Place where
  /-- The line, counted from zero. -/
  line : Nat
  /-- The character of the line, counted from zero. -/
  character : Nat
  deriving DecidableEq, Repr

/-- **A stretch of a document.** -/
structure Range where
  /-- Where it begins. -/
  start : Place
  /-- Where it ends. -/
  stop : Place
  deriving DecidableEq, Repr

/-- The greatest line or character. -/
def maxCoordinate : Nat := Nat.pow 2 31 - 1

/-- A line or column, counted from zero. -/
def coordinate? (counted : Int) : Option Nat :=
  if 1 ≤ counted ∧ counted ≤ maxCoordinate + 1 then some (counted - 1).toNat else none

/-- The place of a position. -/
def Place.ofPosition? (p : Position) : Option Place := do
  return ⟨← coordinate? p.line, ← coordinate? p.column⟩

namespace Range

/-- The range of what has no place. -/
def origin : Range := ⟨⟨0, 0⟩, ⟨0, 0⟩⟩

/-- **The range of a span.** -/
def ofSpan? (span : Span) : Option Range :=
  if span.isZero then some origin
  else do return ⟨← Place.ofPosition? span.start, ← Place.ofPosition? span.stop⟩

/-- The range of a place that may be unknown. -/
def ofPlace? : Option Span → Option Range
  | none => some origin
  | some span => ofSpan? span

end Range

end PascalFront.Editor
