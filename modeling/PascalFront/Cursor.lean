import PascalFront.Position
/-!
# Cursors

A text is read from its start to its end. A cursor is a place on the way: the
text that is still to come, and the position at which it starts.
-/

namespace PascalFront

/-- **A place in a text that is being read.** -/
structure Cursor where
  /-- The text still to be read. -/
  rest : List Char
  /-- The position of its first character. -/
  position : Position
  deriving DecidableEq, Repr

namespace Cursor

/-- The place before a whole text. -/
def ofText (text : String) : Cursor := ⟨text.toList, .start⟩

/-- The place behind the text that is still to come. -/
def atEnd (c : Cursor) : Cursor := ⟨[], c.position.afterAll c.rest⟩

end Cursor

end PascalFront
