/-!
# Positions and spans

A position counts lines and columns from one and code points from zero. A span
runs from a position to just past its last character. Tokens that do not come
from a text have no position; where one is needed nevertheless the zero
position stands for it, and a span with a zero end is the zero span.
-/

namespace PascalFront

/-- **A point in a text.** -/
structure Position where
  /-- The line, counted from one. -/
  line : Int
  /-- The column, counted from one. -/
  column : Int
  /-- The number of code points before the point. -/
  offset : Int
  deriving DecidableEq, Repr

namespace Position

/-- The position of what has none. -/
def zero : Position := ⟨0, 0, 0⟩

/-- Where a text starts. -/
def start : Position := ⟨1, 1, 0⟩

/-- The position behind a character. Only `\n` ends a line. -/
def after (p : Position) (c : Char) : Position :=
  if c = '\n' then ⟨p.line + 1, 1, p.offset + 1⟩
  else ⟨p.line, p.column + 1, p.offset + 1⟩

/-- The position behind a piece of text. -/
def afterAll (p : Position) (text : List Char) : Position := text.foldl after p

@[simp] theorem afterAll_nil (p : Position) : p.afterAll [] = p := rfl

@[simp] theorem afterAll_cons (p : Position) (c : Char) (text : List Char) :
    p.afterAll (c :: text) = (p.after c).afterAll text := rfl

@[simp] theorem afterAll_append (p : Position) (first second : List Char) :
    p.afterAll (first ++ second) = (p.afterAll first).afterAll second :=
  List.foldl_append

@[simp] theorem offset_after (p : Position) (c : Char) : (p.after c).offset = p.offset + 1 := by
  unfold after; split <;> rfl

/-- Offsets count code points. -/
@[simp] theorem offset_afterAll (p : Position) (text : List Char) :
    (p.afterAll text).offset = p.offset + text.length := by
  induction text generalizing p with
  | nil => simp
  | cons c text ih => simp only [afterAll_cons, ih, offset_after, List.length_cons]; omega

/-- The text of a position. -/
def text (p : Position) : String := s!"{p.line}:{p.column}"

end Position

/-- **A stretch of text**; `stop` is just past its last character. -/
structure Span where
  /-- Where the stretch begins. -/
  start : Position
  /-- Where the stretch ends. -/
  stop : Position
  deriving DecidableEq, Repr

namespace Span

/-- The span of what has no position. -/
def zero : Span := ⟨.zero, .zero⟩

/-- Whether a span is the zero span. -/
def isZero (s : Span) : Bool := s = zero

/-- The span between two positions; it is zero if one of them is. -/
def between (start stop : Position) : Span :=
  if start = .zero ∨ stop = .zero then zero else ⟨start, stop⟩

/-- The text of a span names its start. -/
def text (s : Span) : String := s.start.text

end Span

end PascalFront
