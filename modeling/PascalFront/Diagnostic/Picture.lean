import PascalFront.Diagnostic.Basic
import PascalFront.Text.Lines
/-!
# Pictures of diagnostics

A diagnostic is shown as a header line, and for each label the place, the
source line that the label starts on, and carets below what it points to. The
carets of a label that ends on a later line reach to the end of the line shown.
A line that the source does not have is not shown, and neither are its carets.

Colours are instructions to the terminal around pieces of the picture; without
them the picture is the same.
-/

namespace PascalFront

/-- Instructions that set the looks of the text behind them. -/
inductive Paint where
  | boldRed | boldYellow | boldCyan | boldBlue | bold | plain
  deriving DecidableEq, Repr

/-- The instruction to a terminal. -/
def Paint.code : Paint → String
  | boldRed => "\x1b[1;31m"
  | boldYellow => "\x1b[1;33m"
  | boldCyan => "\x1b[1;36m"
  | boldBlue => "\x1b[1;34m"
  | bold => "\x1b[1m"
  | plain => "\x1b[0m"

/-- The paint of a severity. -/
def Severity.paint : Severity → Paint
  | error => .boldRed
  | warning => .boldYellow
  | note => .boldCyan

namespace Diagnostic

/-- A piece of text in some paint, or as it is if there are no colours. -/
def painted (color : Bool) (paint : Paint) (text : String) : String :=
  if color then paint.code ++ text ++ Paint.plain.code else text

/-- The same character over and over. -/
def repeated (count : Nat) (c : Char) : String := String.ofList (List.replicate count c)

/-- A text with spaces before it, at least `width` characters in all. -/
def alignRight (width : Nat) (text : String) : String :=
  repeated (width - text.length) ' ' ++ text

/-- The line of a source with a number, counted from one. -/
def sourceLine? (source : List String) (number : Int) : Option String :=
  if 1 ≤ number then source[(number - 1).toNat]? else none

/-- How many carets stand below a stretch of text that starts on a line. -/
def caretCount (span : Span) (line : String) : Nat :=
  if span.start.line = span.stop.line then
    max 1 (span.stop.column - span.start.column).toNat
  else
    max 1 ((line.length : Int) - span.start.column + 1).toNat

/-- The bar at the left of a label, without a line number. -/
def bar (color : Bool) : String := "  " ++ painted color .boldBlue "   |"

/-- The bar at the left of a source line, with the line's number. -/
def numberedBar (color : Bool) (number : Int) : String :=
  "  " ++ painted color .boldBlue (alignRight 4 (toString number) ++ " |")

/-- The row that shows a source line. -/
def sourceRow (color : Bool) (span : Span) (line : String) : String :=
  numberedBar color span.start.line ++ " " ++ line

/-- The row of carets below a source line. -/
def caretRow (color : Bool) (severity : Severity) (span : Span) (line : String) : String :=
  bar color ++ " " ++ repeated (span.start.column - 1).toNat ' '
    ++ painted color severity.paint (repeated (caretCount span line) '^')

/-- The rows of a label. -/
def labelRows (d : Diagnostic) (color : Bool) (source : List String) (label : Label) :
    List String :=
  let place := "  " ++ painted color .boldBlue "-->" ++ " " ++ d.filename ++ ":"
    ++ label.span.start.text
  let excerpt :=
    match sourceLine? source label.span.start.line with
    | none => []
    | some line =>
      [sourceRow color label.span line, caretRow color d.severity label.span line]
  let message :=
    if label.message.isEmpty then []
    else [bar color ++ "   " ++ painted color d.severity.paint label.message]
  [place, bar color] ++ excerpt ++ message

/-- The first row of a picture. -/
def headerRow (d : Diagnostic) (color : Bool) : String :=
  painted color d.severity.paint (d.severity.word ++ "[" ++ d.code ++ "]")
    ++ painted color .bold (": " ++ d.message)

/-- The row of a note. -/
def noteRow (color : Bool) (note : String) : String :=
  "  " ++ painted color .boldBlue "=" ++ " note: " ++ note

/-- The rows of a picture. -/
def rows (d : Diagnostic) (color : Bool) (source : List String) : List String :=
  d.headerRow color :: (d.labels.flatMap (d.labelRows color source)
    ++ d.notes.map (noteRow color))

/-- **The picture of a diagnostic**, with the lines of its file. -/
def picture (d : Diagnostic) (color : Bool) (source : List String) : String :=
  "\n".intercalate (d.rows color source)

end Diagnostic

/-- The lines of a text that is displayed. -/
def displayLines (text : String) : List String := (Text.lines text.toList).map String.ofList

end PascalFront
