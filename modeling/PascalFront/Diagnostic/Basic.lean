import PascalFront.Fault
/-!
# Diagnostics

A diagnostic is what is told to the user about a place in a file: how serious
it is, a code, a message, labels that point to stretches of the text, and notes.
A fault becomes a diagnostic with one label at its place, if it has a place.
-/

namespace PascalFront

/-- How serious a diagnostic is. -/
inductive Severity where
  | error | warning | note
  deriving DecidableEq, Repr

/-- The word for a severity. -/
def Severity.word : Severity → String
  | error => "error"
  | warning => "warning"
  | note => "note"

/-- Whether a label marks the point of a diagnostic or something beside it. -/
inductive LabelStyle where
  | primary | secondary
  deriving DecidableEq, Repr

/-- The word for a style. -/
def LabelStyle.word : LabelStyle → String
  | primary => "primary"
  | secondary => "secondary"

/-- A pointer to a stretch of text. -/
structure Label where
  /-- The stretch. -/
  span : Span
  /-- What is said about it; may be empty. -/
  message : String
  /-- Its role. -/
  style : LabelStyle := .primary
  deriving DecidableEq, Repr

/-- **A diagnostic.** -/
structure Diagnostic where
  /-- How serious it is. -/
  severity : Severity
  /-- The code of its sort. -/
  code : String
  /-- What is said. -/
  message : String
  /-- The file it is about. -/
  filename : String
  /-- The places it points to. -/
  labels : List Label
  /-- What is added at the end. -/
  notes : List String
  deriving DecidableEq, Repr

/-- The name of a text that does not come from a file. -/
def Diagnostic.defaultFilename : String := "<stdin>"

/-- **The diagnostic for a fault** in a file. -/
def Fault.diagnostic (fault : Fault) (filename : String) : Diagnostic :=
  { severity := .error
    code := fault.code
    message := fault.message
    filename
    labels := fault.place?.toList.map fun place => { span := place, message := "" }
    notes := [] }

end PascalFront
