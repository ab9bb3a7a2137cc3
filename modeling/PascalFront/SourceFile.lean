import PascalFront.Folder
import PascalFront.Grammar.Program
import PascalFront.Text.Lines
/-!
# Source files

A source file is UTF-8 text whose line ends are made uniform when it is read. A
file that is not text has a fault of its own, which has no place in the text.
-/

namespace PascalFront.SourceFile

/-- What is wrong with the octets of a file, in words. -/
def defectPhrase : Text.Utf8.Defect → String
  | .badStart => "invalid start byte"
  | .badContinuation => "invalid continuation byte"
  | .truncated => "unexpected end of data"

/-- The fault of a file that is not text. -/
def flawFault (flaw : Text.Utf8.Flaw) : Fault :=
  .general s!"File is not valid UTF-8: {defectPhrase flaw.defect} at byte {flaw.offset}" none

/-- **The text of a source file.** -/
def read (octets : List UInt8) : Except Fault String :=
  match Text.Utf8.decode octets with
  | .ok text => .ok (String.ofList (Text.uniformLineEnds text))
  | .error flaw => .error (flawFault flaw)

end PascalFront.SourceFile
