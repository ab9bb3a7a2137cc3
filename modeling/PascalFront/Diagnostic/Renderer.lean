import PascalFront.Diagnostic.Picture
import PascalFront.Folder
/-!
# Rendering diagnostics

The lines of a file that a label points to are looked up once. A text may be
registered under a file's name; otherwise the file is read when it is first
needed, and a file that does not exist has no lines. Only a file that is not
text cannot be shown; it is not remembered.
-/

namespace PascalFront

/-- **The sources that have been looked up or registered**, and whether
pictures have colours. -/
structure Renderer where
  /-- Whether pictures have colours. -/
  color : Bool
  /-- The lines of the sources by file name; of two entries the first counts. -/
  sources : List (String × List String)
  deriving DecidableEq, Repr

namespace Renderer

/-- A renderer that knows no source. -/
def new (color : Bool) : Renderer := ⟨color, []⟩

/-- Registers a text under a file name. -/
def addSource (r : Renderer) (filename text : String) : Renderer :=
  { r with sources := (filename, displayLines text) :: r.sources }

/-- The lines of a file on disk. -/
def readLines (disk : Entry) (filename : String) : Except Text.Utf8.Flaw (List String) :=
  match disk.at? filename with
  | some (.file octets) => do
    let text ← Text.Utf8.decode octets
    return displayLines (String.ofList (Text.uniformLineEnds text))
  | _ => return []

/-- The lines of a source, which is known from then on. -/
def linesOf (r : Renderer) (disk : Entry) (filename : String) :
    Except Text.Utf8.Flaw (List String × Renderer) :=
  match r.sources.lookup filename with
  | some known => return (known, r)
  | none => do
    let found ← readLines disk filename
    return (found, { r with sources := (filename, found) :: r.sources })

/-- **Renders a diagnostic.** Without labels no source is needed. -/
def render (r : Renderer) (disk : Entry) (d : Diagnostic) :
    Except Text.Utf8.Flaw (String × Renderer) :=
  if d.labels.isEmpty then return (d.picture r.color [], r)
  else do
    let (source, r) ← r.linesOf disk d.filename
    return (d.picture r.color source, r)

end Renderer

end PascalFront
