import PascalFront.CommandLine.Outcome
import PascalFront.Diagnostic.Renderer
import PascalFront.SourceFile
import PascalFront.Text.Lowercase
/-!
# Checking files

A file passes if it is text and holds a program; otherwise the diagnostic is
shown. A folder stands for the files below it whose names have one of the
endings, whatever their letter case. The files are checked one after the other,
and one renderer shows what is wrong with any of them, so that it knows the texts
of the files before. At the end the files that failed are counted.
-/

namespace PascalFront.CommandLine

/-- The picture of a fault in a text; without a text only the fault itself is
told. -/
def faultPicture (color : Bool) (filename : String) (text : Option String) (fault : Fault) :
    String :=
  (fault.diagnostic filename).picture color ((text.map displayLines).getD [])

/-- What is wrong with a file, and its text if it has one. -/
def examine (octets : List UInt8) : Except (Fault × Option String) Program :=
  match SourceFile.read octets with
  | .error fault => .error (fault, none)
  | .ok text => (Program.ofText text).mapError (·, some text)

/-- Whether a file name has one of some endings. -/
def hasEnding (endings : List String) (path : Path) : Bool :=
  let ending := Text.lowercase (Path.suffix (path.getLast?.getD "")).toList
  endings.any fun other => Text.lowercase other.toList = ending

/-- The files to check, with the names under which they are reported. -/
def collect (settings : Settings) (path : String) :
    Entry → Except SettingsFault (List (String × List UInt8))
  | .file octets => .ok [((Path.ofText path).text, octets)]
  | .folder entries => do
    let endings ← settings.endingList
    let chosen := (Entry.folder entries).sortedFiles.filter fun file => hasEnding endings file.1
    return chosen.map fun (rest, octets) => ((Path.ofText path ++ rest).text, octets)

/-- Shows a fault in a file. Its text is registered first if it has one, so that
the file is not read again. -/
def showFault (r : Renderer) (disk : Entry) (filename : String) (text : Option String)
    (fault : Fault) : Except Text.Utf8.Flaw (String × Renderer) :=
  let r := match text with
    | none => r
    | some text => r.addSource filename text
  r.render disk (fault.diagnostic filename)

/-- How a check ends after `total` files of which some have failed. -/
def checkEnd (total failed : Nat) : Outcome :=
  if failed = 0 then ⟨[], 0, none⟩
  else ⟨[.err s!"{failed} of {total} file(s) failed to parse"], 1, none⟩

/-- Checks one file after the other and counts those that fail. All faults are
shown by the same renderer. -/
def checkFrom (disk : Entry) (total : Nat) (r : Renderer) (failed : Nat) :
    List (String × List UInt8) → Outcome
  | [] => checkEnd total failed
  | (name, octets) :: rest =>
    match examine octets with
    | .ok _ => (checkFrom disk total r failed rest).after [.out s!"ok {name}"]
    | .error (fault, text) =>
      match showFault r disk name text fault with
      | .ok (picture, r) => (checkFrom disk total r (failed + 1) rest).after [.err picture]
      | .error flaw => .crashed (.display flaw)

/-- The outcome of checking files. -/
def checkFiles (disk : Entry) (color : Bool) (files : List (String × List UInt8)) : Outcome :=
  if files.isEmpty then ⟨[.err "warning: no Pascal sources found"], 0, none⟩
  else checkFrom disk files.length (.new color) 0 files

/-- **Checks the files at a path.** -/
def check (root : Entry) (path : String) (found : Entry) (noColor : Bool) : Outcome :=
  let outcome := do
    let settings ← Settings.resolve root (some path)
    let files ← collect settings path found
    return checkFiles root (settings.color.isOn && !noColor) files
  match outcome with
  | .ok outcome => outcome
  | .error fault => .crashed (.settings fault)

end PascalFront.CommandLine
