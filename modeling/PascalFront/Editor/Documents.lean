import PascalFront.Diagnostic.Basic
import PascalFront.Editor.Outline
import PascalFront.Grammar.Program
/-!
# Open documents

An editor reports when a document is opened, changed or closed. Each time the
text of a document is given it is analysed anew: the document then holds the
program, or the one notice about what is wrong, and the notices are published.
Closing a document forgets it and publishes nothing.
-/

namespace PascalFront.Editor

/-- What is published about a fault in a document. -/
structure Notice where
  /-- Where the fault lies. -/
  range : Range
  /-- How serious it is. -/
  severity : Severity
  /-- The code of its sort. -/
  code : String
  /-- The message, with the code before it. -/
  message : String
  deriving DecidableEq, Repr

/-- The number by which an editor knows a severity. -/
def severityNumber : Severity → Nat
  | .error => 1
  | .warning => 2
  | .note => 3

/-- Who publishes the notices. -/
def Notice.source : String := "pasparse"

/-- The notice about a fault; none if it lies outside the editor's numbers. -/
def Notice.ofFault? (fault : Fault) (uri : String) : Option Notice := do
  let d := fault.diagnostic uri
  return ⟨← Range.ofPlace? fault.place?, d.severity, d.code, s!"[{d.code}] {d.message}"⟩

/-- **An open document** with what is known about it. -/
structure Document where
  /-- The text. -/
  text : String
  /-- The program, as soon as the text is known to hold one. -/
  program? : Option Program := none
  /-- What is wrong with the text. -/
  notices : List Notice := []

/-- The document with a text: the program is entered if the text holds one, and what is wrong
with it otherwise. -/
def Document.analyse? (uri text : String) : Option Document :=
  let d : Document := { text }
  match Program.ofText text with
  | .ok program => some { d with program? := some program }
  | .error fault => do
    let notice ← Notice.ofFault? fault uri
    return { d with notices := [notice] }

/-- **The open documents** by their names, each name once. -/
structure Documents where
  /-- The documents. -/
  entries : List (String × Document)

namespace Documents

/-- No document is open. -/
def empty : Documents := ⟨[]⟩

/-- The open document with a name. -/
def get? (docs : Documents) (uri : String) : Option Document := docs.entries.lookup uri

/-- The documents without one. -/
def close (docs : Documents) (uri : String) : Documents :=
  ⟨docs.entries.filter fun entry => entry.1 ≠ uri⟩

/-- The documents with one more, or with one replaced. -/
def put (docs : Documents) (uri : String) (d : Document) : Documents :=
  ⟨(uri, d) :: (docs.close uri).entries⟩

/-- A closed document is not open. -/
@[simp] theorem get?_close_self (docs : Documents) (uri : String) :
    (docs.close uri).get? uri = none := by
  rw [get?, close, List.lookup_eq_none_iff]
  intro entry listed
  have other : entry.1 ≠ uri := by simpa using (List.mem_filter.1 listed).2
  exact bne_iff_ne.2 (Ne.symm other)

/-- Closing a document leaves the others as they are. -/
theorem get?_close_of_ne (docs : Documents) {uri other : String} (h : other ≠ uri) :
    (docs.close uri).get? other = docs.get? other := by
  show (docs.entries.filter fun entry => entry.1 ≠ uri).lookup other = docs.entries.lookup other
  induction docs.entries with
  | nil => rfl
  | cons entry rest ih =>
    obtain ⟨name, d⟩ := entry
    by_cases same : name = uri
    · subst same
      have differs : (other == name) = false := beq_eq_false_iff_ne.2 h
      simpa [List.lookup_cons, differs] using ih
    · rw [List.filter_cons_of_pos (by simpa using same), List.lookup_cons, List.lookup_cons, ih]

/-- A document is found under the name that it was put under. -/
@[simp] theorem get?_put_self (docs : Documents) (uri : String) (d : Document) :
    (docs.put uri d).get? uri = some d := by
  simp [get?, put]

/-- Putting a document leaves the others as they are. -/
theorem get?_put_of_ne (docs : Documents) {uri other : String} (d : Document) (h : other ≠ uri) :
    (docs.put uri d).get? other = docs.get? other := by
  rw [← get?_close_of_ne docs h]
  have differs : (other == uri) = false := beq_eq_false_iff_ne.2 h
  simp [get?, put, List.lookup_cons, differs]

/-- **Takes in the text of a document** that is opened, and yields the notices
to publish about it. None if they lie outside the editor's numbers. -/
def open? (docs : Documents) (uri text : String) : Option (Documents × List Notice) := do
  let d ← Document.analyse? uri text
  return (docs.put uri d, d.notices)

/-- Takes in a change of a document. Each text replaces the whole document, so
the last one counts; without any the document is empty. -/
def change? (docs : Documents) (uri : String) (texts : List String) :
    Option (Documents × List Notice) :=
  docs.open? uri (texts.getLast?.getD "")

/-- The program of an open document. -/
def program? (docs : Documents) (uri : String) : Option Program :=
  (docs.get? uri).bind Document.program?

/-- The open documents in the order of their names. -/
def listing (docs : Documents) : List (String × Document) :=
  docs.entries.mergeSort fun a b => decide (a.1 ≤ b.1)

end Documents

end PascalFront.Editor
