import PascalFront.CommandLine.Check
import PascalFront.Tree.Sketch
/-!
# Inspecting a file

Two commands show what a file consists of: its tokens, one to a line, and the
tree of its program. Tokens are shown up to the first fault, a tree only if there
is no fault.
-/

namespace PascalFront.CommandLine

/-- A text with spaces behind it, at least `width` characters in all. -/
def alignLeft (width : Nat) (text : String) : String :=
  text ++ String.ofList (List.replicate (width - text.length) ' ')

/-- The line that shows a token: its place, its kind and its text. -/
def tokenLine (t : Token) : String :=
  let place := (t.start.map Position.text).getD "?:?"
  alignLeft 8 place ++ " " ++ alignLeft 15 t.kind.name ++ " " ++ Text.quotedString t.value

/-- The outcome of a command that stops at a fault. -/
def stopAt (settings : Settings) (path : String) (text : Option String) (shown : List Echo)
    (fault : Fault) : Outcome :=
  ⟨shown ++ [.err (faultPicture settings.color.isOn path text fault)], 1, none⟩

/-- The outcome for the settings that count for a path. -/
def withSettings (root : Entry) (path : String) (command : Settings → Outcome) : Outcome :=
  match Settings.resolve root (some path) with
  | .ok settings => command settings
  | .error fault => .crashed (.settings fault)

/-- **Lists the tokens of a file.** -/
def listTokens (root : Entry) (path : String) (octets : List UInt8) : Outcome :=
  withSettings root path fun settings =>
    match SourceFile.read octets with
    | .error fault => stopAt settings path none [] fault
    | .ok text =>
      let reading := (Cursor.ofText text).readAll
      let shown := reading.tokens.map fun t => Echo.out (tokenLine t)
      match reading.fault with
      | none => ⟨shown, 0, none⟩
      | some fault => stopAt settings path (some text) shown fault

/-- **Shows the tree of a file.** -/
def viewTree (root : Entry) (path : String) (octets : List UInt8) (locations : Bool) : Outcome :=
  withSettings root path fun settings =>
    match examine octets with
    | .error (fault, text) => stopAt settings path text [] fault
    | .ok program =>
      let spans := locations || settings.spans.isOn
      ⟨((Sketch.ofProgram program).lines spans 0).map .out, 0, none⟩

end PascalFront.CommandLine
