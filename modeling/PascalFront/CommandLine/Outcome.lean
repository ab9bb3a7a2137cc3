import PascalFront.Settings
import PascalFront.Text.Escapes
/-!
# Outcomes of commands

A command prints lines to the standard output and to the error output, and ends
with an exit code. A text that is no path, settings that cannot be used, or a
source that cannot be shown end it at once.
-/

namespace PascalFront.CommandLine

/-- A text that is printed, followed by a line end. -/
inductive Echo where
  /-- To the standard output. -/
  | out (text : String)
  /-- To the error output. -/
  | err (text : String)
  deriving DecidableEq, Repr

/-- What ends a command at once. -/
inductive Crash where
  /-- An argument that is no path. -/
  | path (fault : PathFault)
  /-- Settings that cannot be used. -/
  | settings (fault : SettingsFault)
  /-- A source that a picture needs and that is not text. -/
  | display (flaw : Text.Utf8.Flaw)
  deriving DecidableEq, Repr

/-- The wording of what ended a command. -/
def Crash.message : Crash → String
  | path fault => fault.message
  | settings fault => fault.message
  | display _ => "a source to be shown is not valid UTF-8"

/-- **What a command does.** -/
structure Outcome where
  /-- What it prints, in order. -/
  echoes : List Echo
  /-- The exit code. -/
  exit : Nat
  /-- What ended it at once, if something did. -/
  crash : Option Crash := none
  deriving DecidableEq, Repr

namespace Outcome

/-- The outcome of a command that ended at once. -/
def crashed (crash : Crash) : Outcome := ⟨[], 1, some crash⟩

/-- An outcome with something printed before it. -/
def after (echoes : List Echo) (o : Outcome) : Outcome := { o with echoes := echoes ++ o.echoes }

/-- Texts with a line end behind each. -/
def joinLines (texts : List String) : String := String.join (texts.map (· ++ "\n"))

/-- What a command prints to the standard output. -/
def stdout (o : Outcome) : String :=
  joinLines (o.echoes.filterMap fun
    | .out text => some text
    | .err _ => none)

/-- What a command prints to the error output. -/
def stderr (o : Outcome) : String :=
  joinLines (o.echoes.filterMap fun
    | .out _ => none
    | .err text => some text)

end Outcome

/-- A text as it is printed: off a terminal without the instructions to one. -/
def printed (terminal : Bool) (text : String) : String :=
  if terminal then text else String.ofList (Text.stripEscapes text.toList)

end PascalFront.CommandLine
