import PascalFront.CommandLine.Help
import PascalFront.CommandLine.Inspect
/-!
# Running requests

A request that is refused ends with exit code 2, and so does a command line
without words; help and version end with 0. An argument that is no path ends the
program at once.
-/

namespace PascalFront.CommandLine

/-- The outcome of a task. An editor is served elsewhere. -/
def Task.run (root : Entry) : Task → Outcome
  | check path found noColor => CommandLine.check root path found noColor
  | serve => ⟨[], 0, none⟩
  | tokens path octets => listTokens root path octets
  | view path octets locations => viewTree root path octets locations

/-- The outcome of a request. -/
def Request.outcome (root : Entry) : Request → Outcome
  | run task => task.run root
  | version => ⟨[.out versionLine], 0, none⟩
  | help command => ⟨(helpLines command).map .out, 0, none⟩
  | nothing => ⟨(helpLines none).map .err, 2, none⟩
  | refused command refusal => ⟨(refusalLines command refusal).map .err, 2, none⟩
  | noPath fault => .crashed (.path fault)

/-- **Runs a command line** in a folder. -/
def run (root : Entry) (words : List String) : Outcome :=
  (Request.ofWords root words).outcome root

end PascalFront.CommandLine
