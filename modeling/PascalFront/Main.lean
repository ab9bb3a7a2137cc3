import PascalFront.CommandLine.Run
/-!
# The program

Reads the folder it is started in, runs the command line, and prints what the
outcome holds.
-/

namespace PascalFront

/-- Reads the entries of a folder that lies at most `depth` folders deep. -/
def readEntry : (depth : Nat) → IO.FS.DirEntry → IO (String × Entry)
  | 0, e => return (e.fileName, .empty)
  | depth + 1, e => do
    if ← e.path.isDir then
      let entries ← (← e.path.readDir).toList.mapM (readEntry depth)
      return (e.fileName, .folder entries)
    else
      return (e.fileName, .file (← IO.FS.readBinFile e.path).toList)

/-- Reads the folder that the program is started in. -/
def readFolder : IO Entry := do
  let here ← IO.currentDir
  return .folder (← (← here.readDir).toList.mapM (readEntry 256))

/-- Prints a text and a line end. -/
def printLine (stream : IO.FS.Stream) (text : String) : IO Unit := do
  stream.putStrLn (CommandLine.printed (← stream.isTty) text)

/-- Prints what an outcome holds. -/
def printOutcome (outcome : CommandLine.Outcome) : IO Unit := do
  let stdout ← IO.getStdout
  let stderr ← IO.getStderr
  for echo in outcome.echoes do
    match echo with
    | .out text => printLine stdout text
    | .err text => printLine stderr text
  if let some crash := outcome.crash then
    printLine stderr crash.message

end PascalFront

/-- Runs the command line. -/
def main (words : List String) : IO UInt32 := do
  let outcome := PascalFront.CommandLine.run (← PascalFront.readFolder) words
  PascalFront.printOutcome outcome
  return outcome.exit.toUInt32
