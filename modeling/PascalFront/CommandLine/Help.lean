import PascalFront.CommandLine.Request
/-!
# Help

The help on a command tells how it is used, what it does, and its options. The
texts behind the options stand below one another, and so do those behind the
commands in the help on the program.
-/

namespace PascalFront.CommandLine

/-- The name of the program. -/
def programName : String := "pasparse"

/-- The line that shows the version. -/
def versionLine : String := s!"{programName}, version 0.1.0"

/-- What a command does, or what the program is. -/
def summary : Option Command → String
  | none => "Lexer and parser for a subset of Pascal."
  | some .check => "Parse Pascal sources and report syntax errors."
  | some .lsp => "Start the pasparse language server."
  | some .tokens => "Print the token stream of a Pascal source file."
  | some .view => "View the AST of a Pascal source file."

/-- What an option does. -/
def Opt.summary : Opt → String
  | version => "Show the version and exit."
  | help => "Show this message and exit."
  | noColor => "Disable colored diagnostics."
  | locations => "Show node locations."

/-- The words before the options of a command. -/
def commandPath : Option Command → String
  | none => programName
  | some command => s!"{programName} {command.word}"

/-- How a command is used. -/
def usageLine (command : Option Command) : String :=
  let arguments :=
    match command with
    | none => " COMMAND [ARGS]..."
    | some .check => " [PATH]"
    | some .lsp => ""
    | some .tokens | some .view => " FILE"
  s!"Usage: {commandPath command} [OPTIONS]{arguments}"

/-- Words and texts in two columns. -/
def columns (rows : List (String × String)) : List String :=
  let width := (rows.map fun row => row.1.length).foldl max 0
  rows.map fun (word, text) =>
    "  " ++ word ++ String.ofList (List.replicate (width - word.length) ' ') ++ "  " ++ text

/-- **The help on a command**, or on the program. -/
def helpLines (command : Option Command) : List String :=
  let options := columns ((Opt.available command).map fun o => (o.word, o.summary))
  let commands :=
    match command with
    | none =>
      "" :: "Commands:" :: columns (Command.all.map fun c => (c.word, summary (some c)))
    | some _ => []
  [usageLine command, "", "  " ++ summary command, "", "Options:"] ++ options ++ commands

/-- What is shown when a request is refused. -/
def refusalLines (command : Option Command) (refusal : Refusal) : List String :=
  let usage :=
    if refusal.tellsUsage then
      [usageLine command, s!"Try '{commandPath command} --help' for help.", ""]
    else []
  usage ++ [s!"Error: {refusal.message}"]

end PascalFront.CommandLine
