import PascalFront.CommandLine.Similarity
import PascalFront.Folder
import PascalFront.Text.Quoted
/-!
# Requests

The words of a command line are a request: to run a command, to show help or the
version, or one that is refused. Options start with a dash; `--` ends them. The
options before the command belong to the program, those behind it to the
command, where they may stand before and behind the arguments. An unknown option
is refused first, then help and version take effect, and only then the arguments
are looked at. Where an option or a command is not known, the known ones that are
written much like it are suggested.
-/

namespace PascalFront.CommandLine

/-- **The commands.** -/
inductive Command where
  | check | lsp | tokens | view
  deriving DecidableEq, Repr

namespace Command

/-- The commands in the order in which they are listed. -/
def all : List Command := [check, lsp, tokens, view]

/-- The word for a command. -/
def word : Command → String
  | check => "check"
  | lsp => "lsp"
  | tokens => "tokens"
  | view => "view"

/-- The command with a word. -/
def ofWord? (word : String) : Option Command := all.find? fun command => command.word = word

end Command

/-- The options. -/
inductive Opt where
  | version | help | noColor | locations
  deriving DecidableEq, Repr

/-- The word for an option. -/
def Opt.word : Opt → String
  | version => "--version"
  | help => "--help"
  | noColor => "--no-color"
  | locations => "--locations"

/-- The options of a command, or of the program itself. -/
def Opt.available : Option Command → List Opt
  | none => [version, help]
  | some .check => [noColor, help]
  | some .view => [locations, help]
  | some .tokens | some .lsp => [help]

/-- Why a request is refused. -/
inductive Refusal where
  | noSuchOption (word : String) (likely : List String)
  | optionTakesNoValue (word : String)
  | missingCommand
  | noSuchCommand (word : String) (likely : List String)
  | missingArgument (argument : String)
  | doesNotExist (argument sort path : String)
  | isFolder (argument sort path : String)
  | extraArguments (words : List String)
  deriving DecidableEq, Repr

/-- The wording of the words that may have been meant. -/
def suggestion : List String → String
  | [] => ""
  | [word] => s!" Did you mean {Text.quotedString word}?"
  | words =>
    let quoted := ", ".intercalate (words.map Text.quotedString)
    s!" (Did you mean one of: {quoted}?)"

/-- The wording of a refusal. -/
def Refusal.message : Refusal → String
  | noSuchOption word likely =>
    s!"No such option {Text.quotedString word}.{suggestion likely}"
  | optionTakesNoValue word => s!"Option {Text.quotedString word} does not take a value."
  | missingCommand => "Missing command."
  | noSuchCommand word likely =>
    s!"No such command {Text.quotedString word}.{suggestion likely}"
  | missingArgument argument => s!"Missing argument '{argument}'."
  | doesNotExist argument sort path =>
    s!"Invalid value for '{argument}': {sort} {Text.quotedString path} does not exist."
  | isFolder argument sort path =>
    s!"Invalid value for '{argument}': {sort} {Text.quotedString path} is a directory."
  | extraArguments words =>
    let noun := if words.length = 1 then "argument" else "arguments"
    "Got unexpected extra " ++ noun ++ " (" ++ " ".intercalate words ++ ")"

/-- Whether a refusal is told together with the usage. A value for an option that
takes none is told by itself. -/
def Refusal.tellsUsage : Refusal → Bool
  | optionTakesNoValue _ => false
  | _ => true

/-- A command with all that it needs to run. -/
inductive Task where
  /-- Check a file, or the files below a folder. -/
  | check (path : String) (found : Entry) (noColor : Bool)
  /-- Serve an editor. -/
  | serve
  /-- List the tokens of a file. -/
  | tokens (path : String) (octets : List UInt8)
  /-- Show the tree of a file. -/
  | view (path : String) (octets : List UInt8) (locations : Bool)

/-- **A request.** -/
inductive Request where
  /-- Run a command. -/
  | run (task : Task)
  /-- Show the version. -/
  | version
  /-- Show help on a command, or on the program. -/
  | help (command : Option Command)
  /-- There are no words; show help on the program as an error. -/
  | nothing
  /-- Refuse the words for a command, or for the program. -/
  | refused (command : Option Command) (refusal : Refusal)
  /-- End at once, since an argument is no path. -/
  | noPath (fault : PathFault)

/-- Options and arguments, each in the order of the words. -/
structure Words where
  /-- The options. -/
  options : List Opt
  /-- The arguments. -/
  arguments : List String
  deriving DecidableEq, Repr

namespace Words

/-- The option that a word stands for. A flag has no value. Nothing is suggested
for a word with a single dash. -/
def option (known : List Opt) (word : String) : Except Refusal Opt :=
  let characters := word.toList
  let name := String.ofList (characters.takeWhile (· ≠ '='))
  match known.find? fun o => o.word = name with
  | some o => if '=' ∈ characters then .error (.optionTakesNoValue name) else .ok o
  | none =>
    if ['-', '-'].isPrefixOf characters then
      .error (.noSuchOption name (likelyMeant (known.map Opt.word) name))
    else .error (.noSuchOption (String.ofList (characters.take 2)) [])

/-- Whether a word starts with a dash. -/
def startsWithDash (word : String) : Bool := word.toList.head? = some '-'

/-- Whether a word is an option. -/
def isOption (word : String) : Bool := startsWithDash word && 1 < word.length

/-- Sorts words into options and arguments. If they are not `mixed`, all words
behind the first argument are arguments too. -/
def sort (known : List Opt) (mixed : Bool) : List String → Except Refusal Words
  | [] => .ok ⟨[], []⟩
  | word :: rest =>
    if word = "--" then .ok ⟨[], rest⟩
    else if isOption word then do
      let o ← option known word
      let others ← sort known mixed rest
      return { others with options := o :: others.options }
    else if mixed then do
      let others ← sort known mixed rest
      return { others with arguments := word :: others.arguments }
    else .ok ⟨[], word :: rest⟩

end Words

namespace Request

/-- The file that a path leads to. -/
def fileAt (root : Entry) (path : String) : Except Refusal (List UInt8) :=
  match root.find? path with
  | none => .error (.doesNotExist "FILE" "File" path)
  | some (.folder _) => .error (.isFolder "FILE" "File" path)
  | some (.file octets) => .ok octets

/-- What a path leads to. -/
def entryAt (root : Entry) (path : String) : Except Refusal Entry :=
  match root.find? path with
  | none => .error (.doesNotExist "[PATH]" "Path" path)
  | some e => .ok e

/-- Refuses arguments beyond the last one that is wanted. -/
def nothingMore (words : List String) : Except Refusal Unit :=
  if words.isEmpty then .ok () else .error (.extraArguments words)

/-- The argument that a command cannot do without. -/
def required (arguments : List String) : Except Refusal String :=
  match arguments.head? with
  | none => .error (.missingArgument "FILE")
  | some word => .ok word

/-- The task of a command with given options and arguments. -/
def task (root : Entry) (command : Command) (words : Words) : Except Refusal Task :=
  match command with
  | .check => do
    let path := words.arguments.head?.getD "."
    let found ← entryAt root path
    nothingMore words.arguments.tail
    return .check path found (.noColor ∈ words.options)
  | .lsp => do
    nothingMore words.arguments
    return .serve
  | .tokens => do
    let path ← required words.arguments
    let octets ← fileAt root path
    nothingMore words.arguments.tail
    return .tokens path octets
  | .view => do
    let path ← required words.arguments
    let octets ← fileAt root path
    nothingMore words.arguments.tail
    return .view path octets (.locations ∈ words.options)

/-- The path that a command is given, if it takes one. -/
def path? (command : Command) (arguments : List String) : Option String :=
  match command with
  | .lsp => none
  | .check | .tokens | .view => arguments.head?

/-- The request that the words behind a command make. -/
def ofCommand (root : Entry) (command : Command) (words : List String) : Request :=
  match Words.sort (Opt.available (some command)) true words with
  | .error refusal => .refused (some command) refusal
  | .ok sorted =>
    if .help ∈ sorted.options then .help (some command)
    else if (path? command sorted.arguments).any Path.holdsNul then .noPath .holdsNul
    else
      match task root command sorted with
      | .ok task => .run task
      | .error refusal => .refused (some command) refusal

/-- The request that the options of the program make, or otherwise what follows
from its arguments. -/
def ofOptions (words : List String) (otherwise : List String → Request) : Request :=
  match Words.sort (Opt.available none) false words with
  | .error refusal => .refused none refusal
  | .ok sorted =>
    match sorted.options.head? with
    | some .version => .version
    | some _ => .help none
    | none => otherwise sorted.arguments

/-- The request to run the command with a word. A word that is no command and
looks like an option is taken as one after all. -/
def ofArguments (root : Entry) : List String → Request
  | [] => .refused none .missingCommand
  | word :: rest =>
    match Command.ofWord? word with
    | some command => ofCommand root command rest
    | none =>
      let likely := likelyMeant (Command.all.map Command.word) word
      let refused := Request.refused none (.noSuchCommand word likely)
      if Words.startsWithDash word then ofOptions (word :: rest) fun _ => refused else refused

/-- **The request that the words of a command line make.** -/
def ofWords (root : Entry) (words : List String) : Request :=
  if words.isEmpty then .nothing else ofOptions words (ofArguments root)

end Request

end PascalFront.CommandLine
