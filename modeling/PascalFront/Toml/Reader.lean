/-!
# Reading settings files

A reader takes text from the front and yields what the text denotes. Loops run
until they are done; each round takes some text or ends the loop, so the length
of the text bounds the number of rounds.
-/

namespace PascalFront.Toml

/-- Why a settings file cannot be read. -/
inductive Defect where
  /-- The text is not in the format. -/
  | malformed
  /-- A decimal integer has too many digits. -/
  | integerTooLong
  deriving DecidableEq, Repr

/-- **A reader** takes text from the front. -/
abbrev Reader := StateT (List Char) (Except Defect)

namespace Reader

/-- Refuses the text. -/
def malformed {α : Type} : Reader α := throw .malformed

/-- The next character, which is not taken. -/
def peek? : Reader (Option Char) := return (← get).head?

/-- Takes the next character, if there is one. -/
def next? : Reader (Option Char) := do
  let text ← get
  set text.tail
  return text.head?

/-- Takes a number of characters. -/
def drop (count : Nat) : Reader Unit := modify (·.drop count)

/-- Takes characters as long as they are of a sort. -/
def takeWhile (p : Char → Bool) : Reader (List Char) := do
  let text ← get
  set (text.dropWhile p)
  return text.takeWhile p

/-- Passes over characters of a sort. -/
def skipWhile (p : Char → Bool) : Reader Unit := modify (·.dropWhile p)

/-- Takes a piece of text if it comes next. -/
def accept (piece : String) : Reader Bool := do
  let text ← get
  if piece.toList.isPrefixOf text then
    set (text.drop piece.length)
    return true
  else
    return false

/-- Takes a piece of text, which must come next. -/
def expect (piece : String) : Reader Unit := do
  if !(← accept piece) then malformed

/-- Takes what a function finds at the front, if it finds something. -/
def attempt {α : Type} (find : List Char → Option (α × List Char)) : Reader (Option α) := do
  match find (← get) with
  | none => return none
  | some (a, rest) => do
    set rest
    return some a

/-- Runs rounds until one is done, at most `limit` of them. -/
def rounds {σ α : Type} (round : σ → Reader (σ ⊕ α)) : (limit : Nat) → σ → Reader α
  | 0, _ => malformed
  | limit + 1, state => do
    match ← round state with
    | .inl state => rounds round limit state
    | .inr a => return a

/-- **Runs rounds until one is done.** -/
def loop {σ α : Type} (round : σ → Reader (σ ⊕ α)) (state : σ) : Reader α := do
  rounds round ((← get).length + 1) state

end Reader

/-- The blanks within a line. -/
def isLineBlank (c : Char) : Bool := c = ' ' || c = '\t'

/-- The blanks within and between lines. -/
def isAnyBlank (c : Char) : Bool := isLineBlank c || c = '\n'

/-- The control characters, which may not stand in texts and comments; the tab
may. -/
def isControl (c : Char) : Bool := (c < ' ' || c = '\x7f') && c ≠ '\t'

namespace Reader

/-- Passes over the blanks of a line. -/
def skipBlanks : Reader Unit := skipWhile isLineBlank

/-- Passes over a comment up to the end of its line, if there is one. -/
def skipComment : Reader Unit := do
  if ← accept "#" then
    let content ← takeWhile (· ≠ '\n')
    if content.any isControl then malformed

/-- Passes over blanks, line ends and comments. -/
def skipLines : Reader Unit :=
  loop (fun _ => do
    let before := (← get).length
    skipWhile isAnyBlank
    skipComment
    return if (← get).length = before then .inr () else .inl ()) ()

end Reader

end PascalFront.Toml
