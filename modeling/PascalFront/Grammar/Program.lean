import PascalFront.Grammar.Routine
/-!
# Recognizing programs

A program is its heading, its declarations, its statements and a point, with
nothing behind it. Reading stops at the first fault; there is no repair and no
tree of a faulty program.
-/

namespace PascalFront

namespace Recognizer

/-- A whole program, where `body` recognizes the bodies of routines and `inner`
the statements in it. -/
def programBy (body : Recognizer Block) (inner : Recognizer Statement) : Recognizer Program := do
  let start ← peek
  let _ ← expectKeyword .programKeyword "program"
  let name ← expect .identifier (.missing .programName)
  let _ ← expect .semicolon (.missing .semicolonAfterProgramName)
  let declared ← declarations body
  let content ← block inner [] none
  let _ ← expect .dot (.missing .dotAtEnd)
  let span ← since start.startPosition
  if !(← atEnd) then reject (.missing .endAfterDot)
  return ⟨name.value, declared, content.statements, span⟩

/-- **A whole program.** There is one call more than there are levels, so that it is the
levels that run out. -/
def program : Recognizer Program :=
  programBy (routineBody (maxNesting + 1)) (statement (maxNesting + 1))

end Recognizer

namespace Program

/-- The program that a stream of tokens holds, or the first fault in it. -/
def ofStream (stream : TokenStream) : Except Fault Program :=
  match Recognizer.program stream with
  | .ok program _ => .ok program
  | .error fault _ => .error fault

/-- The program that tokens make up. -/
def ofTokens (tokens : List Token) : Except Fault Program := ofStream (.ofTokens tokens)

/-- **The program that a text holds**, or the first fault in it. -/
def ofText (text : String) : Except Fault Program := ofStream (.ofText text)

/-- Whether a text holds a program. -/
def isValid (text : String) : Bool :=
  match ofText text with
  | .ok _ => true
  | .error _ => false

end Program

end PascalFront
