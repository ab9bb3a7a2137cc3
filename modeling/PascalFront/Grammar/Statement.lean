import PascalFront.Grammar.Expression
/-!
# Recognizing statements

The first token tells the form of a statement; a name is followed by `:=` in an
assignment and by a parenthesis in a call. These two end with a semicolon, which
may be left out directly before `else`; the other forms end with the statement
or the word that they end with, and a semicolon behind `end` is taken along.
-/

namespace PascalFront.Recognizer

/-- The semicolon behind a simple statement, unless `else` follows. -/
def terminator : Recognizer Unit := do
  if ← check .elseKeyword then return
  let _ ← expect .semicolon (.missing .semicolonAfterStatement)

/-- A call of a procedure. The two tokens it starts with have been looked
at. -/
def callStatement (value : Recognizer Expr) : Recognizer Statement := do
  let name ← advance
  let _ ← advance
  let items ← arguments value
  return .call name.value items (← since name.startPosition)

/-- An assignment. The two tokens it starts with have been looked at. -/
def assignment (value : Recognizer Expr) : Recognizer Statement := do
  let name ← advance
  let _ ← advance
  let e ← value
  return .assignment ⟨name.value, name.span⟩ e (← since name.startPosition)

/-- A call or an assignment, told apart by the token behind the name. -/
def simpleStatement (value : Recognizer Expr) (name : Token) : Recognizer Statement := do
  let t ← peekAt 1
  let s ←
    match t.kind with
    | .openParen => callStatement value
    | .assign => assignment value
    | _ => refuse (.missing (.callOrAssignment name.value)) t
  terminator
  return s

/-- A choice between branches, from the word `if` on. An `else` belongs to the
nearest choice that can take it. -/
def conditional (value : Recognizer Expr) (inner : Recognizer Statement) :
    Recognizer Statement := do
  let start ← advance
  let condition ← value
  let _ ← expect .thenKeyword (.missing .thenAfterCondition)
  let thenBranch ← inner
  let elseBranch ← if ← accept .elseKeyword then some <$> inner else pure none
  return .conditional condition thenBranch elseBranch (← since start.startPosition)

/-- A loop under a condition, from the word `while` on. -/
def repetition (value : Recognizer Expr) (inner : Recognizer Statement) :
    Recognizer Statement := do
  let start ← advance
  let condition ← value
  let _ ← expect .doKeyword (.missing .doAfterCondition)
  let body ← inner
  return .repetition condition body (← since start.startPosition)

/-- The direction of a counting loop. -/
def direction : Recognizer Direction := do
  if ← accept .toKeyword then return .up
  if ← accept .downtoKeyword then return .down
  reject (.missing .toOrDownto)

/-- A counting loop, from the word `for` on. -/
def counting (value : Recognizer Expr) (inner : Recognizer Statement) :
    Recognizer Statement := do
  let start ← advance
  let counter ← expect .identifier (.missing .loopVariable)
  let _ ← expect .assign (.missing .assignAfterLoopVariable)
  let first ← value
  let way ← direction
  let last ← value
  let _ ← expect .doKeyword (.missing .doAfterRange)
  let body ← inner
  return .counting ⟨counter.value, counter.span⟩ first last body way (← since start.startPosition)

/-- A statement of a list, unless the list ends here. A list can end only with
the word `end`. -/
def listedStatement (inner : Recognizer Statement) : Recognizer (Option Statement) := do
  if ← check .endKeyword then return none
  if (← atEnd) || (← check .dot) then reject (.missing (.keyword "end"))
  return some (← inner)

/-- The statements up to the word `end`. -/
def statements (inner : Recognizer Statement) : Recognizer (List Statement) :=
  manyOf (listedStatement inner)

/-- Statements taken together, from the word `begin` on. -/
def compound (inner : Recognizer Statement) : Recognizer Statement := do
  let start ← advance
  let items ← statements inner
  let _ ← expectKeyword .endKeyword "end"
  let span ← since start.startPosition
  let _ ← accept .semicolon
  return .compound items span

/-- A statement that starts with a token, where `value` recognizes the
expressions and `inner` the statements in it. -/
def statementBy (value : Recognizer Expr) (inner : Recognizer Statement) (t : Token) :
    Recognizer Statement :=
  match t.kind with
  | .ifKeyword => conditional value inner
  | .whileKeyword => repetition value inner
  | .forKeyword => counting value inner
  | .beginKeyword => compound inner
  | .identifier => simpleStatement value t
  | _ => reject (.missing .statement)

/-- **A statement**, one level of nesting deeper. -/
def statement : (calls : Nat) → Recognizer Statement
  | 0 => reject .nestingTooDeep
  | calls + 1 => do
    let t ← peek
    nested (statementBy (expression calls 0) (statement calls) t)

end PascalFront.Recognizer
