import PascalFront.Grammar.Statement
/-!
# Recognizing declarations

Declarations come in any order and number: sections of variables, procedures
and functions. Names that share a type share the end of their span. The body of
a routine has declarations of its own and counts as a level of nesting.
-/

namespace PascalFront.Recognizer

/-- Names with commas between them. -/
def names (wanted : Wanted) : Recognizer (List Token) :=
  separated .comma (expect .identifier (.missing wanted))

/-- The name of a type. -/
def typeName : Recognizer Token := do
  let t ← peek
  if t.kind.isTypeName ∨ t.kind = .identifier then advance
  else reject (.missing .typeName)

/-- Variables of one type. -/
def variableGroup : Recognizer (List Declaration) := do
  let declared ← names .variableName
  let _ ← expect .colon (.missing .colonAfterVariables)
  let type ← typeName
  let _ ← expect .semicolon (.missing .semicolonAfterVariables)
  return declared.map fun t =>
    .var t.value type.value (.between t.startPosition type.stopPosition)

/-- A section of variables, from the word `var` on. It goes on as long as
another name follows. -/
def variableSection : Recognizer (List Declaration) := do
  let _ ← advance
  let first ← variableGroup
  let others ← manyOf do
    if ← check .identifier then return some (← variableGroup) else return none
  return first ++ others.flatten

/-- Parameters of one type. -/
def parameterGroup : Recognizer (List Parameter) := do
  let start ← peek
  let byReference ← accept .varKeyword
  let declared ← names .parameterName
  let _ ← expect .colon (.missing .colonAfterParameters)
  let type ← typeName
  return declared.map fun t =>
    { name := t.value
      typeName := type.value
      byReference
      span := .between (if byReference then start else t).startPosition type.stopPosition }

/-- The parameters of a routine; the parentheses may be left out if there are
none. -/
def parameters : Recognizer (List Parameter) := do
  if !(← accept .openParen) then return []
  if ← accept .closeParen then return []
  let groups ← separated .semicolon parameterGroup
  let _ ← expect .closeParen (.missing .parenAfterParameters)
  return groups.flatten

/-- Statements between `begin` and `end`, behind given declarations. -/
def block (inner : Recognizer Statement) (declarations : List Declaration)
    (start : Option Position) : Recognizer Block := do
  let opening ← expectKeyword .beginKeyword "begin"
  let items ← statements inner
  let _ ← expectKeyword .endKeyword "end"
  return .mk items declarations (← since (start.getD opening.startPosition))

/-- A procedure, from the word `procedure` on. -/
def procedure (body : Recognizer Block) : Recognizer Declaration := do
  let start ← advance
  let name ← expect .identifier (.missing .procedureName)
  let formal ← parameters
  let _ ← expect .semicolon (.missing .semicolonAfterProcedureHeading)
  let content ← body
  let _ ← expect .semicolon (.missing .semicolonAfterProcedureBody)
  return .procedure name.value formal (some content) (← since start.startPosition)

/-- A function, from the word `function` on. -/
def function (body : Recognizer Block) : Recognizer Declaration := do
  let start ← advance
  let name ← expect .identifier (.missing .functionName)
  let formal ← parameters
  let _ ← expect .colon (.missing .colonBeforeReturnType)
  let returnType ← typeName
  let _ ← expect .semicolon (.missing .semicolonAfterFunctionHeading)
  let content ← body
  let _ ← expect .semicolon (.missing .semicolonAfterFunctionBody)
  return .function name.value formal returnType.value (some content)
    (← since start.startPosition)

/-- A section of variables or a routine, unless no declaration starts here. -/
def declarationSection (body : Recognizer Block) : Recognizer (Option (List Declaration)) := do
  if ← check .varKeyword then return some (← variableSection)
  if ← check .procedureKeyword then return some [← procedure body]
  if ← check .functionKeyword then return some [← function body]
  return none

/-- Declarations as far as they go, where `body` recognizes the bodies of
routines. -/
def declarations (body : Recognizer Block) : Recognizer (List Declaration) :=
  return (← manyOf (declarationSection body)).flatten

/-- The body of a routine that starts with a token, where `body` recognizes the
bodies of routines and `inner` the statements in it. -/
def routineBodyBy (body : Recognizer Block) (inner : Recognizer Statement) (start : Token) :
    Recognizer Block := do
  let declared ← declarations body
  block inner declared (some start.startPosition)

/-- **The body of a routine**, one level of nesting deeper. -/
def routineBody : (calls : Nat) → Recognizer Block
  | 0 => reject .nestingTooDeep
  | calls + 1 => do
    let start ← peek
    nested (routineBodyBy (routineBody calls) (statement calls) start)

end PascalFront.Recognizer
