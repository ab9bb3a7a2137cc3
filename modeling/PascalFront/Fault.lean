import PascalFront.Token.Basic
import PascalFront.Text.Quoted
/-!
# Faults

What is wrong with a program is told by its cause. A lexical fault is a
character that starts no token or a string that is not closed; a grammatical
one is a token at which the grammar wants something else; what lies outside
both, such as a file that is not text, is a general one. The three have codes
of their own, and each cause has one wording.
-/

namespace PascalFront

/-- What the grammar wants where a token does not fit. -/
inductive Wanted where
  | keyword (word : String)
  | programName | semicolonAfterProgramName | dotAtEnd | endAfterDot
  | variableName | colonAfterVariables | semicolonAfterVariables
  | procedureName | semicolonAfterProcedureHeading | semicolonAfterProcedureBody
  | functionName | colonBeforeReturnType
  | semicolonAfterFunctionHeading | semicolonAfterFunctionBody
  | parameterName | colonAfterParameters | parenAfterParameters
  | typeName
  | statement | callOrAssignment (name : String) | semicolonAfterStatement
  | thenAfterCondition | doAfterCondition
  | loopVariable | assignAfterLoopVariable | toOrDownto | doAfterRange
  | expression | parenAfterArguments | parenAfterExpression
  deriving DecidableEq, Repr

/-- What is wanted, in words. -/
def Wanted.phrase : Wanted → String
  | keyword word => s!"'{word}'"
  | programName => "program name"
  | semicolonAfterProgramName => "';' after program name"
  | dotAtEnd => "'.' at end of program"
  | endAfterDot => "end of input after '.'"
  | variableName => "variable name"
  | colonAfterVariables => "':' after variable names"
  | semicolonAfterVariables => "';' after variable declaration"
  | procedureName => "procedure name"
  | semicolonAfterProcedureHeading => "';' after procedure heading"
  | semicolonAfterProcedureBody => "';' after procedure body"
  | functionName => "function name"
  | colonBeforeReturnType => "':' before function return type"
  | semicolonAfterFunctionHeading => "';' after function heading"
  | semicolonAfterFunctionBody => "';' after function body"
  | parameterName => "parameter name"
  | colonAfterParameters => "':' after parameter names"
  | parenAfterParameters => "')' after parameters"
  | typeName => "type name"
  | statement => "statement"
  | callOrAssignment name => s!"'(' or ':=' after '{name}'"
  | semicolonAfterStatement => "';' after statement"
  | thenAfterCondition => "'then' after if condition"
  | doAfterCondition => "'do' after while condition"
  | loopVariable => "loop variable after 'for'"
  | assignAfterLoopVariable => "':=' after loop variable"
  | toOrDownto => "'to' or 'downto'"
  | doAfterRange => "'do' after for range"
  | expression => "expression"
  | parenAfterArguments => "')' after arguments"
  | parenAfterExpression => "')' after expression"

/-- **What is wrong with the grammar of a program** at the token where reading
stops. -/
inductive Complaint where
  /-- The grammar wants something else. -/
  | missing (wanted : Wanted)
  /-- Statements, expressions or routines are nested too deeply. -/
  | nestingTooDeep
  /-- A numeric literal has no value. -/
  | literalTooLarge
  /-- A comparison has a comparison as its left operand. -/
  | chainedComparison
  /-- A complaint in words of its own. -/
  | stated (message : String)
  deriving DecidableEq, Repr

/-- The wording of a complaint. -/
def Complaint.message : Complaint → String
  | missing wanted => "Expected " ++ wanted.phrase
  | nestingTooDeep => "Nesting too deep"
  | literalTooLarge => "Integer literal too large"
  | chainedComparison => "Comparison operators cannot be chained"
  | stated message => message

/-- **Why no token can be read.** -/
inductive LexicalCause where
  /-- No token starts with this character. -/
  | unexpected (c : Char)
  /-- A string literal runs to the end of the text. -/
  | unterminated
  /-- A cause in words of its own. -/
  | stated (message : String)
  deriving DecidableEq, Repr

/-- The wording of a lexical cause. -/
def LexicalCause.message : LexicalCause → String
  | unexpected c => "Unexpected character " ++ String.ofList (Text.quoted [c])
  | unterminated => "Unterminated string literal"
  | stated message => message

/-- **What is wrong with a program**, and where. -/
inductive Fault where
  /-- A fault outside the lexical and the grammatical rules. -/
  | general (message : String) (place : Option Span)
  /-- A token does not fit the grammar. -/
  | grammatical (complaint : Complaint) (place : Option Span)
  /-- No token can be read at a position, where `found` stands. -/
  | lexical (cause : LexicalCause) (found : String) (position : Position)
  deriving DecidableEq, Repr

namespace Fault

/-- The wording of a fault, without its place. -/
def message : Fault → String
  | general message _ => message
  | grammatical complaint _ => complaint.message
  | lexical cause _ _ => cause.message

/-- The code of a fault tells its sort. -/
def code : Fault → String
  | general .. => "E000"
  | grammatical .. => "E200"
  | lexical .. => "E100"

/-- Where a fault lies. A lexical fault is one character wide. -/
def place? : Fault → Option Span
  | general _ place | grammatical _ place => place
  | lexical _ _ p => some ⟨p, ⟨p.line, p.column + 1, p.offset + 1⟩⟩

/-- A fault in one line: its wording, and its place unless that is unknown or
zero. -/
def report (fault : Fault) : String :=
  match fault.place? with
  | none => fault.message
  | some place =>
    if place.isZero then fault.message
    else s!"{fault.message} at line {place.start.line}, column {place.start.column}"

end Fault

end PascalFront
