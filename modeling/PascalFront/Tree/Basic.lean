import PascalFront.Numeral.Literal
import PascalFront.Position
/-!
# Syntax trees

The tree of a program holds its declarations and statements in source order.
Operators, type names and names of routines are kept as they are written; every
node knows its span. Parentheses leave no node of their own: they widen the span
of the expression they enclose.
-/

namespace PascalFront

/-- A name that is used as a variable. -/
structure Name where
  /-- The name as written. -/
  text : String
  /-- Where it stands. -/
  span : Span
  deriving DecidableEq, Repr

/-- **Expressions.** -/
inductive Expr where
  /-- A variable. -/
  | name (name : Name)
  /-- A number. -/
  | number (value : Number) (span : Span)
  /-- A string. -/
  | text (value : String) (span : Span)
  /-- A truth value. -/
  | boolean (value : Bool) (span : Span)
  /-- An operator between two operands. -/
  | binary (operator : String) (left right : Expr) (span : Span)
  /-- A sign before its operand. -/
  | unary (operator : String) (operand : Expr) (span : Span)
  /-- A call of a function. -/
  | call (callee : String) (arguments : List Expr) (span : Span)

namespace Expr

/-- Where an expression stands, parentheses around it included. -/
def span : Expr → Span
  | name n => n.span
  | number _ span | text _ span | boolean _ span | binary _ _ _ span | unary _ _ span
  | call _ _ span => span

/-- The expression with another span. -/
def withSpan (span : Span) : Expr → Expr
  | name n => name { n with span }
  | number value _ => number value span
  | text value _ => text value span
  | boolean value _ => boolean value span
  | binary operator left right _ => binary operator left right span
  | unary operator operand _ => unary operator operand span
  | call callee arguments _ => call callee arguments span

@[simp] theorem span_withSpan (span : Span) (e : Expr) : (e.withSpan span).span = span := by
  cases e <;> rfl

/-- Two operands and the operator between them. -/
def combine (left : Expr) (operator : String) (right : Expr) : Expr :=
  binary operator left right (.between left.span.start right.span.stop)

end Expr

/-- Which way the variable of a counting loop runs. -/
inductive Direction where
  | up | down
  deriving DecidableEq, Repr

/-- The word for a direction. -/
def Direction.word : Direction → String
  | up => "to"
  | down => "downto"

/-- **Statements.** -/
inductive Statement where
  /-- A variable gets a value. -/
  | assignment (target : Name) (value : Expr) (span : Span)
  /-- A choice between one or two branches. -/
  | conditional (condition : Expr) (thenBranch : Statement) (elseBranch : Option Statement)
      (span : Span)
  /-- A loop under a condition. -/
  | repetition (condition : Expr) (body : Statement) (span : Span)
  /-- A loop that counts. -/
  | counting (counter : Name) (first last : Expr) (body : Statement) (direction : Direction)
      (span : Span)
  /-- A call of a procedure. -/
  | call (callee : String) (arguments : List Expr) (span : Span)
  /-- Statements taken together. -/
  | compound (statements : List Statement) (span : Span)

/-- Where a statement stands. -/
def Statement.span : Statement → Span
  | assignment _ _ span | conditional _ _ _ span | repetition _ _ span | counting _ _ _ _ _ span
  | call _ _ span | compound _ span => span

/-- A parameter of a routine. -/
structure Parameter where
  /-- The name. -/
  name : String
  /-- The name of the type. -/
  typeName : String
  /-- Whether the routine gets the variable itself and not its value. -/
  byReference : Bool
  /-- From the name, or from the word `var` before its group, to the type. -/
  span : Span
  deriving DecidableEq, Repr

mutual

/-- **Declarations.** A routine that is only announced has no body. -/
inductive Declaration where
  /-- A variable. -/
  | var (name typeName : String) (span : Span)
  /-- A function. -/
  | function (name : String) (parameters : List Parameter) (returnType : String)
      (body : Option Block) (span : Span)
  /-- A procedure. -/
  | procedure (name : String) (parameters : List Parameter) (body : Option Block) (span : Span)

/-- The body of a routine. -/
inductive Block where
  /-- Statements with the declarations before them. -/
  | mk (statements : List Statement) (declarations : List Declaration) (span : Span)

end

namespace Block

/-- The statements of a body. -/
def statements : Block → List Statement
  | mk statements _ _ => statements

/-- The declarations of a body. -/
def declarations : Block → List Declaration
  | mk _ declarations _ => declarations

/-- Where a body stands. -/
def span : Block → Span
  | mk _ _ span => span

end Block

/-- Where a declaration stands. -/
def Declaration.span : Declaration → Span
  | var _ _ span | function _ _ _ _ span | procedure _ _ _ span => span

/-- **Programs.** -/
structure Program where
  /-- The name. -/
  name : String
  /-- The declarations. -/
  declarations : List Declaration
  /-- The statements. -/
  statements : List Statement
  /-- Where the program stands. -/
  span : Span

end PascalFront
