import PascalFront.Text.Quoted
import PascalFront.Tree.Basic
/-!
# Sketches of trees

To be shown, every node of a tree is brought into one form: the name of its
sort, its span, and its parts by name. A sketch is written one part to a line,
with what belongs to a part indented below it; parts that are absent are left
out.
-/

namespace PascalFront

mutual

/-- **A node in the form in which it is shown.** -/
inductive Sketch where
  /-- A node of a sort, with its span and its parts. -/
  | node (sort : String) (span : Span) (parts : List Part)

/-- A part of a node. -/
inductive Part where
  /-- A piece of text. -/
  | text (name value : String)
  /-- A truth value. -/
  | boolean (name : String) (value : Bool)
  /-- A number. -/
  | number (name : String) (value : Number)
  /-- A node that is not there. -/
  | absent (name : String)
  /-- A node. -/
  | child (name : String) (sketch : Sketch)
  /-- Nodes in a row. -/
  | children (name : String) (sketches : List Sketch)

end

namespace Sketch

/-! ## The sketch of a tree -/

/-- The sketch of a name. -/
def ofName (n : Name) : Sketch := node "Identifier" n.span [.text "name" n.text]

mutual

/-- The sketch of an expression. -/
def ofExpr : Expr → Sketch
  | .name n => ofName n
  | .number value span => node "NumericLiteral" span [.number "value" value]
  | .text value span => node "StringLiteral" span [.text "value" value]
  | .boolean value span => node "BooleanLiteral" span [.boolean "value" value]
  | .binary operator left right span =>
    node "BinaryExpression" span
      [.text "operator" operator, .child "left" (ofExpr left), .child "right" (ofExpr right)]
  | .unary operator operand span =>
    node "UnaryExpression" span [.text "operator" operator, .child "argument" (ofExpr operand)]
  | .call callee arguments span =>
    node "CallExpression" span
      [.text "callee" callee, .children "arguments" (ofExprs arguments)]

/-- The sketches of expressions. -/
def ofExprs : List Expr → List Sketch
  | [] => []
  | e :: rest => ofExpr e :: ofExprs rest

end

mutual

/-- The sketch of a statement. -/
def ofStatement : Statement → Sketch
  | .assignment target value span =>
    node "AssignmentStatement" span
      [.child "left" (ofName target), .child "right" (ofExpr value)]
  | .conditional condition thenBranch elseBranch span =>
    node "IfStatement" span
      [.child "condition" (ofExpr condition), .child "then_branch" (ofStatement thenBranch),
        elsePart elseBranch]
  | .repetition condition body span =>
    node "WhileStatement" span
      [.child "condition" (ofExpr condition), .child "body" (ofStatement body)]
  | .counting counter first last body direction span =>
    node "ForStatement" span
      [.child "variable" (ofName counter), .child "start" (ofExpr first),
        .child "end" (ofExpr last), .child "body" (ofStatement body),
        .text "direction" direction.word]
  | .call callee arguments span =>
    node "CallStatement" span
      [.text "name" callee, .children "arguments" (ofExprs arguments)]
  | .compound statements span =>
    node "CompoundStatement" span [.children "statements" (ofStatements statements)]

/-- The part for the branch behind `else`. -/
def elsePart : Option Statement → Part
  | none => .absent "else_branch"
  | some s => .child "else_branch" (ofStatement s)

/-- The sketches of statements. -/
def ofStatements : List Statement → List Sketch
  | [] => []
  | s :: rest => ofStatement s :: ofStatements rest

end

/-- The sketch of a parameter. -/
def ofParameter (p : Parameter) : Sketch :=
  node "Parameter" p.span
    [.text "name" p.name, .text "param_type" p.typeName, .boolean "is_var" p.byReference]

mutual

/-- The sketch of a declaration. -/
def ofDeclaration : Declaration → Sketch
  | .var name typeName span =>
    node "VariableDeclaration" span [.text "name" name, .text "var_type" typeName]
  | .function name parameters returnType body span =>
    node "FunctionDeclaration" span
      [.text "name" name, .children "parameters" (parameters.map ofParameter),
        .text "return_type" returnType, bodyPart body]
  | .procedure name parameters body span =>
    node "ProcedureDeclaration" span
      [.text "name" name, .children "parameters" (parameters.map ofParameter), bodyPart body]

/-- The part for the body of a routine. -/
def bodyPart : Option Block → Part
  | none => .absent "body"
  | some b => .child "body" (ofBlock b)

/-- The sketch of a body. -/
def ofBlock : Block → Sketch
  | .mk statements declarations span =>
    node "Block" span
      [.children "statements" (ofStatements statements),
        .children "declarations" (ofDeclarations declarations)]

/-- The sketches of declarations. -/
def ofDeclarations : List Declaration → List Sketch
  | [] => []
  | d :: rest => ofDeclaration d :: ofDeclarations rest

end

/-- **The sketch of a program.** -/
def ofProgram (p : Program) : Sketch :=
  node "Program" p.span
    [.text "name" p.name, .children "declarations" (ofDeclarations p.declarations),
      .children "statements" (ofStatements p.statements)]

/-! ## Writing a sketch -/

/-- The text of a truth value. -/
def truthText (value : Bool) : String := if value then "True" else "False"

/-- A line at a depth of indentation. -/
def indented (depth : Nat) (line : String) : String :=
  String.ofList (List.replicate (2 * depth) ' ') ++ line

/-- The first line of a node, which tells its span if spans are shown. -/
def title (spans : Bool) (sort : String) (span : Span) : String :=
  if spans then sort ++ " @" ++ span.start.text ++ "-" ++ span.stop.text else sort

mutual

/-- **The lines of a sketch** at a depth of indentation. -/
def lines (spans : Bool) (depth : Nat) : Sketch → List String
  | node sort span parts =>
    indented depth (title spans sort span) :: partsLines spans (depth + 1) parts

/-- The lines of a part. -/
def partLines (spans : Bool) (depth : Nat) : Part → List String
  | .text name value =>
    [indented depth (name ++ ": " ++ Text.quotedString value)]
  | .boolean name value => [indented depth (name ++ ": " ++ truthText value)]
  | .number name value => [indented depth (name ++ ": " ++ value.text)]
  | .absent _ => []
  | .child name sketch => indented depth (name ++ ":") :: lines spans (depth + 1) sketch
  | .children name [] => [indented depth (name ++ ": []")]
  | .children name (sketch :: rest) =>
    indented depth (name ++ ":") ::
      (lines spans (depth + 1) sketch ++ manyLines spans (depth + 1) rest)

/-- The lines of parts one after another. -/
def partsLines (spans : Bool) (depth : Nat) : List Part → List String
  | [] => []
  | part :: rest => partLines spans depth part ++ partsLines spans depth rest

/-- The lines of nodes one after another. -/
def manyLines (spans : Bool) (depth : Nat) : List Sketch → List String
  | [] => []
  | sketch :: rest => lines spans depth sketch ++ manyLines spans depth rest

end

end Sketch

end PascalFront
