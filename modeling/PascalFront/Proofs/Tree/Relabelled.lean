import PascalFront.Proofs.Tree.Erased
import PascalFront.Token.Basic
/-!
# Trees with other labels

Two trees may be put together alike and differ in what their nodes carry. A relabelling
gives every node another span, every type another name and every string literal another
text, and leaves the rest as it is. So trees that become equal under a relabelling differ
at most in what it makes equal: in their spans if it gives all nodes the same one, or in
the letter case of their types.
-/

namespace PascalFront

/-- **Other labels for the nodes of a tree.** -/
structure Relabelling where
  /-- The span in the place of a span. -/
  span : Span → Span := id
  /-- The name in the place of the name of a type. -/
  typeName : String → String := id
  /-- The text in the place of that of a string literal. -/
  text : String → String := id

namespace Relabelling

/-- No node has a span. -/
def unplaced : Relabelling := { span := fun _ => .zero }

@[simp] theorem span_unplaced (span : Span) : unplaced.span span = .zero := rfl

@[simp] theorem typeName_unplaced (name : String) : unplaced.typeName name = name := rfl

@[simp] theorem text_unplaced (text : String) : unplaced.text text = text := rfl

/-- The names of types are in lower case. -/
def lowercaseTypes : Relabelling := { typeName := fun name => Kind.lowered name.toList }

/-- No node has a span, and string literals are empty. -/
def textless : Relabelling := { span := fun _ => .zero, text := fun _ => "" }

end Relabelling

variable (f : Relabelling)

/-- A name with other labels. -/
def Name.relabelled (n : Name) : Name := ⟨n.text, f.span n.span⟩

namespace Expr

mutual

/-- **An expression with other labels.** -/
def relabelled : Expr → Expr
  | name n => name (n.relabelled f)
  | number value span => number value (f.span span)
  | text value span => text (f.text value) (f.span span)
  | boolean value span => boolean value (f.span span)
  | binary operator left right span =>
    binary operator left.relabelled right.relabelled (f.span span)
  | unary operator operand span => unary operator operand.relabelled (f.span span)
  | call callee arguments span => call callee (relabelledAll arguments) (f.span span)

/-- Expressions with other labels. -/
def relabelledAll : List Expr → List Expr
  | [] => []
  | e :: rest => e.relabelled :: relabelledAll rest

end

/-- The expressions are relabelled one by one. -/
@[simp] theorem relabelledAll_eq_map (items : List Expr) :
    relabelledAll f items = items.map (relabelled f) := by
  induction items with
  | nil => rfl
  | cons e rest ih => rw [relabelledAll, ih, List.map_cons]

/-- The span of an expression is relabelled with it. -/
theorem span_relabelled (e : Expr) : (e.relabelled f).span = f.span e.span := by
  cases e <;> rfl

/-- An expression that gets another span is relabelled with that. -/
theorem relabelled_withSpan (e : Expr) (span : Span) :
    (e.withSpan span).relabelled f = (e.relabelled f).withSpan (f.span span) := by
  cases e <;> rfl

mutual

/-- An expression without its spans is one with other labels. -/
theorem relabelled_unplaced (e : Expr) : e.relabelled .unplaced = e.erased := by
  cases e with
  | name n => rfl
  | number | text | boolean => simp only [relabelled, erased, Relabelling.unplaced, id]
  | binary operator left right span =>
    rw [relabelled, erased, relabelled_unplaced left, relabelled_unplaced right]
    rfl
  | unary operator operand span =>
    rw [relabelled, erased, relabelled_unplaced operand]
    rfl
  | call callee items span =>
    rw [relabelled, erased, relabelledAll_unplaced items]
    rfl

/-- Expressions without their spans are such with other labels. -/
theorem relabelledAll_unplaced (items : List Expr) :
    relabelledAll .unplaced items = erasedAll items := by
  cases items with
  | nil => rfl
  | cons e rest =>
    rw [relabelledAll, erasedAll, relabelled_unplaced e, relabelledAll_unplaced rest]

end

end Expr

namespace Statement

mutual

/-- **A statement with other labels.** -/
def relabelled : Statement → Statement
  | assignment target value span =>
    assignment (target.relabelled f) (value.relabelled f) (f.span span)
  | conditional condition thenBranch none span =>
    conditional (condition.relabelled f) thenBranch.relabelled none (f.span span)
  | conditional condition thenBranch (some elseBranch) span =>
    conditional (condition.relabelled f) thenBranch.relabelled (some elseBranch.relabelled)
      (f.span span)
  | repetition condition body span =>
    repetition (condition.relabelled f) body.relabelled (f.span span)
  | counting counter first last body direction span =>
    counting (counter.relabelled f) (first.relabelled f) (last.relabelled f) body.relabelled
      direction (f.span span)
  | call callee arguments span => call callee (arguments.map (Expr.relabelled f)) (f.span span)
  | compound statements span => compound (relabelledAll statements) (f.span span)

/-- Statements with other labels. -/
def relabelledAll : List Statement → List Statement
  | [] => []
  | s :: rest => s.relabelled :: relabelledAll rest

end

/-- The statements are relabelled one by one. -/
@[simp] theorem relabelledAll_eq_map (items : List Statement) :
    relabelledAll f items = items.map (relabelled f) := by
  induction items with
  | nil => rfl
  | cons s rest ih => rw [relabelledAll, ih, List.map_cons]

/-- The branch behind `else` is relabelled if there is one. -/
theorem relabelled_conditional (condition : Expr) (thenBranch : Statement)
    (elseBranch : Option Statement) (span : Span) :
    (conditional condition thenBranch elseBranch span).relabelled f =
      conditional (condition.relabelled f) (thenBranch.relabelled f)
        (elseBranch.map (relabelled f)) (f.span span) := by
  cases elseBranch <;> rw [relabelled] <;> rfl

end Statement

/-- A parameter with other labels. -/
def Parameter.relabelled (p : Parameter) : Parameter :=
  { p with typeName := f.typeName p.typeName, span := f.span p.span }

mutual

/-- **A declaration with other labels.** -/
def Declaration.relabelled : Declaration → Declaration
  | .var name typeName span => .var name (f.typeName typeName) (f.span span)
  | .function name formal returnType body span =>
    .function name (formal.map (Parameter.relabelled f)) (f.typeName returnType)
      (Block.relabelledOption body) (f.span span)
  | .procedure name formal body span =>
    .procedure name (formal.map (Parameter.relabelled f)) (Block.relabelledOption body)
      (f.span span)

/-- The body of a routine with other labels, if there is one. -/
def Block.relabelledOption : Option Block → Option Block
  | none => none
  | some (.mk statements declarations span) =>
    some (.mk (statements.map (Statement.relabelled f)) (Declaration.relabelledAll declarations)
      (f.span span))

/-- Declarations with other labels. -/
def Declaration.relabelledAll : List Declaration → List Declaration
  | [] => []
  | d :: rest => d.relabelled :: Declaration.relabelledAll rest

end

/-- The declarations are relabelled one by one. -/
@[simp] theorem Declaration.relabelledAll_eq_map (ds : List Declaration) :
    relabelledAll f ds = ds.map (relabelled f) := by
  induction ds with
  | nil => rfl
  | cons d rest ih => rw [relabelledAll, ih, List.map_cons]

/-- The body of a routine with other labels. -/
def Block.relabelled (b : Block) : Block :=
  .mk (b.statements.map (Statement.relabelled f)) (b.declarations.map (Declaration.relabelled f))
    (f.span b.span)

/-- A body that is there is relabelled. -/
@[simp] theorem Block.relabelledOption_some (b : Block) :
    relabelledOption f (some b) = some (b.relabelled f) := by
  cases b
  rw [relabelledOption, Declaration.relabelledAll_eq_map]
  rfl

/-- **A program with other labels.** -/
def Program.relabelled (p : Program) : Program where
  name := p.name
  declarations := p.declarations.map (Declaration.relabelled f)
  statements := p.statements.map (Statement.relabelled f)
  span := f.span p.span

end PascalFront
