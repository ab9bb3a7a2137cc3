import PascalFront.Tree.Basic
/-!
# The nodes of a tree

A tree is made of nodes of several types. What is said of all of them is said of
`Node`: each has a span, and each has children. The children are in two rows.
What is declared at a node may share its text with others, as the names of one
list share their type; the other children, the parts of a node, stand in the text
one behind the other.
-/

namespace PascalFront

/-- **A node of a tree.** A name in the place of a variable is a node as an
expression is. -/
inductive Node where
  | program (program : Program)
  | declaration (declaration : Declaration)
  | parameter (parameter : Parameter)
  | block (block : Block)
  | statement (statement : Statement)
  | expression (expression : Expr)

namespace Node

/-- Where a node stands. -/
def span : Node → Span
  | program p => p.span
  | declaration d => d.span
  | parameter p => p.span
  | block b => b.span
  | statement s => s.span
  | expression e => e.span

/-- The declarations or parameters at a node. -/
@[simp] def declared : Node → List Node
  | program p => p.declarations.map declaration
  | declaration (.function _ formal _ _ _) => formal.map parameter
  | declaration (.procedure _ formal _ _) => formal.map parameter
  | block b => b.declarations.map declaration
  | _ => []

/-- The statements and expressions at a node, or the body of a routine, in source
order. -/
@[simp] def parts : Node → List Node
  | program p => p.statements.map statement
  | declaration (.function _ _ _ body _) => body.toList.map block
  | declaration (.procedure _ _ body _) => body.toList.map block
  | block b => b.statements.map statement
  | statement (.assignment target value _) => [expression (.name target), expression value]
  | statement (.conditional condition thenBranch elseBranch _) =>
    expression condition :: statement thenBranch :: elseBranch.toList.map statement
  | statement (.repetition condition body _) => [expression condition, statement body]
  | statement (.counting counter first last body _ _) =>
    [expression (.name counter), expression first, expression last, statement body]
  | statement (.call _ arguments _) => arguments.map expression
  | statement (.compound statements _) => statements.map statement
  | expression (.binary _ left right _) => [expression left, expression right]
  | expression (.unary _ operand _) => [expression operand]
  | expression (.call _ arguments _) => arguments.map expression
  | _ => []

/-- The children of a node. -/
def children (n : Node) : List Node := n.declared ++ n.parts

/-- **A node is in a tree**: it is the root, or a child of a node in the tree. -/
inductive IsIn (root : Node) : Node → Prop where
  | root : IsIn root root
  | child {n c : Node} (inside : IsIn root n) (listed : c ∈ n.children) : IsIn root c

/-- What is in the tree of a child is in the tree. -/
theorem IsIn.of_child {n c n' : Node} (h : IsIn c n') (listed : c ∈ n.children) : IsIn n n' := by
  induction h with
  | root => exact .child .root listed
  | child _ listed' ih => exact .child ih listed'

/-- What is in a tree is its root or in the tree of a child. -/
theorem IsIn.eq_or_child {root n : Node} (h : IsIn root n) :
    n = root ∨ ∃ c ∈ root.children, IsIn c n := by
  induction h with
  | root => exact .inl rfl
  | child _ listed ih =>
    rcases ih with rfl | ⟨c, front, inside⟩
    · exact .inr ⟨_, listed, .root⟩
    · exact .inr ⟨c, front, inside.child listed⟩

/-- Another span for an expression leaves its parts. -/
@[simp] theorem children_withSpan (e : Expr) (span : Span) :
    (expression (e.withSpan span)).children = (expression e).children := by
  cases e <;> rfl

end Node

end PascalFront
