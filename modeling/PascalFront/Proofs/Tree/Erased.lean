import PascalFront.Tree.Basic
/-!
# Trees without spans

What is left of an expression when all its spans are erased is its structure. Two
expressions with the same structure differ at most in where they stand.
-/

namespace PascalFront.Expr

mutual

/-- **An expression without its spans.** -/
def erased : Expr → Expr
  | name n => name ⟨n.text, .zero⟩
  | number value _ => number value .zero
  | text value _ => text value .zero
  | boolean value _ => boolean value .zero
  | binary operator left right _ => binary operator left.erased right.erased .zero
  | unary operator operand _ => unary operator operand.erased .zero
  | call callee arguments _ => call callee (erasedAll arguments) .zero

/-- Expressions without their spans. -/
def erasedAll : List Expr → List Expr
  | [] => []
  | e :: rest => e.erased :: erasedAll rest

end

end PascalFront.Expr
