import PascalFront.Grammar.Recognizer
import PascalFront.Tree.Basic
/-!
# Recognizing expressions

An expression is an operand followed by operators and further operands. Which
operators it takes depends on a rank: a right operand takes only operators that
bind tighter than the one before it, the operand of a sign takes none. A
comparison is not an operand of a comparison unless it stands in parentheses.

Every expression opens a level of nesting, and these nest only so deep. For the
recursion to end by its form, the recognizers also get the number of `calls`
that may be open in one another; where there are more of them than levels left,
the levels decide alone.
-/

namespace PascalFront.Recognizer

/-- The expressions between the parentheses of a call, behind the opening
one. -/
def arguments (inner : Recognizer Expr) : Recognizer (List Expr) := do
  if ← accept .closeParen then return []
  let items ← separated .comma inner
  let _ ← expect .closeParen (.missing .parenAfterArguments)
  return items

/-- A literal number. -/
def numberLiteral (t : Token) : Recognizer Expr :=
  match Number.ofLiteral? t.value.toList with
  | some value => return .number value t.span
  | none => refuse .literalTooLarge t

/-- A variable or a call of a function, behind its name. -/
def variableOrCall (inner : Recognizer Expr) (t : Token) : Recognizer Expr := do
  if ← accept .openParen then
    let items ← arguments inner
    return .call t.value items (← since t.startPosition)
  else
    return .name ⟨t.value, t.span⟩

/-- An expression in parentheses, behind the opening one. -/
def parenthesized (inner : Recognizer Expr) (t : Token) : Recognizer Expr := do
  let e ← inner
  let _ ← expect .closeParen (.missing .parenAfterExpression)
  return e.withSpan (← since t.startPosition)

/-- A sign and its operand, behind the sign. -/
def signed (inner : Recognizer Expr) (t : Token) : Recognizer Expr := do
  let operand ← inner
  return .unary t.value operand (← since t.startPosition)

/-- **An operand**, where `inner` recognizes the expressions in it that take
operators from some rank on. -/
def operand (inner : Nat → Recognizer Expr) : Recognizer Expr := do
  let t ← peek
  match t.kind with
  | .plus | .minus => do
    let _ ← advance
    signed (inner Kind.signRank) t
  | .number => do
    let _ ← advance
    numberLiteral t
  | .text => do
    let _ ← advance
    return .text t.value t.span
  | .trueLiteral => do
    let _ ← advance
    return .boolean true t.span
  | .falseLiteral => do
    let _ ← advance
    return .boolean false t.span
  | .identifier => do
    let _ ← advance
    variableOrCall (inner 0) t
  | .openParen => do
    let _ ← advance
    parenthesized (inner 0) t
  | _ => reject (.missing .expression)

/-- An operator of rank `least` or tighter and the operand to its right. The
flag tells whether there was a comparison before. -/
def operation (inner : Nat → Recognizer Expr) (least : Nat) (compared : Bool) :
    Recognizer (Option ((String × Expr) × Bool)) := do
  let t ← peek
  match t.kind.rank? with
  | none => return none
  | some rank =>
    if rank < least then return none
    if t.kind.isComparison && compared then
      refuse .chainedComparison t
    let _ ← advance
    let right ← inner (rank + 1)
    return some ((t.value, right), compared || t.kind.isComparison)

/-- An expression, where `inner` recognizes the expressions in it. -/
def expressionBy (inner : Nat → Recognizer Expr) (least : Nat) : Recognizer Expr := do
  let first ← operand inner
  let others ← many (operation inner least) false
  return others.foldl (fun left (operator, right) => left.combine operator right) first

/-- **An expression** that takes operators of rank `least` or tighter, one level
of nesting deeper. -/
def expression : (calls : Nat) → (least : Nat) → Recognizer Expr
  | 0 => fun _ => reject .nestingTooDeep
  | calls + 1 => fun least => nested (expressionBy (expression calls) least)

end PascalFront.Recognizer
