import PascalFront.Proofs.Grammar.Rules
import PascalFront.Proofs.Tree.Node
/-!
# Trees on tokens

Which tokens a node of a tree is made of, said along the tree. An expression has
the parentheses around it; a call or an assignment is without the semicolon
behind it, and so are statements between `begin` and `end`; the other statements
go up to the end of their last branch, with its semicolon; a variable or a
parameter goes from its name, or from the word `var` before its group, to its
type.

The span of each node runs over its tokens (`Span.RunsOver`): it begins where the
first of them begins and ends where the last one ends.
-/

namespace PascalFront

open Grammar

/-- **A span runs over tokens**: from the start of the first to the end of the
last, and it is zero if one of these is missing. It may also be zero if another
token has no position. -/
def Span.RunsOver (span : Span) (tokens : List Token) : Prop :=
  span = spanOver tokens ∨
    span = .zero ∧ ∃ t ∈ tokens, t.startPosition = .zero ∨ t.stopPosition = .zero

/-! ## Rows -/

namespace Standing

variable {α : Type}

/-- Things one behind the other, each on tokens of its own. -/
inductive Row (On : α → List Token → Prop) : List α → List Token → Prop where
  | nil : Row On [] []
  | cons {a : α} {others : List α} {u v : List Token} (first : On a u) (behind : Row On others v) :
      Row On (a :: others) (u ++ v)

/-- Things with a separator between each two. -/
inductive Listed (Separates : Token → Prop) (On : α → List Token → Prop) :
    List α → List Token → Prop where
  | single {a : α} {u : List Token} (first : On a u) : Listed Separates On [a] u
  | cons {a : α} {others : List α} {u v : List Token} {t : Token} (first : On a u)
      (separates : Separates t) (behind : Listed Separates On others v) :
      Listed Separates On (a :: others) (u ++ t :: v)

/-- Lists one behind the other, taken together. -/
inductive Joined (On : List α → List Token → Prop) : List α → List Token → Prop where
  | nil : Joined On [] []
  | cons {first others : List α} {u v : List Token} (here : On first u)
      (behind : Joined On others v) : Joined On (first ++ others) (u ++ v)

/-- What is declared by names with commas between them, from the first name to
the type behind them: each on the tokens from its own name on. -/
inductive Group (type : Token) (On : Token → List Token → α → Prop) :
    List α → List Token → Prop where
  | last {a : α} {name colon : Token} (isName : name.kind = .identifier)
      (isColon : colon.kind = .colon) (on : On name [name, colon, type] a) :
      Group type On [a] [name, colon, type]
  | more {a : α} {others : List α} {u : List Token} {name comma : Token}
      (isName : name.kind = .identifier) (isComma : comma.kind = .comma)
      (on : On name (name :: comma :: u) a) (behind : Group type On others u) :
      Group type On (a :: others) (name :: comma :: u)

/-- The arguments of a call, with the parenthesis behind them. -/
inductive Arguments (On : α → List Token → Prop) : List α → List Token → Prop where
  | none {closing : Token} (isClosing : closing.kind = .closeParen) : Arguments On [] [closing]
  | some {items : List α} {u : List Token} {closing : Token} (onItems : Listed (·.kind = .comma) On items u)
      (isClosing : closing.kind = .closeParen) : Arguments On items (u ++ [closing])

/-- Tokens with parentheses around them, any number of times. -/
inductive Enclosed (core : List Token) : List Token → Prop where
  | bare : Enclosed core core
  | around {u : List Token} {opening closing : Token} (isOpening : opening.kind = .openParen)
      (isClosing : closing.kind = .closeParen) (inside : Enclosed core u) :
      Enclosed core (opening :: (u ++ [closing]))

end Standing

open Standing

/-! ## Expressions -/

mutual

/-- **An expression stands on tokens**, with the parentheses around it. -/
inductive Expr.StandsOn : Expr → List Token → Prop where
  | mk {e : Expr} {core u : List Token} (form : e.Forms core) (enclosed : Enclosed core u)
      (runs : e.span.RunsOver u) : StandsOn e u

/-- The form of an expression without parentheses around it. -/
inductive Expr.Forms : Expr → List Token → Prop where
  | name {n : Name} {t : Token} (isName : t.kind = .identifier) (text : n.text = t.value) :
      Forms (.name n) [t]
  | number {value : Number} {span : Span} {t : Token} (isNumber : t.kind = .number)
      (denotes : Number.ofLiteral? t.value.toList = some value) : Forms (.number value span) [t]
  | text {span : Span} {t : Token} (isText : t.kind = .text) : Forms (.text t.value span) [t]
  | true {span : Span} {t : Token} (isTrue : t.kind = .trueLiteral) : Forms (.boolean true span) [t]
  | false {span : Span} {t : Token} (isFalse : t.kind = .falseLiteral) :
      Forms (.boolean false span) [t]
  | binary {left right : Expr} {span : Span} {u v : List Token} {t : Token}
      (onLeft : left.StandsOn u) (isOperator : t.kind.rank?.isSome) (onRight : right.StandsOn v) :
      Forms (.binary t.value left right span) (u ++ t :: v)
  | unary {operand : Expr} {span : Span} {u : List Token} {t : Token}
      (isSign : t.kind = .plus ∨ t.kind = .minus) (onOperand : operand.StandsOn u) :
      Forms (.unary t.value operand span) (t :: u)
  | call {items : List Expr} {span : Span} {u : List Token} {callee opening : Token}
      (isName : callee.kind = .identifier) (isOpening : opening.kind = .openParen)
      (onItems : Arguments Expr.StandsOn items u) :
      Forms (.call callee.value items span) (callee :: opening :: u)

end

/-! ## Statements -/

/-- Statements that may have a semicolon behind them which is no part of them. -/
def Statement.takesSemicolon : Statement → Bool
  | assignment .. | call .. | compound .. => true
  | _ => false

/-- The word for a direction is of this kind. -/
def Direction.kind : Direction → Kind
  | up => .toKeyword
  | down => .downtoKeyword

mutual

/-- **A statement stands on tokens.** -/
inductive Statement.StandsOn : Statement → List Token → Prop where
  | assignment {target assign : Token} {value : Expr} {span : Span} {u : List Token}
      (isName : target.kind = .identifier) (isAssign : assign.kind = .assign)
      (onValue : value.StandsOn u) (runs : span.RunsOver (target :: assign :: u)) :
      StandsOn (.assignment ⟨target.value, target.span⟩ value span) (target :: assign :: u)
  | call {callee opening : Token} {items : List Expr} {span : Span} {u : List Token}
      (isName : callee.kind = .identifier) (isOpening : opening.kind = .openParen)
      (onItems : Arguments Expr.StandsOn items u) (runs : span.RunsOver (callee :: opening :: u)) :
      StandsOn (.call callee.value items span) (callee :: opening :: u)
  | choice {first then_ : Token} {condition : Expr} {branch : Statement} {span : Span}
      {u v : List Token} (isIf : first.kind = .ifKeyword) (onCondition : condition.StandsOn u)
      (isThen : then_.kind = .thenKeyword) (onBranch : branch.Terminated v)
      (runs : span.RunsOver (first :: (u ++ then_ :: v))) :
      StandsOn (.conditional condition branch none span) (first :: (u ++ then_ :: v))
  | twoChoices {first then_ else_ : Token} {condition : Expr} {branch other : Statement}
      {span : Span} {u v w : List Token} (isIf : first.kind = .ifKeyword)
      (onCondition : condition.StandsOn u) (isThen : then_.kind = .thenKeyword)
      (onBranch : branch.Terminated v) (isElse : else_.kind = .elseKeyword)
      (onOther : other.Terminated w)
      (runs : span.RunsOver (first :: (u ++ then_ :: (v ++ else_ :: w)))) :
      StandsOn (.conditional condition branch (some other) span)
        (first :: (u ++ then_ :: (v ++ else_ :: w)))
  | repetition {first do_ : Token} {condition : Expr} {body : Statement} {span : Span}
      {u v : List Token} (isWhile : first.kind = .whileKeyword) (onCondition : condition.StandsOn u)
      (isDo : do_.kind = .doKeyword) (onBody : body.Terminated v)
      (runs : span.RunsOver (first :: (u ++ do_ :: v))) :
      StandsOn (.repetition condition body span) (first :: (u ++ do_ :: v))
  | counting {first counter assign way do_ : Token} {start stop : Expr} {body : Statement}
      {direction : Direction} {span : Span} {u v w : List Token}
      (isFor : first.kind = .forKeyword) (isName : counter.kind = .identifier)
      (isAssign : assign.kind = .assign) (onStart : start.StandsOn u)
      (isWay : way.kind = direction.kind) (onStop : stop.StandsOn v) (isDo : do_.kind = .doKeyword)
      (onBody : body.Terminated w)
      (runs : span.RunsOver (first :: counter :: assign :: (u ++ way :: (v ++ do_ :: w)))) :
      StandsOn (.counting ⟨counter.value, counter.span⟩ start stop body direction span)
        (first :: counter :: assign :: (u ++ way :: (v ++ do_ :: w)))
  | compound {first last : Token} {items : List Statement} {span : Span} {u : List Token}
      (isBegin : first.kind = .beginKeyword) (onItems : Row Statement.Terminated items u)
      (isEnd : last.kind = .endKeyword) (runs : span.RunsOver (first :: (u ++ [last]))) :
      StandsOn (.compound items span) (first :: (u ++ [last]))

/-- A statement with the semicolon behind it, if there is one. -/
inductive Statement.Terminated : Statement → List Token → Prop where
  | bare {s : Statement} {u : List Token} (on : s.StandsOn u) : Terminated s u
  | semicolon {s : Statement} {u : List Token} {t : Token} (takes : s.takesSemicolon)
      (isSemicolon : t.kind = .semicolon) (on : s.StandsOn u) : Terminated s (u ++ [t])

end

/-! ## Declarations -/

/-- The name of a type. -/
def Token.IsType (t : Token) : Prop := t.kind.isTypeName ∨ t.kind = .identifier

/-- **A parameter stands on tokens**: from its name, or from the word `var`, to its
type. -/
structure Parameter.StandsOn (p : Parameter) (u : List Token) : Prop where
  /-- The tokens begin with the word `var`, or otherwise with the name. -/
  first : ∃ t ∈ u.head?, if p.byReference then t.kind = .varKeyword
    else t.kind = .identifier ∧ t.value = p.name
  /-- The tokens end with the type. -/
  last : ∃ t ∈ u.getLast?, t.IsType ∧ t.value = p.typeName
  /-- The span runs over them. -/
  span : p.span.RunsOver u

/-- Parameters of one type. -/
inductive Standing.Parameters : List Parameter → List Token → Prop where
  | values {formal : List Parameter} {type : Token} {u : List Token} (isType : type.IsType)
      (group : Group type (fun t v p => p.name = t.value ∧ p.byReference = false ∧ p.StandsOn v)
        formal u) : Parameters formal u
  | references {formal : List Parameter} {type first : Token} {u : List Token}
      (isType : type.IsType) (isVar : first.kind = .varKeyword)
      (group : Group type
        (fun t _ p => p.name = t.value ∧ p.byReference = true ∧ p.StandsOn (first :: u)) formal u) :
      Parameters formal (first :: u)

/-- The parameters of a routine with their parentheses, if there are any. -/
inductive Standing.Formal : List Parameter → List Token → Prop where
  | absent : Formal [] []
  | empty {opening closing : Token} (isOpening : opening.kind = .openParen)
      (isClosing : closing.kind = .closeParen) : Formal [] [opening, closing]
  | some {groups : List (List Parameter)} {opening closing : Token} {u : List Token}
      (isOpening : opening.kind = .openParen) (onGroups : Listed (·.kind = .semicolon) Parameters groups u)
      (isClosing : closing.kind = .closeParen) :
      Formal groups.flatten (opening :: (u ++ [closing]))

/-- A variable on the tokens from its name to its type. -/
structure Declaration.IsVariable (name type : Token) (u : List Token) (d : Declaration) : Prop where
  /-- The name and the type are those of the tokens. -/
  form : ∃ span, d = .var name.value type.value span
  /-- The span runs over the tokens. -/
  span : d.span.RunsOver u

/-- Variables of one type, with the semicolon behind them. -/
inductive Standing.Variables : List Declaration → List Token → Prop where
  | mk {ds : List Declaration} {type semicolon : Token} {u : List Token} (isType : type.IsType)
      (group : Group type (fun t v d => d.IsVariable t type v) ds u)
      (isSemicolon : semicolon.kind = .semicolon) : Variables ds (u ++ [semicolon])

/-- Procedures and functions. -/
def Declaration.isRoutine : Declaration → Bool
  | var .. => false
  | function .. | procedure .. => true

/-- A section of variables with the word `var` before them, or a routine. -/
inductive Standing.Section (On : Declaration → List Token → Prop) :
    List Declaration → List Token → Prop where
  | varSection {ds : List Declaration} {first : Token} {u : List Token}
      (isVar : first.kind = .varKeyword) (onGroups : Joined Variables ds u) :
      Section On ds (first :: u)
  | routine {d : Declaration} {u : List Token} (isRoutine : d.isRoutine) (on : On d u) :
      Section On [d] u

mutual

/-- **A declaration stands on tokens.** -/
inductive Declaration.StandsOn : Declaration → List Token → Prop where
  | var {name type : Token} {d : Declaration} {u : List Token} (first : u.head? = some name)
      (last : u.getLast? = some type) (isName : name.kind = .identifier) (isType : type.IsType)
      (variable_ : d.IsVariable name type u) : Declaration.StandsOn d u
  | procedure {first title semicolon last : Token} {formal : List Parameter} {body : Block}
      {span : Span} {u v : List Token} (isProcedure : first.kind = .procedureKeyword)
      (isName : title.kind = .identifier) (onFormal : Formal formal u)
      (isSemicolon : semicolon.kind = .semicolon) (onBody : body.StandsOn v)
      (isLast : last.kind = .semicolon)
      (runs : span.RunsOver (first :: title :: (u ++ semicolon :: (v ++ [last])))) :
      Declaration.StandsOn (.procedure title.value formal (some body) span)
        (first :: title :: (u ++ semicolon :: (v ++ [last])))
  | function {first title colon type semicolon last : Token} {formal : List Parameter}
      {body : Block} {span : Span} {u v : List Token} (isFunction : first.kind = .functionKeyword)
      (isName : title.kind = .identifier) (onFormal : Formal formal u)
      (isColon : colon.kind = .colon) (isType : type.IsType)
      (isSemicolon : semicolon.kind = .semicolon) (onBody : body.StandsOn v)
      (isLast : last.kind = .semicolon)
      (runs : span.RunsOver (first :: title :: (u ++ colon :: type :: semicolon :: (v ++ [last])))) :
      Declaration.StandsOn (.function title.value formal type.value (some body) span)
        (first :: title :: (u ++ colon :: type :: semicolon :: (v ++ [last])))

/-- **The body of a routine stands on tokens.** -/
inductive Block.StandsOn : Block → List Token → Prop where
  | mk {ds : List Declaration} {items : List Statement} {first last : Token} {span : Span}
      {u v : List Token} (onDeclared : Joined (Standing.Section Declaration.StandsOn) ds u)
      (isBegin : first.kind = .beginKeyword) (onItems : Row Statement.Terminated items v)
      (isEnd : last.kind = .endKeyword) (runs : span.RunsOver (u ++ first :: (v ++ [last]))) :
      Block.StandsOn (.mk items ds span) (u ++ first :: (v ++ [last]))

end

/-! ## Programs -/

/-- **A program stands on tokens.** -/
inductive Program.StandsOn : Program → List Token → Prop where
  | mk {ds : List Declaration} {items : List Statement} {head title semicolon first last dot : Token}
      {span : Span} {u v : List Token} (isProgram : head.kind = .programKeyword)
      (isName : title.kind = .identifier) (isSemicolon : semicolon.kind = .semicolon)
      (onDeclared : Joined (Standing.Section Declaration.StandsOn) ds u)
      (isBegin : first.kind = .beginKeyword) (onItems : Row Statement.Terminated items v)
      (isEnd : last.kind = .endKeyword) (isDot : dot.kind = .dot)
      (runs : span.RunsOver
        (head :: title :: semicolon :: (u ++ first :: (v ++ [last, dot])))) :
      StandsOn ⟨title.value, ds, items, span⟩
        (head :: title :: semicolon :: (u ++ first :: (v ++ [last, dot])))

/-- **A node stands on tokens.** -/
def Node.StandsOn : Node → List Token → Prop
  | program p => p.StandsOn
  | declaration d => d.StandsOn
  | parameter p => p.StandsOn
  | block b => b.StandsOn
  | statement s => s.StandsOn
  | expression e => e.StandsOn

end PascalFront
