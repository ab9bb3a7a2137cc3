import PascalFront.Tree.Basic
import PascalFront.Token.Basic
/-!
# The grammar

The grammar of programs as a table of rules, written down without regard to how
programs are recognized. A rule gives the items that a symbol may consist of: an
item is a token of some sort or a symbol again. What the usual notation writes
with braces and brackets is written with symbols of its own: a symbol `repeated`
any number of times, or `separated` by a token.

Expressions have levels. On levels one to three stand the operators between
operands, by how tightly they bind: comparisons, of which there may be one only,
then sums and then products, which group to the left. On the fourth level stand
signs and below them what has no operator outside of parentheses.

A statement that ends with a semicolon may lose it directly before `else`. This
is not a matter of the statement alone, so the rule that leaves the semicolon
out looks at what follows (`Rule.Allowed`).
-/

namespace PascalFront.Grammar

/-- **A sort of tokens.** -/
inductive Terminal where
  /-- The tokens of a kind, which is not that of the end of the input. -/
  | kind (kind : Kind) (notEnd : kind ≠ .endOfInput := by decide)
  /-- A keyword that is also spelled as one, in any letter case. -/
  | word (entry : String × Kind) (listed : entry ∈ Kind.keywords := by decide)
  /-- The names of types. -/
  | typeName
  /-- The operators between operands that bind so tightly. -/
  | operator (rank : Nat) (isRank : 1 ≤ rank ∧ rank ≤ 3)
  /-- The signs. -/
  | sign

/-- Whether a token is of a sort. -/
def Terminal.Fits : Terminal → Token → Prop
  | .kind wanted _, t => t.kind = wanted
  | .word (spelling, wanted) _, t => t.kind = wanted ∧ Kind.lowered t.value.toList = spelling
  | typeName, t => t.kind.isTypeName ∨ t.kind = .identifier
  | operator rank _, t => t.kind.rank? = some rank
  | sign, t => t.kind = .plus ∨ t.kind = .minus

/-- **The symbols of the grammar.** -/
inductive Symbol where
  /-- A symbol with a level of nesting opened around it. -/
  | nested (inner : Symbol)
  /-- A symbol any number of times. -/
  | repeated (item : Symbol)
  /-- A symbol once or more often, with a token between each two. -/
  | separated (separator : Terminal) (item : Symbol)
  /-- A program without the end of the input. -/
  | program
  /-- A section of variables, a procedure or a function. -/
  | declaration
  /-- Variables of one type. -/
  | variableGroup
  /-- A name that is declared. -/
  | name
  /-- The parameters of a routine with their parentheses, if there are any. -/
  | parameters
  /-- Parameters of one type. -/
  | parameterGroup
  /-- Declarations and a block. -/
  | routineBody
  /-- Statements between `begin` and `end`. -/
  | block
  /-- A statement. -/
  | statement
  /-- The semicolon behind a call or an assignment. -/
  | terminator
  /-- A call of a procedure. -/
  | callStatement
  /-- An assignment. -/
  | assignment
  /-- The word `else` and a statement, if there is such a branch. -/
  | alternative
  /-- Which way a counting loop runs. -/
  | direction
  /-- The arguments of a call with the parenthesis behind them. -/
  | arguments
  /-- An expression without parentheses around it whose operators bind at least so
  tightly. -/
  | level (rank : Nat)
  /-- An expression without an operator outside of parentheses. -/
  | primary

/-- What a rule is made of. -/
inductive Item where
  /-- A token of a sort. -/
  | token (sort : Terminal)
  /-- A symbol. -/
  | part (symbol : Symbol)

namespace Symbol

/-- Any expression. -/
abbrev expression : Symbol := nested (level 0)

/-- Statements one behind the other. -/
abbrev statements : Symbol := repeated (nested statement)

/-- The level of the left operand of an operator. Operators group to the left,
but a comparison has no comparison as its operand. -/
def leftRank (rank : Nat) : Nat := if rank = 1 then 2 else rank

/-- The left operand is as tight as the operator. -/
theorem le_leftRank (rank : Nat) : rank ≤ leftRank rank := by
  unfold leftRank
  split <;> omega

/-- The left operand is no tighter than the tightest level. -/
theorem leftRank_le {rank : Nat} (isRank : rank ≤ 4) : leftRank rank ≤ 4 := by
  unfold leftRank
  split <;> omega

/-- The left operand of an operator is no comparison. -/
theorem one_lt_leftRank {rank : Nat} (isOperator : 1 ≤ rank) : 1 < leftRank rank := by
  unfold leftRank
  split <;> omega

/-- **What a symbol denotes.** -/
@[reducible] def Value : Symbol → Type
  | nested inner => inner.Value
  | repeated item | separated _ item => List item.Value
  | program => Program
  | declaration | variableGroup => List Declaration
  | name => Token
  | parameters | parameterGroup => List Parameter
  | routineBody => Block
  | block => List Statement
  | statement | callStatement | assignment => Statement
  | terminator => Unit
  | alternative => Option Statement
  | direction => Direction
  | arguments => List Expr
  | level _ | primary => Expr

end Symbol

/-- What the items of a rule denote, one behind the other. -/
@[reducible] def Values : List Item → Type
  | [] => Unit
  | .token _ :: items => Token × Values items
  | .part symbol :: items => symbol.Value × Values items

open Item Terminal Grammar.Symbol

/-- **The rules of the grammar.** -/
inductive Rule : Symbol → List Item → Type where
  | nested (inner : Symbol) : Rule (.nested inner) [part inner]
  | empty (item : Symbol) : Rule (repeated item) []
  | more (item : Symbol) : Rule (repeated item) [part item, part (repeated item)]
  | single (separator : Terminal) (item : Symbol) : Rule (separated separator item) [part item]
  | further (separator : Terminal) (item : Symbol) :
      Rule (separated separator item)
        [part item, token separator, part (separated separator item)]
  | program : Rule .program [token (word ("program", .programKeyword)), token (kind .identifier),
      token (kind .semicolon), part (repeated declaration), part block, token (kind .dot)]
  | variableSection : Rule declaration
      [token (kind .varKeyword), part variableGroup, part (repeated variableGroup)]
  | procedure : Rule declaration [token (kind .procedureKeyword), token (kind .identifier),
      part parameters, token (kind .semicolon), part (.nested routineBody), token (kind .semicolon)]
  | function : Rule declaration [token (kind .functionKeyword), token (kind .identifier),
      part parameters, token (kind .colon), token typeName, token (kind .semicolon),
      part (.nested routineBody), token (kind .semicolon)]
  | variableGroup : Rule .variableGroup [part (separated (kind .comma) name), token (kind .colon),
      token typeName, token (kind .semicolon)]
  | name : Rule .name [token (kind .identifier)]
  | noParameters : Rule parameters []
  | emptyParameters : Rule parameters [token (kind .openParen), token (kind .closeParen)]
  | someParameters : Rule parameters [token (kind .openParen),
      part (separated (kind .semicolon) parameterGroup), token (kind .closeParen)]
  | valueGroup : Rule parameterGroup
      [part (separated (kind .comma) .name), token (kind .colon), token typeName]
  | referenceGroup : Rule parameterGroup [token (kind .varKeyword),
      part (separated (kind .comma) .name), token (kind .colon), token typeName]
  | routineBody : Rule .routineBody [part (repeated declaration), part block]
  | block : Rule .block [token (word ("begin", .beginKeyword)), part statements,
      token (word ("end", .endKeyword))]
  | callTerminated : Rule statement [part callStatement, part terminator]
  | assignmentTerminated : Rule statement [part assignment, part terminator]
  | conditional : Rule statement [token (kind .ifKeyword), part expression,
      token (kind .thenKeyword), part (.nested statement), part alternative]
  | repetition : Rule statement [token (kind .whileKeyword), part expression,
      token (kind .doKeyword), part (.nested statement)]
  | counting : Rule statement [token (kind .forKeyword), token (kind .identifier),
      token (kind .assign), part expression, part direction, part expression,
      token (kind .doKeyword), part (.nested statement)]
  | compound : Rule statement [token (kind .beginKeyword), part statements,
      token (word ("end", .endKeyword))]
  | compoundTerminated : Rule statement [token (kind .beginKeyword), part statements,
      token (word ("end", .endKeyword)), token (kind .semicolon)]
  | semicolon : Rule terminator [token (kind .semicolon)]
  | omitted : Rule terminator []
  | callStatement : Rule .callStatement
      [token (kind .identifier), token (kind .openParen), part arguments]
  | assignment : Rule .assignment
      [token (kind .identifier), token (kind .assign), part expression]
  | noAlternative : Rule alternative []
  | alternative : Rule .alternative [token (kind .elseKeyword), part (.nested statement)]
  | up : Rule direction [token (kind .toKeyword)]
  | down : Rule direction [token (kind .downtoKeyword)]
  | noArguments : Rule arguments [token (kind .closeParen)]
  | someArguments : Rule arguments
      [part (separated (kind .comma) expression), token (kind .closeParen)]
  | tighter {rank : Nat} (isRank : rank < 4) : Rule (level rank) [part (level (rank + 1))]
  | operation {rank : Nat} (isRank : 1 ≤ rank ∧ rank ≤ 3) : Rule (level rank)
      [part (level (leftRank rank)), token (operator rank isRank),
        part (.nested (level (rank + 1)))]
  | signed {rank : Nat} (isRank : 4 ≤ rank) : Rule (level rank)
      [token sign, part (.nested (level Kind.signRank))]
  | primary {rank : Nat} (isRank : 4 ≤ rank) : Rule (level rank) [part .primary]
  | number : Rule .primary [token (kind .number)]
  | text : Rule .primary [token (kind .text)]
  | trueLiteral : Rule .primary [token (kind .trueLiteral)]
  | falseLiteral : Rule .primary [token (kind .falseLiteral)]
  | variableName : Rule .primary [token (kind .identifier)]
  | call : Rule .primary [token (kind .identifier), token (kind .openParen), part arguments]
  | parenthesized : Rule .primary
      [token (kind .openParen), part expression, token (kind .closeParen)]

/-- The span of a row of tokens. -/
def spanOver (tokens : List Token) : Span :=
  .between ((tokens.head?.map Token.startPosition).getD .zero)
    ((tokens.getLast?.map Token.stopPosition).getD .zero)

/-- **What a symbol denotes**, given the rule for it, what the items of the rule
denote, and the tokens it is made of. Only a number may denote nothing. -/
def Rule.denote : {symbol : Symbol} → {items : List Item} → Rule symbol items → Values items →
    List Token → Option symbol.Value
  | _, _, .nested _, (a, ()), _ => some a
  | _, _, empty _, (), _ => some []
  | _, _, more _, (a, others, ()), _ => some (a :: others)
  | _, _, single _ _, (a, ()), _ => some [a]
  | _, _, further _ _, (a, _, others, ()), _ => some (a :: others)
  | _, _, .program, (_, title, _, declared, body, _, ()), tokens =>
    some ⟨title.value, declared.flatten, body, spanOver tokens⟩
  | _, _, .variableSection, (_, group, groups, ()), _ => some (group ++ groups.flatten)
  | _, _, procedure, (_, title, formal, _, body, _, ()), tokens =>
    some [.procedure title.value formal (some body) (spanOver tokens)]
  | _, _, function, (_, title, formal, _, type, _, body, _, ()), tokens =>
    some [.function title.value formal type.value (some body) (spanOver tokens)]
  | _, _, .variableGroup, (names, _, type, _, ()), _ =>
    some (names.map fun t =>
      .var t.value type.value (.between t.startPosition type.stopPosition))
  | _, _, .name, (t, ()), _ => some t
  | _, _, noParameters, (), _ => some []
  | _, _, emptyParameters, _, _ => some []
  | _, _, someParameters, (_, groups, _, ()), _ => some groups.flatten
  | _, _, valueGroup, (names, _, type, ()), _ =>
    some (names.map fun t =>
      ⟨t.value, type.value, false, .between t.startPosition type.stopPosition⟩)
  | _, _, referenceGroup, (start, names, _, type, ()), _ =>
    some (names.map fun t =>
      ⟨t.value, type.value, true, .between start.startPosition type.stopPosition⟩)
  | _, _, .routineBody, (declared, body, ()), tokens =>
    some (.mk body declared.flatten (spanOver tokens))
  | _, _, .block, (_, items, _, ()), _ => some items
  | _, _, callTerminated, (s, _, ()), _ => some s
  | _, _, assignmentTerminated, (s, _, ()), _ => some s
  | _, _, conditional, (_, condition, _, thenBranch, elseBranch, ()), tokens =>
    some (.conditional condition thenBranch elseBranch (spanOver tokens))
  | _, _, repetition, (_, condition, _, body, ()), tokens =>
    some (.repetition condition body (spanOver tokens))
  | _, _, counting, (_, counter, _, first, way, last, _, body, ()), tokens =>
    some (.counting ⟨counter.value, counter.span⟩ first last body way (spanOver tokens))
  | _, _, compound, (start, items, stop, ()), _ =>
    some (.compound items (.between start.startPosition stop.stopPosition))
  | _, _, compoundTerminated, (start, items, stop, _, ()), _ =>
    some (.compound items (.between start.startPosition stop.stopPosition))
  | _, _, semicolon, _, _ => some ()
  | _, _, omitted, _, _ => some ()
  | _, _, .callStatement, (title, _, items, ()), tokens =>
    some (.call title.value items (spanOver tokens))
  | _, _, .assignment, (target, _, e, ()), tokens =>
    some (.assignment ⟨target.value, target.span⟩ e (spanOver tokens))
  | _, _, noAlternative, _, _ => some none
  | _, _, .alternative, (_, s, ()), _ => some (some s)
  | _, _, up, _, _ => some .up
  | _, _, down, _, _ => some .down
  | _, _, noArguments, _, _ => some []
  | _, _, someArguments, (items, _, ()), _ => some items
  | _, _, tighter _, (e, ()), _ => some e
  | _, _, operation _, (left, t, right, ()), _ =>
    some (.binary t.value left right (.between left.span.start right.span.stop))
  | _, _, signed _, (t, operand, ()), tokens => some (.unary t.value operand (spanOver tokens))
  | _, _, .primary _, (e, ()), _ => some e
  | _, _, number, (t, ()), _ =>
    (Number.ofLiteral? t.value.toList).map fun value => .number value t.span
  | _, _, text, (t, ()), _ => some (.text t.value t.span)
  | _, _, trueLiteral, (t, ()), _ => some (.boolean true t.span)
  | _, _, falseLiteral, (t, ()), _ => some (.boolean false t.span)
  | _, _, variableName, (t, ()), _ => some (.name ⟨t.value, t.span⟩)
  | _, _, call, (t, _, items, ()), tokens => some (.call t.value items (spanOver tokens))
  | _, _, parenthesized, (_, e, _, ()), tokens => some (e.withSpan (spanOver tokens))

/-- **Where a rule may be used**, by the token behind it: the semicolon of a
statement may be left out directly before `else`. -/
def Rule.Allowed {symbol : Symbol} {items : List Item} (rule : Rule symbol items)
    (next : Option Token) : Prop :=
  match rule with
  | omitted => ∃ t ∈ next, t.kind = .elseKeyword
  | _ => True

/-- **Which choice an `else` belongs to**, by the token behind a choice: one
without an `else` is not followed by one. -/
def Rule.Nearest {symbol : Symbol} {items : List Item} (rule : Rule symbol items)
    (next : Option Token) : Prop :=
  match rule with
  | noAlternative => ∀ t ∈ next, t.kind ≠ .elseKeyword
  | _ => True

end PascalFront.Grammar
