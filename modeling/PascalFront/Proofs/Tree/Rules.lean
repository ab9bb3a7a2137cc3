import PascalFront.Proofs.Grammar.Derivation
import PascalFront.Proofs.Tree.StandsOn
/-!
# What is derived stands on its tokens

A derivation denotes a tree that stands on the tokens of the derivation. For each
symbol of the grammar `Symbol.StandsOn` says what it means that something it
denotes stands on tokens; each rule keeps this (`Rule.standsOn`), so by induction
every forest does (`Forest.standsOn`).
-/

namespace PascalFront

open Grammar Standing

/-! ## Spans -/

namespace Span

variable {span : Span} {u v : List Token} {first last t : Token}

/-- The span over tokens from the first to the last of them. -/
theorem spanOver_eq (front : u.head? = some first) (back : u.getLast? = some last) :
    spanOver u = .between first.startPosition last.stopPosition := by
  rw [spanOver, front, back]
  rfl

/-- The span of tokens runs over them. -/
theorem runsOver_spanOver (u : List Token) : (spanOver u).RunsOver u := .inl rfl

/-- The span between two tokens runs over them and all between them. -/
theorem runsOver_between (first last : Token) (u : List Token) :
    (Span.between first.startPosition last.stopPosition).RunsOver (first :: (u ++ [last])) :=
  .inl (spanOver_eq rfl (by rw [← List.cons_append, List.getLast?_concat])).symm

/-- **A span over tokens** has the ends of the first and the last of them, or it is
zero and one of the tokens has no position. -/
theorem RunsOver.ends (h : span.RunsOver u) (front : u.head? = some first)
    (back : u.getLast? = some last) :
    (span = ⟨first.startPosition, last.stopPosition⟩ ∧ first.startPosition ≠ .zero ∧
      last.stopPosition ≠ .zero) ∨
    span = .zero ∧ ∃ t ∈ u, t.startPosition = .zero ∨ t.stopPosition = .zero := by
  rcases h with rfl | zero
  · rw [spanOver_eq front back, between]
    by_cases missing : first.startPosition = .zero ∨ last.stopPosition = .zero
    · rw [if_pos missing]
      rcases missing with missing | missing
      · exact .inr ⟨rfl, first, List.mem_of_head? front, .inl missing⟩
      · exact .inr ⟨rfl, last, List.mem_of_getLast? back, .inr missing⟩
    · rw [if_neg missing]
      exact .inl ⟨rfl, not_or.1 missing⟩
  · exact .inr zero

/-- **Two spans taken together** run over the tokens of both and all between
them. -/
theorem RunsOver.between {left right : Span} (onLeft : left.RunsOver u) (onRight : right.RunsOver v)
    (leftSome : u ≠ []) (rightSome : v ≠ []) :
    (Span.between left.start right.stop).RunsOver (u ++ t :: v) := by
  obtain ⟨first, more, rfl⟩ := List.exists_cons_of_ne_nil leftSome
  have back := List.getLast?_eq_some_getLast leftSome
  have front := List.head?_eq_some_head rightSome
  have back' := List.getLast?_eq_some_getLast rightSome
  rcases onLeft.ends rfl back with ⟨rfl, -, -⟩ | ⟨rfl, t', listed, missing⟩
  · rcases onRight.ends front back' with ⟨rfl, -, -⟩ | ⟨rfl, t', listed, missing⟩
    · refine .inl (spanOver_eq rfl ?_).symm
      rw [List.getLast?_append, List.getLast?_cons, back']
      rfl
    · refine .inr ⟨if_pos (.inr rfl), t', ?_, missing⟩
      exact List.mem_append_right _ (List.mem_cons_of_mem _ listed)
  · exact .inr ⟨if_pos (.inl rfl), t', List.mem_append_left _ listed, missing⟩

end Span

/-! ## Expressions on tokens -/

namespace Expr

variable {e : Expr} {core u v : List Token} {t opening closing : Token}

/-- What has a form is not empty. -/
theorem Forms.ne_nil (h : e.Forms core) : core ≠ [] := by
  cases h <;> simp

/-- The form of an expression has nothing to do with its span. -/
theorem Forms.withSpan (h : e.Forms core) (span : Span) : (e.withSpan span).Forms core := by
  cases h with
  | name isName text => exact .name isName text
  | number isNumber denotes => exact .number isNumber denotes
  | text isText => exact .text isText
  | true isTrue => exact .true isTrue
  | false isFalse => exact .false isFalse
  | binary onLeft isOperator onRight => exact .binary onLeft isOperator onRight
  | unary isSign onOperand => exact .unary isSign onOperand
  | call isName isOpening onItems => exact .call isName isOpening onItems

/-- An expression without parentheses around it. -/
theorem Forms.standsOn (form : e.Forms u) (runs : e.span.RunsOver u) : e.StandsOn u :=
  .mk form .bare runs

/-- The span of an expression runs over its tokens. -/
theorem StandsOn.runs (h : e.StandsOn u) : e.span.RunsOver u := by
  cases h with
  | mk _ _ runs => exact runs

/-- An expression stands on some token. -/
theorem StandsOn.ne_nil (h : e.StandsOn u) : u ≠ [] := by
  cases h with
  | mk form enclosed _ =>
    cases enclosed with
    | bare => exact form.ne_nil
    | around => exact List.cons_ne_nil _ _

/-- Parentheses around an expression widen its span. -/
theorem StandsOn.parenthesized (h : e.StandsOn u) (isOpening : opening.kind = .openParen)
    (isClosing : closing.kind = .closeParen) :
    (e.withSpan (spanOver (opening :: (u ++ [closing])))).StandsOn (opening :: (u ++ [closing])) := by
  cases h with
  | mk form enclosed _ =>
    refine .mk (form.withSpan _) (.around isOpening isClosing enclosed) ?_
    rw [span_withSpan]
    exact Span.runsOver_spanOver _

/-- Two operands and the operator between them. -/
theorem StandsOn.combine {left right : Expr} (onLeft : left.StandsOn u) (onRight : right.StandsOn v)
    (isOperator : t.kind.rank?.isSome) :
    (left.combine t.value right).StandsOn (u ++ t :: v) :=
  .mk (.binary onLeft isOperator onRight) .bare
    (onLeft.runs.between onRight.runs onLeft.ne_nil onRight.ne_nil)

end Expr

/-! ## Symbols on tokens -/

namespace Grammar

/-- **What a symbol denotes stands on tokens.** -/
def Symbol.StandsOn : (symbol : Symbol) → symbol.Value → List Token → Prop
  | nested inner, a, u => inner.StandsOn a u
  | repeated item, items, u => Row item.StandsOn items u
  | separated separator item, items, u => Listed separator.Fits item.StandsOn items u
  | program, p, u => p.StandsOn u
  | declaration, ds, u => Standing.Section Declaration.StandsOn ds u
  | variableGroup, ds, u => Variables ds u
  | name, t, u => t.kind = .identifier ∧ u = [t]
  | parameters, formal, u => Formal formal u
  | parameterGroup, formal, u => Parameters formal u
  | routineBody, b, u => b.StandsOn u
  | block, items, u => ∃ first v last, u = first :: (v ++ [last]) ∧ first.kind = .beginKeyword ∧
      Row Statement.Terminated items v ∧ last.kind = .endKeyword
  | statement, s, u => s.Terminated u
  | terminator, (), u => u = [] ∨ ∃ t, u = [t] ∧ t.kind = .semicolon
  | callStatement, s, u => s.takesSemicolon ∧ s.StandsOn u
  | assignment, s, u => s.takesSemicolon ∧ s.StandsOn u
  | alternative, none, u => u = []
  | alternative, some s, u => ∃ t v, u = t :: v ∧ t.kind = .elseKeyword ∧ s.Terminated v
  | direction, way, u => ∃ t, u = [t] ∧ t.kind = way.kind
  | arguments, items, u => Arguments Expr.StandsOn items u
  | level _, e, u => e.StandsOn u
  | primary, e, u => e.StandsOn u

/-- What a row of items denotes stands on tokens, item by item. -/
def ValuesStandOn : (items : List Item) → Values items → List Token → Prop
  | [], (), u => u = []
  | .token sort :: rest, (t, values), u => ∃ v, u = t :: v ∧ sort.Fits t ∧ ValuesStandOn rest values v
  | .part symbol :: rest, (a, values), u =>
    ∃ v w, u = v ++ w ∧ symbol.StandsOn a v ∧ ValuesStandOn rest values w

variable {items : List Item} {u : List Token} {rank : Nat}

/-- The rules for expressions without an operator outside of parentheses. -/
theorem Rule.standsOn_primary (rule : Rule .primary items) {values : Values items} {e : Expr}
    (on : ValuesStandOn items values u) (denotes : rule.denote values u = some e) : e.StandsOn u := by
  cases rule with
  | number =>
    obtain ⟨t, ⟨⟩⟩ := values
    obtain ⟨_, rfl, isNumber, rfl⟩ := on
    obtain ⟨value, found, rfl⟩ := Option.map_eq_some_iff.1 denotes
    exact Expr.Forms.standsOn (.number isNumber found) (Span.runsOver_spanOver [t])
  | text =>
    obtain ⟨t, ⟨⟩⟩ := values
    obtain ⟨_, rfl, isText, rfl⟩ := on
    obtain rfl := Option.some.inj denotes
    exact Expr.Forms.standsOn (.text isText) (Span.runsOver_spanOver [t])
  | trueLiteral =>
    obtain ⟨t, ⟨⟩⟩ := values
    obtain ⟨_, rfl, isTrue, rfl⟩ := on
    obtain rfl := Option.some.inj denotes
    exact Expr.Forms.standsOn (.true isTrue) (Span.runsOver_spanOver [t])
  | falseLiteral =>
    obtain ⟨t, ⟨⟩⟩ := values
    obtain ⟨_, rfl, isFalse, rfl⟩ := on
    obtain rfl := Option.some.inj denotes
    exact Expr.Forms.standsOn (.false isFalse) (Span.runsOver_spanOver [t])
  | variableName =>
    obtain ⟨t, ⟨⟩⟩ := values
    obtain ⟨_, rfl, isName, rfl⟩ := on
    obtain rfl := Option.some.inj denotes
    exact Expr.Forms.standsOn (.name isName rfl) (Span.runsOver_spanOver [t])
  | call =>
    obtain ⟨t, t', arguments, ⟨⟩⟩ := values
    obtain ⟨_, rfl, isName, _, rfl, isOpening, v, _, rfl, onItems, rfl⟩ := on
    obtain rfl := Option.some.inj denotes
    rw [List.append_nil]
    exact Expr.Forms.standsOn (.call isName isOpening onItems) (Span.runsOver_spanOver _)
  | parenthesized =>
    obtain ⟨t, e, t', ⟨⟩⟩ := values
    obtain ⟨_, rfl, isOpening, v, _, rfl, on, _, rfl, isClosing, rfl⟩ := on
    obtain rfl := Option.some.inj denotes
    exact Expr.StandsOn.parenthesized on isOpening isClosing

/-- The rules for expressions of a level. -/
theorem Rule.standsOn_level (rule : Rule (.level rank) items) {values : Values items} {e : Expr}
    (on : ValuesStandOn items values u) (denotes : rule.denote values u = some e) : e.StandsOn u := by
  cases rule with
  | tighter | primary =>
    obtain ⟨e, ⟨⟩⟩ := values
    obtain ⟨v, _, rfl, on, rfl⟩ := on
    obtain rfl := Option.some.inj denotes
    rwa [List.append_nil]
  | operation isRank =>
    obtain ⟨left, t, right, ⟨⟩⟩ := values
    obtain ⟨v, _, rfl, onLeft, _, rfl, isOperator, w, _, rfl, onRight, rfl⟩ := on
    obtain rfl := Option.some.inj denotes
    rw [List.append_nil]
    have isOperator : t.kind.rank? = some rank := isOperator
    exact Expr.StandsOn.combine onLeft onRight (by rw [isOperator]; rfl)
  | signed =>
    obtain ⟨t, operand, ⟨⟩⟩ := values
    obtain ⟨_, rfl, isSign, v, _, rfl, onOperand, rfl⟩ := on
    obtain rfl := Option.some.inj denotes
    rw [List.append_nil]
    exact Expr.Forms.standsOn (.unary isSign onOperand) (Span.runsOver_spanOver _)

/-- The rules for the arguments of a call. -/
theorem Rule.standsOn_arguments (rule : Rule .arguments items) {values : Values items}
    {arguments : List Expr} (on : ValuesStandOn items values u)
    (denotes : rule.denote values u = some arguments) : Arguments Expr.StandsOn arguments u := by
  cases rule with
  | noArguments =>
    obtain ⟨t, ⟨⟩⟩ := values
    obtain ⟨_, rfl, isClosing, rfl⟩ := on
    obtain rfl := Option.some.inj denotes
    exact .none isClosing
  | someArguments =>
    obtain ⟨arguments, t, ⟨⟩⟩ := values
    obtain ⟨v, _, rfl, onItems, _, rfl, isClosing, rfl⟩ := on
    obtain rfl := Option.some.inj denotes
    exact .some onItems isClosing

/-- The rules for calls and assignments. -/
theorem Rule.standsOn_callStatement (rule : Rule .callStatement items) {values : Values items}
    {s : Statement} (on : ValuesStandOn items values u) (denotes : rule.denote values u = some s) :
    s.takesSemicolon ∧ s.StandsOn u := by
  cases rule with
  | callStatement =>
    obtain ⟨t, t', arguments, ⟨⟩⟩ := values
    obtain ⟨_, rfl, isName, _, rfl, isOpening, v, _, rfl, onItems, rfl⟩ := on
    obtain rfl := Option.some.inj denotes
    rw [List.append_nil]
    exact ⟨rfl, .call isName isOpening onItems (Span.runsOver_spanOver _)⟩

theorem Rule.standsOn_assignment (rule : Rule .assignment items) {values : Values items}
    {s : Statement} (on : ValuesStandOn items values u) (denotes : rule.denote values u = some s) :
    s.takesSemicolon ∧ s.StandsOn u := by
  cases rule with
  | assignment =>
    obtain ⟨t, t', value, ⟨⟩⟩ := values
    obtain ⟨_, rfl, isName, _, rfl, isAssign, v, _, rfl, onValue, rfl⟩ := on
    obtain rfl := Option.some.inj denotes
    rw [List.append_nil]
    exact ⟨rfl, .assignment isName isAssign onValue (Span.runsOver_spanOver _)⟩

/-- A statement with what comes behind it, the semicolon or nothing. -/
theorem terminated_of_terminator {s : Statement} {v w : List Token} (takes : s.takesSemicolon)
    (on : s.StandsOn v) (behind : w = [] ∨ ∃ t, w = [t] ∧ t.kind = .semicolon) :
    s.Terminated (v ++ w) := by
  rcases behind with rfl | ⟨t, rfl, isSemicolon⟩
  · rw [List.append_nil]
    exact .bare on
  · exact .semicolon takes isSemicolon on

/-- The rules for statements. -/
theorem Rule.standsOn_statement (rule : Rule .statement items) {values : Values items}
    {s : Statement} (on : ValuesStandOn items values u) (denotes : rule.denote values u = some s) :
    s.Terminated u := by
  cases rule with
  | callTerminated | assignmentTerminated =>
    obtain ⟨s, ⟨⟩, ⟨⟩⟩ := values
    obtain ⟨v, _, rfl, ⟨takes, on⟩, w, _, rfl, behind, rfl⟩ := on
    obtain rfl := Option.some.inj denotes
    rw [List.append_nil]
    exact terminated_of_terminator takes on behind
  | conditional =>
    obtain ⟨t, condition, t', branch, other, ⟨⟩⟩ := values
    obtain ⟨_, rfl, isIf, v, _, rfl, onCondition, _, rfl, isThen, w, _, rfl, onBranch, z, _, rfl,
      onOther, rfl⟩ := on
    obtain rfl := Option.some.inj denotes
    rw [List.append_nil]
    cases other with
    | none =>
      obtain rfl : z = [] := onOther
      rw [List.append_nil]
      exact .bare (.choice isIf onCondition isThen onBranch (Span.runsOver_spanOver _))
    | some other =>
      obtain ⟨t'', z, rfl, isElse, onOther⟩ := onOther
      exact .bare (.twoChoices isIf onCondition isThen onBranch isElse onOther
        (Span.runsOver_spanOver _))
  | repetition =>
    obtain ⟨t, condition, t', body, ⟨⟩⟩ := values
    obtain ⟨_, rfl, isWhile, v, _, rfl, onCondition, _, rfl, isDo, w, _, rfl, onBody, rfl⟩ := on
    obtain rfl := Option.some.inj denotes
    rw [List.append_nil]
    exact .bare (.repetition isWhile onCondition isDo onBody (Span.runsOver_spanOver _))
  | counting =>
    obtain ⟨t, counter, t', first, way, last, t'', body, ⟨⟩⟩ := values
    obtain ⟨_, rfl, isFor, _, rfl, isName, _, rfl, isAssign, v, _, rfl, onStart, _, _, rfl,
      ⟨t, rfl, isWay⟩, w, _, rfl, onStop, _, rfl, isDo, z, _, rfl, onBody, rfl⟩ := on
    obtain rfl := Option.some.inj denotes
    rw [List.append_nil]
    exact .bare (.counting isFor isName isAssign onStart isWay onStop isDo onBody
      (Span.runsOver_spanOver _))
  | compound =>
    obtain ⟨t, statements, t', ⟨⟩⟩ := values
    obtain ⟨_, rfl, isBegin, v, _, rfl, onItems, _, rfl, isEnd, rfl⟩ := on
    obtain rfl := Option.some.inj denotes
    exact .bare (.compound isBegin onItems isEnd.1 (Span.runsOver_between ..))
  | compoundTerminated =>
    obtain ⟨t, statements, t', t'', ⟨⟩⟩ := values
    obtain ⟨_, rfl, isBegin, v, _, rfl, onItems, _, rfl, isEnd, _, rfl, isSemicolon, rfl⟩ := on
    obtain rfl := Option.some.inj denotes
    have shape : t :: (v ++ [t', t'']) = t :: (v ++ [t']) ++ [t''] := by simp
    rw [shape]
    exact .semicolon rfl isSemicolon
      (.compound isBegin onItems isEnd.1 (Span.runsOver_between ..))

/-- Names with commas between them and their type behind them are a group. -/
theorem group_of_names {α : Type} {On : Token → List Token → α → Prop} {f : Token → α}
    {names : List Token} {colon type : Token}
    (onNames : Listed (Terminal.Fits (.kind .comma)) (Symbol.StandsOn .name) names u)
    (isColon : colon.kind = .colon)
    (on : ∀ name w, name.kind = .identifier → (name :: w).getLast? = some type →
      On name (name :: w) (f name)) :
    Group type On (names.map f) (u ++ [colon, type]) := by
  induction onNames with
  | single first =>
    obtain ⟨isName, rfl⟩ := first
    exact .last isName isColon (on _ _ isName rfl)
  | cons first isComma behind ih =>
    obtain ⟨isName, rfl⟩ := first
    refine .more isName isComma (on _ _ isName ?_) ih
    show ((_ :: _ :: _) ++ [colon, type]).getLast? = some type
    rw [List.getLast?_append]
    rfl

/-- The rules for variables of one type. -/
theorem Rule.standsOn_variableGroup (rule : Rule .variableGroup items) {values : Values items}
    {ds : List Declaration} (on : ValuesStandOn items values u)
    (denotes : rule.denote values u = some ds) : Variables ds u := by
  cases rule with
  | variableGroup =>
    obtain ⟨names, colon, type, t, ⟨⟩⟩ := values
    obtain ⟨v, _, rfl, onNames, _, rfl, isColon, _, rfl, isType, _, rfl, isSemicolon, rfl⟩ := on
    obtain rfl := Option.some.inj denotes
    have shape : v ++ [colon, type, t] = v ++ [colon, type] ++ [t] := by simp
    rw [shape]
    refine .mk isType (group_of_names onNames isColon fun name w _ back => ?_) isSemicolon
    exact ⟨⟨_, rfl⟩, .inl (Span.spanOver_eq rfl back).symm⟩

/-- The rules for parameters of one type. -/
theorem Rule.standsOn_parameterGroup (rule : Rule .parameterGroup items) {values : Values items}
    {formal : List Parameter} (on : ValuesStandOn items values u)
    (denotes : rule.denote values u = some formal) : Parameters formal u := by
  cases rule with
  | valueGroup =>
    obtain ⟨names, colon, type, ⟨⟩⟩ := values
    obtain ⟨v, _, rfl, onNames, _, rfl, isColon, _, rfl, isType, rfl⟩ := on
    obtain rfl := Option.some.inj denotes
    refine .values isType (group_of_names onNames isColon fun name w isName back => ?_)
    exact ⟨rfl, rfl, ⟨name, rfl, isName, rfl⟩, ⟨type, back, isType, rfl⟩,
      .inl (Span.spanOver_eq rfl back).symm⟩
  | referenceGroup =>
    obtain ⟨first, names, colon, type, ⟨⟩⟩ := values
    obtain ⟨_, rfl, isVar, v, _, rfl, onNames, _, rfl, isColon, _, rfl, isType, rfl⟩ := on
    obtain rfl := Option.some.inj denotes
    have back : (first :: (v ++ [colon, type])).getLast? = some type := by
      rw [← List.cons_append, List.getLast?_append]
      rfl
    refine .references isType isVar (group_of_names onNames isColon fun name w _ _ => ?_)
    exact ⟨rfl, rfl, ⟨first, rfl, isVar⟩, ⟨type, back, isType, rfl⟩,
      .inl (Span.spanOver_eq rfl back).symm⟩

/-- The rules for the parameters of a routine. -/
theorem Rule.standsOn_parameters (rule : Rule .parameters items) {values : Values items}
    {formal : List Parameter} (on : ValuesStandOn items values u)
    (denotes : rule.denote values u = some formal) : Formal formal u := by
  cases rule with
  | noParameters =>
    obtain rfl : u = [] := on
    obtain rfl := Option.some.inj denotes
    exact .absent
  | emptyParameters =>
    obtain ⟨t, t', ⟨⟩⟩ := values
    obtain ⟨_, rfl, isOpening, _, rfl, isClosing, rfl⟩ := on
    obtain rfl := Option.some.inj denotes
    exact .empty isOpening isClosing
  | someParameters =>
    obtain ⟨t, groups, t', ⟨⟩⟩ := values
    obtain ⟨_, rfl, isOpening, v, _, rfl, onGroups, _, rfl, isClosing, rfl⟩ := on
    obtain rfl := Option.some.inj denotes
    exact .some isOpening onGroups isClosing

/-- Lists one behind the other stand on tokens when they are taken together. -/
theorem joined_flatten {α : Type} {On : List α → List Token → Prop} {lists : List (List α)}
    (h : Row On lists u) : Joined On lists.flatten u := by
  induction h with
  | nil => exact .nil
  | cons first _ ih => exact .cons first ih

/-- The rules for declarations. -/
theorem Rule.standsOn_declaration (rule : Rule .declaration items) {values : Values items}
    {ds : List Declaration} (on : ValuesStandOn items values u)
    (denotes : rule.denote values u = some ds) : Standing.Section Declaration.StandsOn ds u := by
  cases rule with
  | variableSection =>
    obtain ⟨t, group, groups, ⟨⟩⟩ := values
    obtain ⟨_, rfl, isVar, v, _, rfl, onGroup, w, _, rfl, onGroups, rfl⟩ := on
    obtain rfl := Option.some.inj denotes
    rw [List.append_nil]
    exact .varSection isVar (.cons onGroup (joined_flatten onGroups))
  | procedure =>
    obtain ⟨t, title, formal, t', body, t'', ⟨⟩⟩ := values
    obtain ⟨_, rfl, isProcedure, _, rfl, isName, v, _, rfl, onFormal, _, rfl, isSemicolon, w, _, rfl,
      onBody, _, rfl, isLast, rfl⟩ := on
    obtain rfl := Option.some.inj denotes
    exact .routine rfl (.procedure isProcedure isName onFormal isSemicolon onBody isLast
      (Span.runsOver_spanOver _))
  | function =>
    obtain ⟨t, title, formal, colon, type, t', body, t'', ⟨⟩⟩ := values
    obtain ⟨_, rfl, isFunction, _, rfl, isName, v, _, rfl, onFormal, _, rfl, isColon, _, rfl, isType,
      _, rfl, isSemicolon, w, _, rfl, onBody, _, rfl, isLast, rfl⟩ := on
    obtain rfl := Option.some.inj denotes
    exact .routine rfl (.function isFunction isName onFormal isColon isType isSemicolon onBody isLast
      (Span.runsOver_spanOver _))

/-- The rules for blocks with declarations before them. -/
theorem Rule.standsOn_routineBody (rule : Rule .routineBody items) {values : Values items}
    {b : Block} (on : ValuesStandOn items values u) (denotes : rule.denote values u = some b) :
    b.StandsOn u := by
  cases rule with
  | routineBody =>
    obtain ⟨declared, statements, ⟨⟩⟩ := values
    obtain ⟨v, _, rfl, onDeclared, _, _, rfl, ⟨first, w, last, rfl, isBegin, onItems, isEnd⟩, rfl⟩ := on
    obtain rfl := Option.some.inj denotes
    rw [List.append_nil]
    exact .mk (joined_flatten onDeclared) isBegin onItems isEnd (Span.runsOver_spanOver _)

/-- The rules for programs. -/
theorem Rule.standsOn_program (rule : Rule .program items) {values : Values items} {p : Program}
    (on : ValuesStandOn items values u) (denotes : rule.denote values u = some p) :
    p.StandsOn u := by
  cases rule with
  | program =>
    obtain ⟨t, title, t', declared, statements, t'', ⟨⟩⟩ := values
    obtain ⟨_, rfl, isProgram, _, rfl, isName, _, rfl, isSemicolon, v, _, rfl, onDeclared, _, _, rfl,
      ⟨first, w, last, rfl, isBegin, onItems, isEnd⟩, _, rfl, isDot, rfl⟩ := on
    obtain rfl := Option.some.inj denotes
    have shape : first :: (w ++ [last]) ++ [t''] = first :: (w ++ [last, t'']) := by simp
    rw [shape]
    exact .mk isProgram.1 isName isSemicolon (joined_flatten onDeclared) isBegin onItems isEnd isDot
      (Span.runsOver_spanOver _)

/-- **Each rule keeps that what is denoted stands on its tokens.** -/
theorem Rule.standsOn {symbol : Symbol} (rule : Rule symbol items) {values : Values items}
    {a : symbol.Value} (on : ValuesStandOn items values u)
    (denotes : rule.denote values u = some a) : symbol.StandsOn a u := by
  cases symbol with
  | nested inner =>
    cases rule with
    | nested =>
      obtain ⟨a, ⟨⟩⟩ := values
      obtain ⟨v, _, rfl, on, rfl⟩ := on
      obtain rfl := Option.some.inj denotes
      rwa [List.append_nil]
  | repeated item =>
    cases rule with
    | empty =>
      obtain rfl : u = [] := on
      obtain rfl := Option.some.inj denotes
      exact .nil
    | more =>
      obtain ⟨a, others, ⟨⟩⟩ := values
      obtain ⟨v, _, rfl, first, w, _, rfl, behind, rfl⟩ := on
      obtain rfl := Option.some.inj denotes
      rw [List.append_nil]
      exact .cons first behind
  | separated separator item =>
    cases rule with
    | single =>
      obtain ⟨a, ⟨⟩⟩ := values
      obtain ⟨v, _, rfl, first, rfl⟩ := on
      obtain rfl := Option.some.inj denotes
      rw [List.append_nil]
      exact .single first
    | further =>
      obtain ⟨a, t, others, ⟨⟩⟩ := values
      obtain ⟨v, _, rfl, first, _, rfl, isSeparator, w, _, rfl, behind, rfl⟩ := on
      obtain rfl := Option.some.inj denotes
      rw [List.append_nil]
      exact .cons first isSeparator behind
  | name =>
    cases rule with
    | name =>
      obtain ⟨t, ⟨⟩⟩ := values
      obtain ⟨_, rfl, isName, rfl⟩ := on
      obtain rfl := Option.some.inj denotes
      exact ⟨isName, rfl⟩
  | block =>
    cases rule with
    | block =>
      obtain ⟨first, statements, last, ⟨⟩⟩ := values
      obtain ⟨_, rfl, isBegin, v, _, rfl, onItems, _, rfl, isEnd, rfl⟩ := on
      obtain rfl := Option.some.inj denotes
      exact ⟨first, v, last, rfl, isBegin.1, onItems, isEnd.1⟩
  | terminator =>
    cases rule with
    | semicolon =>
      obtain ⟨t, ⟨⟩⟩ := values
      obtain ⟨_, rfl, isSemicolon, rfl⟩ := on
      exact .inr ⟨t, rfl, isSemicolon⟩
    | omitted => exact .inl on
  | alternative =>
    cases rule with
    | noAlternative =>
      obtain rfl := Option.some.inj denotes
      exact on
    | alternative =>
      obtain ⟨t, s, ⟨⟩⟩ := values
      obtain ⟨_, rfl, isElse, v, _, rfl, on, rfl⟩ := on
      obtain rfl := Option.some.inj denotes
      rw [List.append_nil]
      exact ⟨t, v, rfl, isElse, on⟩
  | direction =>
    cases rule with
    | up | down =>
      obtain ⟨t, ⟨⟩⟩ := values
      obtain ⟨_, rfl, isWay, rfl⟩ := on
      obtain rfl := Option.some.inj denotes
      exact ⟨t, rfl, isWay⟩
  | program => exact rule.standsOn_program on denotes
  | declaration => exact rule.standsOn_declaration on denotes
  | variableGroup => exact rule.standsOn_variableGroup on denotes
  | parameters => exact rule.standsOn_parameters on denotes
  | parameterGroup => exact rule.standsOn_parameterGroup on denotes
  | routineBody => exact rule.standsOn_routineBody on denotes
  | statement => exact rule.standsOn_statement on denotes
  | callStatement => exact rule.standsOn_callStatement on denotes
  | assignment => exact rule.standsOn_assignment on denotes
  | arguments => exact rule.standsOn_arguments on denotes
  | level => exact rule.standsOn_level on denotes
  | primary => exact rule.standsOn_primary on denotes

/-- **What a forest denotes stands on its tokens.** -/
theorem Forest.standsOn {forest : Forest items} {values : Values items}
    (denotes : forest.values? = some values) : ValuesStandOn items values forest.tokens := by
  induction forest with
  | nil => exact rfl
  | token t fits others ih =>
    obtain ⟨values, found, rfl⟩ := Option.map_eq_some_iff.1 denotes
    exact ⟨_, rfl, fits, ih found⟩
  | part rule below others ihBelow ihOthers =>
    obtain ⟨a, first, behind⟩ := Option.bind_eq_some_iff.1 denotes
    obtain ⟨inner, found, denoted⟩ := Option.bind_eq_some_iff.1 first
    obtain ⟨values, found', rfl⟩ := Option.map_eq_some_iff.1 behind
    exact ⟨_, _, rfl, rule.standsOn (ihBelow found) denoted, ihOthers found'⟩

/-- **What a derivation denotes stands on its tokens.** -/
theorem Derivation.standsOn {symbol : Symbol} {d : Derivation symbol} {a : symbol.Value}
    (denotes : d.value? = some a) : symbol.StandsOn a d.tokens := by
  obtain ⟨values, found, denoted⟩ := Option.bind_eq_some_iff.1 denotes
  exact d.rule.standsOn (Forest.standsOn found) denoted

end Grammar

end PascalFront
