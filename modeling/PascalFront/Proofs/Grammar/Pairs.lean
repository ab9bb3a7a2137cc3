import PascalFront.Grammar.Program
import PascalFront.Proofs.Grammar.Primitive
/-!
# Two recognizers side by side

Recognizers for what is nested are handed the recognizers for what is in it. If these are
related to others, then so are the recognizers that are put together from them in the same
way, for every relation that is kept by the steps (`RelatedBySteps`).
-/

namespace PascalFront.Recognizer

/-- A relation that is kept by one step after the other is kept by the rounds of a loop. -/
theorem related_collect {P : (α : Type) → Recognizer α → Recognizer α → Prop}
    (pure : ∀ {α : Type} (a : α), P α (Pure.pure a) (Pure.pure a))
    (bind : ∀ {α β : Type} {r r' : Recognizer β} {next next' : β → Recognizer α},
      P β r r' → (∀ b, P α (next b) (next' b)) → P α (r >>= next) (r' >>= next'))
    {σ α : Type} {item item' : σ → Recognizer (Option (α × σ))}
    (each : ∀ state, P _ (item state) (item' state)) (limit : Nat) (state : σ) :
    P _ (collect item limit state) (collect item' limit state) := by
  induction limit generalizing state with
  | zero => exact pure []
  | succ limit ih =>
    refine bind (each state) fun found => ?_
    cases found with
    | none => exact pure []
    | some found => exact bind (ih found.2) fun _ => pure _

/-- **A relation of recognizers is kept by the steps** that they are put together from: what
does the same is related, and so is one step after the other and a loop, if the parts are. -/
structure RelatedBySteps (P : (α : Type) → Recognizer α → Recognizer α → Prop) : Prop where
  /-- Yielding something. -/
  pure : ∀ {α : Type} (a : α), P α (Pure.pure a) (Pure.pure a)
  /-- One step after the other. -/
  bind : ∀ {α β : Type} {r r' : Recognizer β} {next next' : β → Recognizer α},
    P β r r' → (∀ b, P α (next b) (next' b)) → P α (r >>= next) (r' >>= next')
  /-- Looking at the next token, or at the one behind it. -/
  peekAt : ∀ count ≤ 1, P Token (Recognizer.peekAt count) (Recognizer.peekAt count)
  /-- Taking a token. -/
  advance : P Token Recognizer.advance Recognizer.advance
  /-- The span up to the token taken last. -/
  since : ∀ start, P Span (Recognizer.since start) (Recognizer.since start)
  /-- Refusing a token. -/
  refuse : ∀ {α : Type} (complaint : Complaint) (t : Token),
    P α (Recognizer.refuse complaint t) (Recognizer.refuse complaint t)
  /-- A loop. -/
  many : ∀ {σ α : Type} {item item' : σ → Recognizer (Option (α × σ))},
    (∀ state, P _ (item state) (item' state)) →
      ∀ state, P _ (Recognizer.many item state) (Recognizer.many item' state)

namespace RelatedBySteps

variable {P : (α : Type) → Recognizer α → Recognizer α → Prop} {α : Type}

/-- The same choice between two recognizers. -/
theorem ite {c : Prop} [Decidable c] {x x' y y' : Recognizer α} (yes : P α x x') (no : P α y y') :
    P α (if c then x else y) (if c then x' else y') := by
  split
  · exact yes
  · exact no

variable (related : RelatedBySteps P)

include related

/-! ## Primitive recognizers -/

theorem peek : P _ peek Recognizer.peek := related.peekAt 0 (Nat.zero_le 1)

theorem atEnd : P _ atEnd Recognizer.atEnd := related.bind related.peek fun _ => related.pure _

theorem check (kind : Kind) : P _ (check kind) (Recognizer.check kind) :=
  related.bind related.peek fun _ => related.pure _

theorem accept (kind : Kind) : P _ (accept kind) (Recognizer.accept kind) :=
  related.bind (related.check kind) fun _ =>
    ite (related.bind related.advance fun _ => related.pure _) (related.pure _)

theorem reject (complaint : Complaint) :
    P α (reject complaint) (Recognizer.reject complaint) :=
  related.bind related.peek fun t => related.refuse complaint t

theorem expect (kind : Kind) (complaint : Complaint) :
    P _ (expect kind complaint) (Recognizer.expect kind complaint) :=
  related.bind (related.check kind) fun _ => ite related.advance (related.reject complaint)

theorem expectKeyword (kind : Kind) (word : String) :
    P _ (expectKeyword kind word) (Recognizer.expectKeyword kind word) :=
  related.bind related.peek fun _ => ite related.advance (related.reject _)

/-- A loop without a state. -/
theorem manyOf {item item' : Recognizer (Option α)} (each : P _ item item') :
    P _ (manyOf item) (Recognizer.manyOf item') :=
  related.many (fun _ => related.bind each fun _ => related.pure _) ()

/-- Items with separators between them. -/
theorem separated (separator : Kind) {item item' : Recognizer α} (each : P _ item item') :
    P _ (separated separator item) (Recognizer.separated separator item') := by
  refine related.bind each fun _ => related.bind (related.manyOf ?_) fun _ => related.pure _
  exact related.bind (related.accept separator) fun _ =>
    ite (related.bind each fun _ => related.pure _) (related.pure _)

/-! ## Expressions -/

section Expressions

variable {inner inner' : Nat → Recognizer Expr} {value value' : Recognizer Expr}

theorem arguments (each : P _ value value') :
    P _ (arguments value) (Recognizer.arguments value') := by
  refine related.bind (related.accept _) fun _ => ite (related.pure _) ?_
  refine related.bind (related.separated _ each) fun _ => ?_
  exact related.bind (related.expect _ _) fun _ => related.pure _

theorem numberLiteral (t : Token) : P _ (numberLiteral t) (Recognizer.numberLiteral t) := by
  unfold Recognizer.numberLiteral
  split
  · exact related.pure _
  · exact related.refuse _ _

theorem variableOrCall (each : P _ value value') (t : Token) :
    P _ (variableOrCall value t) (Recognizer.variableOrCall value' t) := by
  refine related.bind (related.accept _) fun _ => ite ?_ (related.pure _)
  refine related.bind (related.arguments each) fun _ => ?_
  exact related.bind (related.since _) fun _ => related.pure _

theorem parenthesized (each : P _ value value') (t : Token) :
    P _ (parenthesized value t) (Recognizer.parenthesized value' t) := by
  refine related.bind each fun _ => related.bind (related.expect _ _) fun _ => ?_
  exact related.bind (related.since _) fun _ => related.pure _

theorem signed (each : P _ value value') (t : Token) :
    P _ (signed value t) (Recognizer.signed value' t) :=
  related.bind each fun _ => related.bind (related.since _) fun _ => related.pure _

theorem operand (each : ∀ rank, P _ (inner rank) (inner' rank)) :
    P _ (operand inner) (Recognizer.operand inner') := by
  refine related.bind related.peek fun t => ?_
  split
  case h_1 | h_2 => exact related.bind related.advance fun _ => related.signed (each _) t
  case h_3 => exact related.bind related.advance fun _ => related.numberLiteral t
  case h_4 | h_5 | h_6 => exact related.bind related.advance fun _ => related.pure _
  case h_7 => exact related.bind related.advance fun _ => related.variableOrCall (each 0) t
  case h_8 => exact related.bind related.advance fun _ => related.parenthesized (each 0) t
  case h_9 => exact related.reject _

theorem operation (each : ∀ rank, P _ (inner rank) (inner' rank)) (least : Nat)
    (compared : Bool) :
    P _ (operation inner least compared) (Recognizer.operation inner' least compared) := by
  refine related.bind related.peek fun t => ?_
  split
  · exact related.pure _
  · refine ite (related.pure _) ?_
    refine ite (related.bind (related.refuse _ _) fun _ => ?_) ?_
    all_goals
      exact related.bind related.advance fun _ => related.bind (each _) fun _ => related.pure _

/-- Expressions. -/
theorem expressionBy (each : ∀ rank, P _ (inner rank) (inner' rank)) (least : Nat) :
    P _ (expressionBy inner least) (Recognizer.expressionBy inner' least) := by
  refine related.bind (related.operand each) fun _ => related.bind ?_ fun _ => related.pure _
  exact related.many (related.operation each least) false

end Expressions

/-! ## Statements -/

section Statements

variable {value value' : Recognizer Expr} {inner inner' : Recognizer Statement}

theorem terminator : P _ terminator Recognizer.terminator :=
  related.bind (related.check _) fun _ =>
    ite (related.pure _) (related.bind (related.expect _ _) fun _ => related.pure _)

theorem callStatement (values : P _ value value') :
    P _ (callStatement value) (Recognizer.callStatement value') := by
  refine related.bind related.advance fun _ => related.bind related.advance fun _ => ?_
  refine related.bind (related.arguments values) fun _ => ?_
  exact related.bind (related.since _) fun _ => related.pure _

theorem assignment (values : P _ value value') :
    P _ (assignment value) (Recognizer.assignment value') := by
  refine related.bind related.advance fun _ => related.bind related.advance fun _ => ?_
  exact related.bind values fun _ => related.bind (related.since _) fun _ => related.pure _

theorem simpleStatement (values : P _ value value') (name : Token) :
    P _ (simpleStatement value name) (Recognizer.simpleStatement value' name) := by
  have finish (s : Statement) : P _ (do Recognizer.terminator; Pure.pure s : Recognizer Statement)
      (do Recognizer.terminator; Pure.pure s) :=
    related.bind related.terminator fun _ => related.pure _
  refine related.bind (related.peekAt 1 (Nat.le_refl 1)) fun t => ?_
  split
  · exact related.bind (related.callStatement values) finish
  · exact related.bind (related.assignment values) finish
  · exact related.bind (related.refuse _ _) finish

theorem conditional (values : P _ value value') (each : P _ inner inner') :
    P _ (conditional value inner) (Recognizer.conditional value' inner') := by
  refine related.bind related.advance fun _ => related.bind values fun _ => ?_
  refine related.bind (related.expect _ _) fun _ => related.bind each fun _ => ?_
  refine related.bind (related.accept _) fun _ => ite ?_ ?_
  · rw [map_eq_pure_bind, map_eq_pure_bind]
    refine related.bind (related.bind each fun _ => related.pure _) fun _ => ?_
    exact related.bind (related.since _) fun _ => related.pure _
  · refine related.bind (related.pure _) fun _ => ?_
    exact related.bind (related.since _) fun _ => related.pure _

theorem repetition (values : P _ value value') (each : P _ inner inner') :
    P _ (repetition value inner) (Recognizer.repetition value' inner') := by
  refine related.bind related.advance fun _ => related.bind values fun _ => ?_
  refine related.bind (related.expect _ _) fun _ => related.bind each fun _ => ?_
  exact related.bind (related.since _) fun _ => related.pure _

theorem direction : P _ direction Recognizer.direction := by
  refine related.bind (related.accept _) fun _ => ite (related.pure _) ?_
  exact related.bind (related.accept _) fun _ => ite (related.pure _) (related.reject _)

theorem counting (values : P _ value value') (each : P _ inner inner') :
    P _ (counting value inner) (Recognizer.counting value' inner') := by
  refine related.bind related.advance fun _ => related.bind (related.expect _ _) fun _ => ?_
  refine related.bind (related.expect _ _) fun _ => related.bind values fun _ => ?_
  refine related.bind related.direction fun _ => related.bind values fun _ => ?_
  refine related.bind (related.expect _ _) fun _ => related.bind each fun _ => ?_
  exact related.bind (related.since _) fun _ => related.pure _

theorem statements (each : P _ inner inner') :
    P _ (statements inner) (Recognizer.statements inner') := by
  refine related.manyOf (related.bind (related.check _) fun _ => ite (related.pure _) ?_)
  have found : P _ (do return some (← inner) : Recognizer (Option Statement))
      (do return some (← inner')) := related.bind each fun _ => related.pure _
  refine related.bind related.atEnd fun _ => related.bind (related.check _) fun _ => ?_
  exact ite (related.bind (related.reject _) fun _ => found) found

theorem compound (each : P _ inner inner') :
    P _ (compound inner) (Recognizer.compound inner') := by
  refine related.bind related.advance fun _ => related.bind (related.statements each) fun _ => ?_
  refine related.bind (related.expectKeyword _ _) fun _ => ?_
  refine related.bind (related.since _) fun _ => ?_
  exact related.bind (related.accept _) fun _ => related.pure _

/-- Statements. -/
theorem statementBy (values : P _ value value') (each : P _ inner inner') (t : Token) :
    P _ (statementBy value inner t) (Recognizer.statementBy value' inner' t) := by
  unfold Recognizer.statementBy
  split
  · exact related.conditional values each
  · exact related.repetition values each
  · exact related.counting values each
  · exact related.compound each
  · exact related.simpleStatement values t
  · exact related.reject _

end Statements

/-! ## Declarations -/

section Declarations

variable {body body' : Recognizer Block} {inner inner' : Recognizer Statement}

theorem names (wanted : Wanted) : P _ (names wanted) (Recognizer.names wanted) :=
  related.separated _ (related.expect _ _)

theorem typeName : P _ typeName Recognizer.typeName :=
  related.bind related.peek fun _ => ite related.advance (related.reject _)

theorem variableGroup : P _ variableGroup Recognizer.variableGroup := by
  refine related.bind (related.names _) fun _ => related.bind (related.expect _ _) fun _ => ?_
  refine related.bind related.typeName fun _ => ?_
  exact related.bind (related.expect _ _) fun _ => related.pure _

theorem variableSection : P _ variableSection Recognizer.variableSection := by
  refine related.bind related.advance fun _ => related.bind related.variableGroup fun _ => ?_
  refine related.bind (related.manyOf ?_) fun _ => related.pure _
  exact related.bind (related.check _) fun _ =>
    ite (related.bind related.variableGroup fun _ => related.pure _) (related.pure _)

theorem parameterGroup : P _ parameterGroup Recognizer.parameterGroup := by
  refine related.bind related.peek fun _ => related.bind (related.accept _) fun _ => ?_
  refine related.bind (related.names _) fun _ => related.bind (related.expect _ _) fun _ => ?_
  exact related.bind related.typeName fun _ => related.pure _

theorem parameters : P _ parameters Recognizer.parameters := by
  refine related.bind (related.accept _) fun _ => ite (related.pure _) ?_
  refine related.bind (related.accept _) fun _ => ite (related.pure _) ?_
  refine related.bind (related.separated _ related.parameterGroup) fun _ => ?_
  exact related.bind (related.expect _ _) fun _ => related.pure _

theorem block (each : P _ inner inner') (declared : List Declaration) (start : Option Position) :
    P _ (block inner declared start) (Recognizer.block inner' declared start) := by
  refine related.bind (related.expectKeyword _ _) fun _ => ?_
  refine related.bind (related.statements each) fun _ => ?_
  refine related.bind (related.expectKeyword _ _) fun _ => ?_
  exact related.bind (related.since _) fun _ => related.pure _

theorem procedure (each : P _ body body') :
    P _ (procedure body) (Recognizer.procedure body') := by
  refine related.bind related.advance fun _ => related.bind (related.expect _ _) fun _ => ?_
  refine related.bind related.parameters fun _ => related.bind (related.expect _ _) fun _ => ?_
  refine related.bind each fun _ => related.bind (related.expect _ _) fun _ => ?_
  exact related.bind (related.since _) fun _ => related.pure _

theorem function (each : P _ body body') :
    P _ (function body) (Recognizer.function body') := by
  refine related.bind related.advance fun _ => related.bind (related.expect _ _) fun _ => ?_
  refine related.bind related.parameters fun _ => related.bind (related.expect _ _) fun _ => ?_
  refine related.bind related.typeName fun _ => related.bind (related.expect _ _) fun _ => ?_
  refine related.bind each fun _ => related.bind (related.expect _ _) fun _ => ?_
  exact related.bind (related.since _) fun _ => related.pure _

theorem declarations (each : P _ body body') :
    P _ (declarations body) (Recognizer.declarations body') := by
  refine related.bind (related.manyOf ?_) fun _ => related.pure _
  refine related.bind (related.check _) fun _ =>
    ite (related.bind related.variableSection fun _ => related.pure _) ?_
  refine related.bind (related.check _) fun _ =>
    ite (related.bind (related.procedure each) fun _ => related.pure _) ?_
  exact related.bind (related.check _) fun _ =>
    ite (related.bind (related.function each) fun _ => related.pure _) (related.pure _)

/-- Bodies of routines. -/
theorem routineBodyBy (each : P _ body body') (items : P _ inner inner') (start : Token) :
    P _ (routineBodyBy body inner start) (Recognizer.routineBodyBy body' inner' start) :=
  related.bind (related.declarations each) fun _ => related.block items _ _

/-- **Programs** are related if what is nested in them is. -/
theorem programBy (each : P _ body body') (items : P _ inner inner') :
    P _ (programBy body inner) (Recognizer.programBy body' inner') := by
  refine related.bind related.peek fun _ => related.bind (related.expectKeyword _ _) fun _ => ?_
  refine related.bind (related.expect _ _) fun _ => related.bind (related.expect _ _) fun _ => ?_
  refine related.bind (related.declarations each) fun _ => ?_
  refine related.bind (related.block items _ _) fun _ => related.bind (related.expect _ _) fun _ => ?_
  refine related.bind (related.since _) fun _ => related.bind related.atEnd fun _ => ?_
  exact ite (related.bind (related.reject _) fun _ => related.pure _) (related.pure _)

end Declarations

end RelatedBySteps

end PascalFront.Recognizer
