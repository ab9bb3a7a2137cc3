import PascalFront.Proofs.Grammar.Correspondence
import PascalFront.Proofs.Grammar.Steps
/-!
# Two runs agree on every tree

Every recognizer of the grammar agrees with itself on corresponding streams: it yields trees
that are equal up to the relabelling of the correspondence, or stops with the same complaint
at corresponding tokens. The recognizers are gone through one by one, in the order of the
grammar, up to `Correspondence.agree_program`.

The value of a token goes into a tree only where the kind of the token is known. Mostly it is
known from taking the token; the name that a call or an assignment starts with has been looked
at before, and is found again in the buffer (`Correspondence.results_callStatement`).
-/

namespace PascalFront

open Grammar TokenStream

namespace Correspondence

variable {c : Correspondence} {α : Type} {s s' : TokenStream} {t t' : Token}

/-! ## What is yielded -/

/-- Two expressions that are relabelled alike. -/
def Exprs (c : Correspondence) (e e' : Expr) : Prop := e'.relabelled c.labels = e.relabelled c.labels

/-- Two statements that are relabelled alike. -/
def Statements (c : Correspondence) (a a' : Statement) : Prop :=
  a'.relabelled c.labels = a.relabelled c.labels

/-- Two declarations that are relabelled alike. -/
def Declarations (c : Correspondence) (d d' : Declaration) : Prop :=
  d'.relabelled c.labels = d.relabelled c.labels

/-- Two parameters that are relabelled alike. -/
def Parameters (c : Correspondence) (p p' : Parameter) : Prop :=
  p'.relabelled c.labels = p.relabelled c.labels

/-- Two bodies that are relabelled alike. -/
def Blocks (c : Correspondence) (b b' : Block) : Prop := b'.relabelled c.labels = b.relabelled c.labels

/-- Two programs that are relabelled alike. -/
def Programs (c : Correspondence) (p p' : Program) : Prop :=
  p'.relabelled c.labels = p.relabelled c.labels

/-- What is the same one by one is the same as a list. -/
theorem map_eq_of_forall₂ {β : Type} {g : α → β} {items items' : List α}
    (h : List.Forall₂ (fun a a' => g a' = g a) items items') : items'.map g = items.map g := by
  induction h with
  | nil => rfl
  | cons first _ ih => rw [List.map_cons, List.map_cons, first, ih]

/-- Lists made from corresponding tokens. -/
theorem forall₂_map {β : Type} {R : Token → Token → Prop} {V : β → β → Prop} {g g' : Token → β}
    {u u' : List Token} (h : List.Forall₂ R u u') (each : ∀ t t', R t t' → V (g t) (g' t')) :
    List.Forall₂ V (u.map g) (u'.map g') :=
  List.forall₂_map_left_iff.2 (List.forall₂_map_right_iff.2 (h.imp each))

/-- A token that is neither a keyword nor a string literal has the value of the one that it
corresponds to. -/
theorem value_eq (same : c.tokens t t') {kind : Kind} (isKind : t.kind = kind)
    (plain : kind.isKeyword = false ∧ kind ≠ .text) : t'.value = t.value :=
  (c.alike same).value (isKind ▸ plain.1) (isKind ▸ plain.2)

/-- Corresponding tokens have spans that are relabelled alike. -/
theorem spans_of_tokens (same : c.tokens t t') : c.Spans t.span t'.span := c.between same same

/-- Names in the place of variables are relabelled alike. -/
theorem names_of_tokens (same : c.tokens t t') (isName : t.kind = .identifier) :
    (⟨t'.value, t'.span⟩ : Name).relabelled c.labels = (⟨t.value, t.span⟩ : Name).relabelled c.labels := by
  rw [Name.relabelled, Name.relabelled, value_eq same isName (by decide), spans_of_tokens same]

/-- A position where a token starts corresponds to that where the other one does. -/
theorem starts_of_tokens (same : c.tokens t t') : c.Starts t.startPosition t'.startPosition :=
  ⟨t, t', same, rfl, rfl⟩

/-- Expressions that are relabelled alike have such spans. -/
theorem spans_of_exprs {e e' : Expr} (same : c.Exprs e e') : c.Spans e.span e'.span := by
  rw [Spans, ← Expr.span_relabelled, ← Expr.span_relabelled, same]

/-! ## Expressions -/

section Expressions

open Recognizer

variable {inner : Nat → Recognizer Expr} {value : Recognizer Expr}

theorem agree_arguments (each : c.Agree c.Exprs value value) :
    c.Agree (List.Forall₂ c.Exprs) (arguments value) (arguments value) := by
  refine (agree_accept _).bind fun _ empty same => ?_
  subst same
  refine agree_ite Iff.rfl (fun _ => agree_pure .nil) fun _ => ?_
  refine (agree_separated .comma each).bind fun _ _ items => ?_
  exact (agree_expect _ _).bind fun _ _ _ => agree_pure items

theorem agree_numberLiteral (same : c.tokens t t') (isNumber : t.kind = .number) :
    c.Agree c.Exprs (numberLiteral t) (numberLiteral t') := by
  unfold numberLiteral
  rw [value_eq same isNumber (by decide)]
  cases Number.ofLiteral? t.value.toList with
  | none => exact agree_refuse _ same
  | some value =>
    exact agree_pure (congrArg (Expr.number value) (spans_of_tokens same))

theorem agree_variableOrCall (each : c.Agree c.Exprs value value) (same : c.tokens t t')
    (isName : t.kind = .identifier) :
    c.Agree c.Exprs (variableOrCall value t) (variableOrCall value t') := by
  have name : t'.value = t.value := value_eq same isName (by decide)
  refine (agree_accept _).bind fun _ call again => ?_
  subst again
  refine agree_ite Iff.rfl (fun _ => ?_) fun _ => agree_pure ?_
  · refine (agree_arguments each).bind fun items items' alike => ?_
    refine (agree_since (starts_of_tokens same)).bind fun span span' spans => agree_pure ?_
    rw [Exprs, Expr.relabelled, Expr.relabelled, Expr.relabelledAll_eq_map,
      Expr.relabelledAll_eq_map, name, map_eq_of_forall₂ alike, spans]
  · rw [Exprs, Expr.relabelled, Expr.relabelled, names_of_tokens same isName]

theorem agree_parenthesized (each : c.Agree c.Exprs value value) (same : c.tokens t t') :
    c.Agree c.Exprs (parenthesized value t) (parenthesized value t') := by
  refine each.bind fun e e' inside => (agree_expect _ _).bind fun _ _ _ => ?_
  refine (agree_since (starts_of_tokens same)).bind fun span span' spans => agree_pure ?_
  rw [Exprs, Expr.relabelled_withSpan, Expr.relabelled_withSpan, inside, spans]

theorem agree_signed (each : c.Agree c.Exprs value value) (same : c.tokens t t')
    (sign : t'.value = t.value) : c.Agree c.Exprs (signed value t) (signed value t') := by
  refine each.bind fun e e' inside => ?_
  refine (agree_since (starts_of_tokens same)).bind fun span span' spans => agree_pure ?_
  rw [Exprs, Expr.relabelled, Expr.relabelled, inside, spans, sign]

theorem agree_operand (each : ∀ rank, c.Agree c.Exprs (inner rank) (inner rank)) :
    c.Agree c.Exprs (operand inner) (operand inner) := by
  refine agree_peek.bind fun t t' same => ?_
  rw [(c.alike same).kind]
  have spans := spans_of_tokens same
  cases isKind : t.kind
  case plus | minus =>
    exact agree_advance.bind fun _ _ _ =>
      agree_signed (each _) same (value_eq same isKind (by decide))
  case number => exact agree_advance.bind fun _ _ _ => agree_numberLiteral same isKind
  case text =>
    refine agree_advance.bind fun _ _ _ => agree_pure ?_
    rw [Exprs, Expr.relabelled, Expr.relabelled, (c.alike same).text isKind, spans]
  case trueLiteral | falseLiteral =>
    exact agree_advance.bind fun _ _ _ => agree_pure (congrArg (Expr.boolean _) spans)
  case identifier => exact agree_advance.bind fun _ _ _ => agree_variableOrCall (each 0) same isKind
  case openParen => exact agree_advance.bind fun _ _ _ => agree_parenthesized (each 0) same
  all_goals exact agree_reject _

/-- Operators are neither keywords nor string literals. -/
theorem plain_of_rank {kind : Kind} (h : kind.rank?.isSome) :
    kind.isKeyword = false ∧ kind ≠ .text := by
  revert h
  cases kind <;> decide

/-- Two operators that are the same, with operands that are relabelled alike. -/
def Operations (c : Correspondence) (x x' : String × Expr) : Prop := x'.1 = x.1 ∧ c.Exprs x.2 x'.2

theorem agree_operation (each : ∀ rank, c.Agree c.Exprs (inner rank) (inner rank)) (least : Nat)
    (compared : Bool) :
    c.Agree (Option.Rel fun x x' => c.Operations x.1 x'.1 ∧ x'.2 = x.2)
      (operation inner least compared) (operation inner least compared) := by
  refine agree_peek.bind fun t t' same => ?_
  rw [(c.alike same).kind]
  cases isOperator : t.kind.rank? with
  | none => exact agree_pure .none
  | some rank =>
    have operator : t'.value = t.value := value_eq same rfl (plain_of_rank (by rw [isOperator]; rfl))
    refine agree_ite Iff.rfl (fun _ => agree_pure .none) fun _ => ?_
    have further : c.Agree
        (Option.Rel fun x x' => c.Operations x.1 x'.1 ∧ x'.2 = x.2)
        (do
          let _ ← advance
          let right ← inner (rank + 1)
          return some ((t.value, right), compared || t.kind.isComparison))
        (do
          let _ ← advance
          let right ← inner (rank + 1)
          return some ((t'.value, right), compared || t.kind.isComparison)) :=
      agree_advance.bind fun _ _ _ => (each _).bind fun _ _ right =>
        agree_pure (.some ⟨⟨operator, right⟩, rfl⟩)
    refine agree_ite Iff.rfl (fun _ => ?_) fun _ => further
    exact Agree.bind (W := fun _ _ => True) (agree_refuse _ same) fun _ _ _ => further

/-- Operators and operands are put together alike. -/
theorem exprs_foldl {others others' : List (String × Expr)} {first first' : Expr}
    (same : c.Exprs first first')
    (alike : List.Forall₂ c.Operations others others') :
    c.Exprs (others.foldl (fun left (operator, right) => left.combine operator right) first)
      (others'.foldl (fun left (operator, right) => left.combine operator right) first') := by
  induction alike generalizing first first' with
  | nil => exact same
  | @cons x x' _ _ next _ ih =>
    refine ih ?_
    show Expr.relabelled _ (.binary x'.1 _ x'.2 _) = Expr.relabelled _ (.binary x.1 _ x.2 _)
    rw [Expr.relabelled, Expr.relabelled, same, next.1, next.2,
      c.combine (spans_of_exprs same) (spans_of_exprs next.2)]

theorem agree_expressionIn (room rank : Nat) :
    c.Agree c.Exprs (expressionIn room rank) (expressionIn room rank) := by
  induction room generalizing rank with
  | zero => exact agree_reject _
  | succ room ih =>
    refine (agree_operand ih).bind fun first first' same => ?_
    have loop := agree_many (V := c.Operations) (agree_operation ih rank) false
    exact loop.bind fun _ _ alike => agree_pure (exprs_foldl same alike)

end Expressions

/-! ## Statements -/

section Statements

open Recognizer

variable {value : Recognizer Expr} {inner : Recognizer Statement}

theorem agree_terminator : c.Agree (fun _ _ => True) terminator terminator := by
  refine (agree_check _).bind fun _ last same => ?_
  subst same
  exact agree_ite Iff.rfl (fun _ => agree_pure trivial) fun _ =>
    (agree_expect _ _).bind fun _ _ _ => agree_pure trivial

/-- **A call of a procedure**, with its name in front of the buffer. -/
theorem results_callStatement (each : c.Agree c.Exprs value value) (streams : c.Streams s s')
    {others : List Token} (waiting : s.buffer = t :: others) (isName : t.kind = .identifier) :
    c.Results c.Statements (callStatement value s) (callStatement value s') := by
  refine (streams.advance waiting).bind fun name name' s₁ s₁' _ _ taken streams₁ => ?_
  obtain ⟨rfl, same⟩ := taken
  have behind : c.Agree c.Statements
      (do
        let _ ← advance
        let items ← arguments value
        return .call name.value items (← since name.startPosition))
      (do
        let _ ← advance
        let items ← arguments value
        return .call name'.value items (← since name'.startPosition)) := by
    refine agree_advance.bind fun _ _ _ => (agree_arguments each).bind fun items items' alike => ?_
    refine (agree_since (starts_of_tokens same)).bind fun span span' spans => agree_pure ?_
    rw [Statements, Statement.relabelled, Statement.relabelled, value_eq same isName (by decide),
      map_eq_of_forall₂ alike, spans]
  exact behind s₁ s₁' streams₁

/-- **An assignment**, with its name in front of the buffer. -/
theorem results_assignment (each : c.Agree c.Exprs value value) (streams : c.Streams s s')
    {others : List Token} (waiting : s.buffer = t :: others) (isName : t.kind = .identifier) :
    c.Results c.Statements (assignment value s) (assignment value s') := by
  refine (streams.advance waiting).bind fun name name' s₁ s₁' _ _ taken streams₁ => ?_
  obtain ⟨rfl, same⟩ := taken
  have behind : c.Agree c.Statements
      (do
        let _ ← advance
        let e ← value
        return .assignment ⟨name.value, name.span⟩ e (← since name.startPosition))
      (do
        let _ ← advance
        let e ← value
        return .assignment ⟨name'.value, name'.span⟩ e (← since name'.startPosition)) := by
    refine agree_advance.bind fun _ _ _ => each.bind fun e e' right => ?_
    refine (agree_since (starts_of_tokens same)).bind fun span span' spans => agree_pure ?_
    rw [Statements, Statement.relabelled, Statement.relabelled, names_of_tokens same isName, right,
      spans]
  exact behind s₁ s₁' streams₁

/-- **A call or an assignment**, with its name looked at. -/
theorem results_simpleStatement (each : c.Agree c.Exprs value value) (streams : c.Streams s s')
    {s₀ : TokenStream} (run : peek s₀ = .ok t s) (same : c.tokens t t')
    (isName : t.kind = .identifier) :
    c.Results c.Statements (simpleStatement value t s) (simpleStatement value t' s') := by
  have peeked := peek_spec s₀
  rw [run] at peeked
  have notEnd : t.isEnd = false := by rw [Token.isEnd, isName]; rfl
  refine (agree_peekAt 1 s s' streams).bind fun second second' s₁ s₁' run₁ _ same₁ streams₁ => ?_
  have looked := peekAt_one_spec peeked notEnd
  rw [run₁] at looked
  obtain ⟨others, waiting⟩ := looked.waiting
  have finish {a a' : Statement} (same : c.Statements a a') :
      c.Agree c.Statements (do terminator; return a) (do terminator; return a') :=
    agree_terminator.bind fun _ _ _ => agree_pure same
  rw [(c.alike same₁).kind, value_eq same isName (by decide)]
  cases second.kind
  case openParen =>
    exact (results_callStatement each streams₁ waiting isName).bind
      fun _ _ _ _ _ _ alike streams₂ => finish alike _ _ streams₂
  case assign =>
    exact (results_assignment each streams₁ waiting isName).bind
      fun _ _ _ _ _ _ alike streams₂ => finish alike _ _ streams₂
  all_goals
    exact Results.bind (W := c.Statements) (agree_refuse _ same₁ s₁ s₁' streams₁)
      fun _ _ _ _ _ _ alike streams₂ => finish alike _ _ streams₂

theorem agree_alternative (each : c.Agree c.Statements inner inner) :
    c.Agree (Option.Rel c.Statements) (alternative inner) (alternative inner) := by
  refine (agree_accept _).bind fun _ other same => ?_
  subst same
  rw [map_eq_pure_bind]
  exact agree_ite Iff.rfl (fun _ => each.bind fun _ _ alike => agree_pure (.some alike))
    fun _ => agree_pure .none

theorem agree_conditional (values : c.Agree c.Exprs value value)
    (each : c.Agree c.Statements inner inner) :
    c.Agree c.Statements (conditional value inner) (conditional value inner) := by
  rw [conditional_eq]
  refine agree_advance.bind fun start start' same => values.bind fun e e' condition => ?_
  refine (agree_expect _ _).bind fun _ _ _ => each.bind fun a a' branch => ?_
  refine (agree_alternative each).bind fun b b' other => ?_
  refine (agree_since (starts_of_tokens same)).bind fun span span' spans => agree_pure ?_
  cases other with
  | none => rw [Statements, Statement.relabelled, Statement.relabelled, condition, branch, spans]
  | some other =>
    rw [Statements, Statement.relabelled, Statement.relabelled, condition, branch, other, spans]

theorem agree_repetition (values : c.Agree c.Exprs value value)
    (each : c.Agree c.Statements inner inner) :
    c.Agree c.Statements (repetition value inner) (repetition value inner) := by
  refine agree_advance.bind fun start start' same => values.bind fun e e' condition => ?_
  refine (agree_expect _ _).bind fun _ _ _ => each.bind fun a a' body => ?_
  refine (agree_since (starts_of_tokens same)).bind fun span span' spans => agree_pure ?_
  rw [Statements, Statement.relabelled, Statement.relabelled, condition, body, spans]

theorem agree_direction : c.Agree (fun way way' => way' = way) direction direction := by
  refine (agree_accept _).bind fun _ up same => ?_
  subst same
  refine agree_ite Iff.rfl (fun _ => agree_pure rfl) fun _ => ?_
  refine (agree_accept _).bind fun _ down same => ?_
  subst same
  exact agree_ite Iff.rfl (fun _ => agree_pure rfl) fun _ => agree_reject _

theorem agree_counting (values : c.Agree c.Exprs value value)
    (each : c.Agree c.Statements inner inner) :
    c.Agree c.Statements (counting value inner) (counting value inner) := by
  refine agree_advance.bind fun start start' same => ?_
  refine (agree_expect _ _).bind fun counter counter' name => ?_
  refine (agree_expect _ _).bind fun _ _ _ => values.bind fun e e' first => ?_
  refine agree_direction.bind fun _ way again => values.bind fun f f' last => ?_
  subst again
  refine (agree_expect _ _).bind fun _ _ _ => each.bind fun a a' body => ?_
  refine (agree_since (starts_of_tokens same)).bind fun span span' spans => agree_pure ?_
  rw [Statements, Statement.relabelled, Statement.relabelled, names_of_tokens name.1 name.2, first,
    last, body, spans]

theorem agree_statements (each : c.Agree c.Statements inner inner) :
    c.Agree (List.Forall₂ c.Statements) (statements inner) (statements inner) := by
  refine agree_manyOf ((agree_check _).bind fun _ closes same => ?_)
  subst same
  refine agree_ite Iff.rfl (fun _ => agree_pure .none) fun _ => ?_
  have further : c.Agree (Option.Rel c.Statements) (do return some (← inner))
      (do return some (← inner)) := each.bind fun _ _ alike => agree_pure (.some alike)
  refine agree_atEnd.bind fun _ ended same => (agree_check _).bind fun _ dot same' => ?_
  subst same same'
  exact agree_ite Iff.rfl
    (fun _ => Agree.bind (W := fun _ _ => True) (agree_reject _) fun _ _ _ => further)
    fun _ => further

theorem agree_compound (each : c.Agree c.Statements inner inner) :
    c.Agree c.Statements (compound inner) (compound inner) := by
  refine agree_advance.bind fun start start' same => ?_
  refine (agree_statements each).bind fun items items' alike => ?_
  refine (agree_expectKeyword (by decide) _).bind fun _ _ _ => ?_
  refine (agree_since (starts_of_tokens same)).bind fun span span' spans => ?_
  refine (agree_accept _).bind fun _ _ _ => agree_pure ?_
  rw [Statements, Statement.relabelled, Statement.relabelled, Statement.relabelledAll_eq_map,
    Statement.relabelledAll_eq_map, map_eq_of_forall₂ alike, spans]

theorem agree_statementIn (room : Nat) :
    c.Agree c.Statements (statementIn room) (statementIn room) := by
  induction room with
  | zero => exact agree_reject _
  | succ room ih =>
    have values := agree_expressionIn (c := c) room 0
    intro s s' streams
    refine (agree_peek s s' streams).bind fun t t' s₁ s₁' run _ same streams₁ => ?_
    rw [statementBy, statementBy, (c.alike same).kind]
    cases isKind : t.kind
    case ifKeyword => exact agree_conditional values ih s₁ s₁' streams₁
    case whileKeyword => exact agree_repetition values ih s₁ s₁' streams₁
    case forKeyword => exact agree_counting values ih s₁ s₁' streams₁
    case beginKeyword => exact agree_compound ih s₁ s₁' streams₁
    case identifier => exact results_simpleStatement values streams₁ run same isKind
    all_goals exact agree_reject _ s₁ s₁' streams₁

end Statements

/-! ## Declarations -/

section Declarations

open Recognizer

variable {body : Recognizer Block} {inner : Recognizer Statement}

/-- Two names. -/
abbrev Names (c : Correspondence) : Token → Token → Prop := c.TokensOf (·.kind = .identifier)

/-- Two names of types. -/
abbrev Types (c : Correspondence) : Token → Token → Prop :=
  c.TokensOf fun t => t.kind.isTypeName ∨ t.kind = .identifier

/-- Names of types are relabelled alike. -/
theorem typeName_eq (same : c.Types t t') :
    c.labels.typeName t'.value = c.labels.typeName t.value := by
  rcases same.2 with isType | isName
  · exact (c.alike same.1).typeName isType
  · rw [value_eq same.1 isName (by decide)]

theorem agree_names (wanted : Wanted) :
    c.Agree (List.Forall₂ c.Names) (names wanted) (names wanted) :=
  agree_separated _ (agree_expect _ _)

theorem agree_typeName : c.Agree c.Types typeName typeName :=
  agree_take _ (fun t => t.kind.isTypeName ∨ t.kind = .identifier) fun t t' same => by
    rw [(c.alike same).kind]

theorem agree_variableGroup :
    c.Agree (List.Forall₂ c.Declarations) variableGroup variableGroup := by
  refine (agree_names _).bind fun declared declared' names => ?_
  refine (agree_expect _ _).bind fun _ _ _ => agree_typeName.bind fun type type' types => ?_
  refine (agree_expect _ _).bind fun _ _ _ => agree_pure (forall₂_map names fun t t' name => ?_)
  rw [Declarations, Declaration.relabelled, Declaration.relabelled,
    value_eq name.1 name.2 (by decide), typeName_eq types, c.between name.1 types.1]

theorem agree_variableSection :
    c.Agree (List.Forall₂ c.Declarations) variableSection variableSection := by
  have more : c.Agree (List.Forall₂ (List.Forall₂ c.Declarations)) (manyOf moreVariables)
      (manyOf moreVariables) := by
    refine agree_manyOf ((agree_check _).bind fun _ another same => ?_)
    subst same
    exact agree_ite Iff.rfl (fun _ => agree_variableGroup.bind fun _ _ group =>
      agree_pure (.some group)) fun _ => agree_pure .none
  refine agree_advance.bind fun _ _ _ => agree_variableGroup.bind fun _ _ first => ?_
  exact more.bind fun _ _ others => agree_pure (List.rel_append first (List.rel_flatten others))

theorem agree_parameterGroup :
    c.Agree (List.Forall₂ c.Parameters) parameterGroup parameterGroup := by
  refine agree_peek.bind fun start start' same => (agree_accept _).bind fun _ reference again => ?_
  subst again
  refine (agree_names _).bind fun declared declared' names => ?_
  refine (agree_expect _ _).bind fun _ _ _ => agree_typeName.bind fun type type' types => ?_
  refine agree_pure (forall₂_map names fun t t' name => ?_)
  have front : c.tokens (if reference then start else t) (if reference then start' else t') := by
    split
    · exact same
    · exact name.1
  simp only [Parameters, Parameter.relabelled, value_eq name.1 name.2 (by decide), typeName_eq types,
    c.between front types.1]

theorem agree_parameters : c.Agree (List.Forall₂ c.Parameters) parameters parameters := by
  refine (agree_accept _).bind fun _ opened same => ?_
  subst same
  refine agree_ite Iff.rfl (fun _ => agree_pure .nil) fun _ => ?_
  refine (agree_accept _).bind fun _ closed same => ?_
  subst same
  refine agree_ite Iff.rfl (fun _ => agree_pure .nil) fun _ => ?_
  refine (agree_separated _ agree_parameterGroup).bind fun _ _ groups => ?_
  exact (agree_expect _ _).bind fun _ _ _ => agree_pure (List.rel_flatten groups)

theorem agree_block (each : c.Agree c.Statements inner inner)
    {declared declared' : List Declaration} (same : List.Forall₂ c.Declarations declared declared')
    {start start' : Option Position} (starts : Option.Rel c.Starts start start') :
    c.Agree c.Blocks (block inner declared start) (block inner declared' start') := by
  refine (agree_expectKeyword (by decide) _).bind fun opening opening' opened => ?_
  refine (agree_statements each).bind fun items items' alike => ?_
  refine (agree_expectKeyword (by decide) _).bind fun _ _ _ => ?_
  have front : c.Starts (start.getD opening.startPosition) (start'.getD opening'.startPosition) := by
    cases starts with
    | none => exact starts_of_tokens opened
    | some starts => exact starts
  refine (agree_since front).bind fun span span' spans => agree_pure ?_
  rw [Blocks, Block.relabelled, Block.relabelled]
  simp only [Block.statements, Block.declarations, Block.span, map_eq_of_forall₂ alike,
    map_eq_of_forall₂ same]
  rw [spans]

theorem agree_procedure (each : c.Agree c.Blocks body body) :
    c.Agree c.Declarations (procedure body) (procedure body) := by
  refine agree_advance.bind fun start start' same => (agree_expect _ _).bind fun t t' name => ?_
  refine agree_parameters.bind fun formal formal' alike => (agree_expect _ _).bind fun _ _ _ => ?_
  refine each.bind fun b b' content => (agree_expect _ _).bind fun _ _ _ => ?_
  refine (agree_since (starts_of_tokens same)).bind fun span span' spans => agree_pure ?_
  rw [Declarations, Declaration.relabelled, Declaration.relabelled,
    value_eq name.1 name.2 (by decide), map_eq_of_forall₂ alike, Block.relabelledOption_some,
    Block.relabelledOption_some, content, spans]

theorem agree_function (each : c.Agree c.Blocks body body) :
    c.Agree c.Declarations (function body) (function body) := by
  refine agree_advance.bind fun start start' same => (agree_expect _ _).bind fun t t' name => ?_
  refine agree_parameters.bind fun formal formal' alike => (agree_expect _ _).bind fun _ _ _ => ?_
  refine agree_typeName.bind fun type type' types => (agree_expect _ _).bind fun _ _ _ => ?_
  refine each.bind fun b b' content => (agree_expect _ _).bind fun _ _ _ => ?_
  refine (agree_since (starts_of_tokens same)).bind fun span span' spans => agree_pure ?_
  rw [Declarations, Declaration.relabelled, Declaration.relabelled,
    value_eq name.1 name.2 (by decide), map_eq_of_forall₂ alike, typeName_eq types,
    Block.relabelledOption_some, Block.relabelledOption_some, content, spans]

theorem agree_declarations (each : c.Agree c.Blocks body body) :
    c.Agree (List.Forall₂ c.Declarations) (declarations body) (declarations body) := by
  have sections : c.Agree (Option.Rel (List.Forall₂ c.Declarations)) (declarationSection body)
      (declarationSection body) := by
    have one {r : Recognizer Declaration} (agrees : c.Agree c.Declarations r r) :
        c.Agree (Option.Rel (List.Forall₂ c.Declarations)) (do return some [← r])
          (do return some [← r]) :=
      agrees.bind fun _ _ same => agree_pure (.some (.cons same .nil))
    refine (agree_check _).bind fun _ isVariables same => ?_
    subst same
    refine agree_ite Iff.rfl (fun _ => agree_variableSection.bind fun _ _ alike =>
      agree_pure (.some alike)) fun _ => ?_
    refine (agree_check _).bind fun _ isProcedure same => ?_
    subst same
    refine agree_ite Iff.rfl (fun _ => one (agree_procedure each)) fun _ => ?_
    refine (agree_check _).bind fun _ isFunction same => ?_
    subst same
    exact agree_ite Iff.rfl (fun _ => one (agree_function each)) fun _ => agree_pure .none
  exact (agree_manyOf sections).bind fun _ _ alike => agree_pure (List.rel_flatten alike)

theorem agree_routineBodyIn (room : Nat) :
    c.Agree c.Blocks (routineBodyIn room) (routineBodyIn room) := by
  induction room with
  | zero => exact agree_reject _
  | succ room ih =>
    refine agree_peek.bind fun start start' same => ?_
    refine (agree_declarations ih).bind fun declared declared' alike => ?_
    exact agree_block (agree_statementIn room) alike (.some (starts_of_tokens same))

end Declarations

/-! ## Programs -/

theorem agree_programIn (room : Nat) :
    c.Agree c.Programs (Recognizer.programIn room) (Recognizer.programIn room) := by
  refine agree_peek.bind fun start start' same => ?_
  refine (agree_expectKeyword (by decide) _).bind fun _ _ _ => ?_
  refine (agree_expect _ _).bind fun t t' name => (agree_expect _ _).bind fun _ _ _ => ?_
  refine (agree_declarations (agree_routineBodyIn _)).bind fun declared declared' alike => ?_
  refine (agree_block (agree_statementIn _) .nil .none).bind fun b b' content => ?_
  refine (agree_expect _ _).bind fun _ _ _ => ?_
  refine (agree_since (starts_of_tokens same)).bind fun span span' spans => ?_
  refine agree_atEnd.bind fun _ ended again => ?_
  subst again
  have yielded : c.Programs ⟨t.value, declared, b.statements, span⟩
      ⟨t'.value, declared', b'.statements, span'⟩ := by
    have items : b'.statements.map (Statement.relabelled c.labels) =
        b.statements.map (Statement.relabelled c.labels) := congrArg Block.statements content
    rw [Programs, Program.relabelled, Program.relabelled]
    simp only [value_eq name.1 name.2 (by decide), map_eq_of_forall₂ alike, items]
    rw [spans]
  exact agree_ite Iff.rfl
    (fun _ => Agree.bind (W := fun _ _ => True) (agree_reject _) fun _ _ _ => agree_pure yielded)
    fun _ => agree_pure yielded

/-- **The recognizer of programs agrees with itself** on corresponding streams, which have
equally many levels left. -/
theorem agree_program : c.Agree c.Programs Recognizer.program Recognizer.program := by
  intro s s' streams
  rw [Recognizer.program_run, Recognizer.program_run, streams.depth]
  exact agree_programIn _ s s' streams

end Correspondence

/-- **Two streams that correspond** hold programs that are relabelled alike, or are refused
with corresponding faults. -/
theorem Correspondence.ofStream (c : Correspondence) {s s' : TokenStream} (streams : c.Streams s s') :
    (∃ p p', Program.ofStream s = .ok p ∧ Program.ofStream s' = .ok p' ∧ c.Programs p p') ∨
    ∃ fault fault', Program.ofStream s = .error fault ∧ Program.ofStream s' = .error fault' ∧
      c.Faults fault fault' := by
  have results := agree_program s s' streams
  unfold Program.ofStream
  generalize Recognizer.program s = first at results
  generalize Recognizer.program s' = second at results
  cases results with
  | ok values _ => exact .inl ⟨_, _, rfl, rfl, values⟩
  | error faults => exact .inr ⟨_, _, rfl, rfl, faults⟩

end PascalFront
