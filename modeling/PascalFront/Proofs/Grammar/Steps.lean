import PascalFront.Proofs.Grammar.ReadsProgram
/-!
# Recognizers are put together from steps

A recognizer looks at the next token or the one behind it, takes tokens, asks for a
span, refuses a token, and goes on with what it has found. A property that each of these
steps has, and that goes from two recognizers to the one behind the other and from the item
of a loop to the loop, is one of every recognizer that is handed the levels that are left
(`KeptBySteps.programIn`). If it also outlasts the opening and closing of a level, it is one
of those that count them (`KeptBySteps.program`).

A loop comes to an end because its items make progress. That they do is known
from what they read, so a property has to be kept only by loops of such items. A
property that is judged from one state of the stream on, step by step, is kept by
them (`KeptFrom.keptBySteps`).
-/

namespace PascalFront

open Grammar

namespace Recognizer

/-- **A property of recognizers is kept by the steps** that they are put together
from. -/
structure KeptBySteps (P : (α : Type) → Recognizer α → Prop) : Prop where
  /-- Yielding something. -/
  pure : ∀ {α : Type} (a : α), P α (Pure.pure a)
  /-- One step after the other. -/
  bind : ∀ {α β : Type} {r : Recognizer β} {next : β → Recognizer α},
    P β r → (∀ b, P α (next b)) → P α (r >>= next)
  /-- Looking at the next token, or at the one behind it. -/
  peekAt : ∀ count ≤ 1, P Token (Recognizer.peekAt count)
  /-- Taking a token. -/
  advance : P Token Recognizer.advance
  /-- The span up to the token taken last. -/
  since : ∀ start, P Span (Recognizer.since start)
  /-- Refusing a token. -/
  refuse : ∀ {α : Type} (complaint : Complaint) (t : Token), P α (Recognizer.refuse complaint t)
  /-- A loop whose items make progress. -/
  many : ∀ {σ α : Type} {item : σ → Recognizer (Option (α × σ))}, Progresses item →
    (∀ state, P _ (item state)) → ∀ state, P _ (Recognizer.many item state)

/-- **A property of recognizers at a state of the stream is kept from there on**: by
each step, and by one step after the other if the second has it wherever the first
one leaves the stream. -/
structure KeptFrom (At : (α : Type) → Recognizer α → TokenStream → Prop) : Prop where
  /-- Yielding something. -/
  pure : ∀ {α : Type} (a : α) (s : TokenStream), At α (Pure.pure a) s
  /-- One step after the other. -/
  bind : ∀ {α β : Type} {r : Recognizer β} {next : β → Recognizer α} {s : TokenStream},
    At β r s → (∀ b s', r s = .ok b s' → At α (next b) s') → At α (r >>= next) s
  /-- Looking at the next token, or at the one behind it. -/
  peekAt : ∀ count ≤ 1, ∀ s, At Token (Recognizer.peekAt count) s
  /-- Taking a token. -/
  advance : ∀ s, At Token Recognizer.advance s
  /-- The span up to the token taken last. -/
  since : ∀ start s, At Span (Recognizer.since start) s
  /-- Refusing a token. -/
  refuse : ∀ {α : Type} (complaint : Complaint) (t : Token) (s : TokenStream),
    At α (Recognizer.refuse complaint t) s

/-- **A loop keeps what its item keeps**, by induction on the number of tokens
ahead. -/
theorem KeptFrom.many {At : (α : Type) → Recognizer α → TokenStream → Prop} (keeps : KeptFrom At)
    {σ α : Type} {item : σ → Recognizer (Option (α × σ))} (progress : Progresses item)
    (each : ∀ state s, At _ (item state) s) (state : σ) (s : TokenStream) :
    At _ (Recognizer.many item state) s := by
  induction length : s.ahead.length using Nat.strongRecOn generalizing s state with
  | _ _ ih =>
    subst length
    rw [many_eq progress]
    refine keeps.bind (each state s) fun found s' run => ?_
    cases found with
    | none => exact keeps.pure _ s'
    | some found =>
      have fewer := progress state s found.1 found.2 s' run
      exact keeps.bind (ih _ fewer found.2 s' rfl) fun others s'' _ => keeps.pure _ s''

/-- What is kept from every state on is kept by the steps. -/
theorem KeptFrom.keptBySteps {At : (α : Type) → Recognizer α → TokenStream → Prop}
    (keeps : KeptFrom At) : KeptBySteps fun α r => ∀ s, At α r s where
  pure := keeps.pure
  bind first behind s := keeps.bind (first s) fun b s' _ => behind b s'
  peekAt := keeps.peekAt
  advance := keeps.advance
  since := keeps.since
  refuse := keeps.refuse
  many := keeps.many

/-- **A recognizer goes forward**: it leaves no more tokens ahead than there were. -/
def Forward {α : Type} (r : Recognizer α) : Prop :=
  ∀ s a s', r s = .ok a s' → s'.ahead.length ≤ s.ahead.length

/-- What is recognized behind the word that a program starts with. -/
def behindKeyword (body : Recognizer Block) (inner : Recognizer Statement) (start : Token) :
    Recognizer Program := do
  let name ← expect .identifier (.missing .programName)
  let _ ← expect .semicolon (.missing .semicolonAfterProgramName)
  let declared ← declarations body
  let content ← block inner [] none
  let _ ← expect .dot (.missing .dotAtEnd)
  let span ← since start.startPosition
  if !(← atEnd) then reject (.missing .endAfterDot)
  return ⟨name.value, declared, content.statements, span⟩

/-- A program is the word `program` and what comes behind it. -/
theorem programBy_eq (body : Recognizer Block) (inner : Recognizer Statement) :
    programBy body inner = (do
      let start ← peek
      let _ ← expectKeyword .programKeyword "program"
      behindKeyword body inner start) :=
  rfl

namespace KeptBySteps

variable {P : (α : Type) → Recognizer α → Prop} {α : Type} {room : Nat}

/-- One of two recognizers. -/
theorem ite {c : Prop} [Decidable c] {r r' : Recognizer α} (yes : P α r) (no : P α r') :
    P α (if c then r else r') := by
  split
  · exact yes
  · exact no

variable (keeps : KeptBySteps P)

include keeps

/-! ## Primitive recognizers -/

theorem peek : P _ peek := keeps.peekAt 0 (Nat.zero_le 1)

theorem atEnd : P _ atEnd := keeps.bind keeps.peek fun _ => keeps.pure _

theorem check (kind : Kind) : P _ (check kind) := keeps.bind keeps.peek fun _ => keeps.pure _

theorem accept (kind : Kind) : P _ (accept kind) :=
  keeps.bind (keeps.check kind) fun _ => ite (keeps.bind keeps.advance fun _ => keeps.pure _)
    (keeps.pure _)

theorem acceptAny (kinds : List Kind) : P _ (acceptAny kinds) := by
  induction kinds with
  | nil => exact keeps.pure _
  | cons kind others ih =>
    exact keeps.bind (keeps.accept kind) fun _ => ite (keeps.pure _) ih

theorem reject (complaint : Complaint) : P α (reject complaint) :=
  keeps.bind keeps.peek fun t => keeps.refuse complaint t

theorem expect (kind : Kind) (complaint : Complaint) : P _ (expect kind complaint) :=
  keeps.bind (keeps.check kind) fun _ => ite keeps.advance (keeps.reject complaint)

theorem expectKeyword (kind : Kind) (word : String) : P _ (expectKeyword kind word) :=
  keeps.bind keeps.peek fun _ => ite keeps.advance (keeps.reject _)

/-- A loop without a state. -/
theorem manyOf {item : Recognizer (Option α)}
    (progress : ∀ s a s', item s = .ok (some a) s' → s'.ahead.length < s.ahead.length)
    (each : P _ item) : P _ (manyOf item) :=
  keeps.many (.stateless progress) (fun _ => keeps.bind each fun _ => keeps.pure _) ()

/-- Items with separators between them. -/
theorem separated {separator : Kind} {item : Recognizer α} (forward : Forward item)
    (each : P _ item) : P _ (separated separator item) :=
  keeps.bind each fun _ => keeps.bind (keeps.manyOf (behindSeparator_progresses forward)
    (keeps.bind (keeps.accept separator) fun _ =>
      ite (keeps.bind each fun _ => keeps.pure _) (keeps.pure _)))
    fun _ => keeps.pure _

/-! ## Expressions -/

section Expressions

variable {inner : Nat → Recognizer Expr} {value : Recognizer Expr}

theorem arguments (forward : Forward value) (each : P _ value) : P _ (arguments value) := by
  have items : P _ (Recognizer.separated .comma value) := keeps.separated forward each
  refine keeps.bind (keeps.accept _) fun _ => ite (keeps.pure _) ?_
  exact keeps.bind items fun _ => keeps.bind (keeps.expect _ _) fun _ => keeps.pure _

theorem operand (forward : Forward (inner 0)) (whole : P _ (inner 0))
    (sign : P _ (inner Kind.signRank)) : P _ (operand inner) := by
  refine keeps.bind keeps.peek fun t => ?_
  split
  case h_1 | h_2 =>
    refine keeps.bind keeps.advance fun _ => keeps.bind sign fun _ => ?_
    exact keeps.bind (keeps.since _) fun _ => keeps.pure _
  case h_3 =>
    refine keeps.bind keeps.advance fun _ => ?_
    unfold numberLiteral
    split
    · exact keeps.pure _
    · exact keeps.refuse _ _
  case h_4 | h_5 | h_6 => exact keeps.bind keeps.advance fun _ => keeps.pure _
  case h_7 =>
    refine keeps.bind keeps.advance fun _ => keeps.bind (keeps.accept _) fun _ => ite ?_ (keeps.pure _)
    refine keeps.bind (keeps.arguments forward whole) fun _ => ?_
    exact keeps.bind (keeps.since _) fun _ => keeps.pure _
  case h_8 =>
    refine keeps.bind keeps.advance fun _ => keeps.bind whole fun _ => ?_
    refine keeps.bind (keeps.expect _ _) fun _ => ?_
    exact keeps.bind (keeps.since _) fun _ => keeps.pure _
  case h_9 => exact keeps.reject _

theorem operation (each : ∀ rank, P _ (inner rank)) (least : Nat) (compared : Bool) :
    P _ (operation inner least compared) := by
  refine keeps.bind keeps.peek fun t => ?_
  split
  · exact keeps.pure _
  · refine ite (keeps.pure _) ?_
    refine ite (keeps.bind (keeps.refuse _ _) fun _ => ?_) ?_
    all_goals exact keeps.bind keeps.advance fun _ => keeps.bind (each _) fun _ => keeps.pure _

/-- Expressions, if those in them have the property. -/
theorem expressionBy (reads : RecognizesExpressions room inner) (each : ∀ rank, P _ (inner rank))
    (rank : Nat) : P _ (expressionBy inner rank) := by
  have forward : Forward (inner 0) := fun s _ _ => (reads.whole s).length_le
  refine keeps.bind (keeps.operand forward (each _) (each _)) fun _ => ?_
  refine keeps.bind ?_ fun _ => keeps.pure _
  exact keeps.many (operation_progresses reads rank) (keeps.operation each rank) false

/-- Expressions with some levels of nesting left. -/
theorem expressionIn (room : Nat) (rank : Nat) : P _ (expressionIn room rank) := by
  induction room generalizing rank with
  | zero => exact keeps.reject _
  | succ room ih => exact keeps.expressionBy (reads_expressionIn room) ih rank

end Expressions

/-! ## Statements -/

section Statements

variable {value : Recognizer Expr} {inner : Recognizer Statement}

theorem terminator : P _ terminator :=
  keeps.bind (keeps.check _) fun _ =>
    ite (keeps.pure _) (keeps.bind (keeps.expect _ _) fun _ => keeps.pure _)

theorem simpleStatement (reads : Recognizes .expression room value) (each : P _ value)
    (name : Token) : P _ (simpleStatement value name) := by
  have finish (s : Statement) : P _ (do Recognizer.terminator; Pure.pure s : Recognizer Statement) :=
    keeps.bind keeps.terminator fun _ => keeps.pure _
  refine keeps.bind (keeps.peekAt 1 (Nat.le_refl 1)) fun t => ?_
  split
  · refine keeps.bind ?_ finish
    refine keeps.bind keeps.advance fun _ => keeps.bind keeps.advance fun _ => ?_
    refine keeps.bind (keeps.arguments (fun s _ _ => (reads s).length_le) each) fun _ => ?_
    exact keeps.bind (keeps.since _) fun _ => keeps.pure _
  · refine keeps.bind ?_ finish
    refine keeps.bind keeps.advance fun _ => keeps.bind keeps.advance fun _ => ?_
    exact keeps.bind each fun _ => keeps.bind (keeps.since _) fun _ => keeps.pure _
  · exact keeps.bind (keeps.refuse _ _) finish

theorem conditional (values : P _ value) (each : P _ inner) : P _ (conditional value inner) := by
  rw [conditional_eq]
  refine keeps.bind keeps.advance fun _ => keeps.bind values fun _ => ?_
  refine keeps.bind (keeps.expect _ _) fun _ => keeps.bind each fun _ => ?_
  refine keeps.bind ?_ fun _ => keeps.bind (keeps.since _) fun _ => keeps.pure _
  refine keeps.bind (keeps.accept _) fun _ => ite ?_ (keeps.pure _)
  rw [map_eq_pure_bind]
  exact keeps.bind each fun _ => keeps.pure _

theorem repetition (values : P _ value) (each : P _ inner) : P _ (repetition value inner) := by
  refine keeps.bind keeps.advance fun _ => keeps.bind values fun _ => ?_
  refine keeps.bind (keeps.expect _ _) fun _ => keeps.bind each fun _ => ?_
  exact keeps.bind (keeps.since _) fun _ => keeps.pure _

theorem direction : P _ direction := by
  refine keeps.bind (keeps.accept _) fun _ => ite (keeps.pure _) ?_
  exact keeps.bind (keeps.accept _) fun _ => ite (keeps.pure _) (keeps.reject _)

theorem counting (values : P _ value) (each : P _ inner) : P _ (counting value inner) := by
  refine keeps.bind keeps.advance fun _ => keeps.bind (keeps.expect _ _) fun _ => ?_
  refine keeps.bind (keeps.expect _ _) fun _ => keeps.bind values fun _ => ?_
  refine keeps.bind keeps.direction fun _ => keeps.bind values fun _ => ?_
  refine keeps.bind (keeps.expect _ _) fun _ => keeps.bind each fun _ => ?_
  exact keeps.bind (keeps.since _) fun _ => keeps.pure _

theorem statements (reads : Recognizes (.nested .statement) room inner) (each : P _ inner) :
    P _ (statements inner) := by
  refine keeps.manyOf (reads_listedStatement reads).progress ?_
  refine keeps.bind (keeps.check _) fun _ => ite (keeps.pure _) ?_
  have found : P _ (do return some (← inner) : Recognizer (Option Statement)) :=
    keeps.bind each fun _ => keeps.pure _
  refine keeps.bind keeps.atEnd fun _ => keeps.bind (keeps.check _) fun _ => ?_
  exact ite (keeps.bind (keeps.reject _) fun _ => found) found

theorem compound (reads : Recognizes (.nested .statement) room inner) (each : P _ inner) :
    P _ (compound inner) := by
  refine keeps.bind keeps.advance fun _ => keeps.bind (keeps.statements reads each) fun _ => ?_
  refine keeps.bind (keeps.expectKeyword _ _) fun _ => keeps.bind (keeps.since _) fun _ => ?_
  exact keeps.bind (keeps.accept _) fun _ => keeps.pure _

/-- Statements, if the expressions and statements in them have the property. -/
theorem statementBy (readsValue : Recognizes .expression room value)
    (reads : Recognizes (.nested .statement) room inner) (values : P _ value) (each : P _ inner)
    (t : Token) : P _ (statementBy value inner t) := by
  unfold Recognizer.statementBy
  split
  · exact keeps.conditional values each
  · exact keeps.repetition values each
  · exact keeps.counting values each
  · exact keeps.compound reads each
  · exact keeps.simpleStatement readsValue values t
  · exact keeps.reject _

/-- Statements with some levels of nesting left. -/
theorem statementIn (room : Nat) : P _ (statementIn room) := by
  induction room with
  | zero => exact keeps.reject _
  | succ room ih =>
    exact keeps.bind keeps.peek fun t => keeps.statementBy (recognizes_expressionIn room)
      (reads_statementIn room) (keeps.expressionIn room 0) ih t

end Statements

/-! ## Declarations -/

section Declarations

variable {body : Recognizer Block}

theorem names (wanted : Wanted) : P _ (names wanted) := by
  have reads : Recognizes .name 0 (Recognizer.expect .identifier (.missing wanted)) := reads_name _
  exact keeps.separated (fun s _ _ => (reads s).length_le) (keeps.expect _ _)

theorem typeName : P _ typeName :=
  keeps.bind keeps.peek fun _ => ite keeps.advance (keeps.reject _)

theorem variableGroup : P _ variableGroup := by
  refine keeps.bind (keeps.names _) fun _ => keeps.bind (keeps.expect _ _) fun _ => ?_
  exact keeps.bind keeps.typeName fun _ => keeps.bind (keeps.expect _ _) fun _ => keeps.pure _

theorem variableSection : P _ variableSection := by
  have reads : RecognizesMore .variableGroup 0 moreVariables := reads_moreVariables
  have more : P _ (Recognizer.manyOf moreVariables) := keeps.manyOf reads.progress
    (keeps.bind (keeps.check _) fun _ =>
      ite (keeps.bind keeps.variableGroup fun _ => keeps.pure _) (keeps.pure _))
  refine keeps.bind keeps.advance fun _ => keeps.bind keeps.variableGroup fun _ => ?_
  exact keeps.bind more fun _ => keeps.pure _

theorem parameterGroup : P _ parameterGroup := by
  refine keeps.bind keeps.peek fun _ => keeps.bind (keeps.accept _) fun _ => ?_
  refine keeps.bind (keeps.names _) fun _ => keeps.bind (keeps.expect _ _) fun _ => ?_
  exact keeps.bind keeps.typeName fun _ => keeps.pure _

theorem parameters : P _ parameters := by
  have reads : Recognizes .parameterGroup 0 Recognizer.parameterGroup := reads_parameterGroup
  have groups : P _ (Recognizer.separated .semicolon Recognizer.parameterGroup) :=
    keeps.separated (fun s _ _ => (reads s).length_le) keeps.parameterGroup
  refine keeps.bind (keeps.accept _) fun _ => ite (keeps.pure _) ?_
  refine keeps.bind (keeps.accept _) fun _ => ite (keeps.pure _) ?_
  exact keeps.bind groups fun _ => keeps.bind (keeps.expect _ _) fun _ => keeps.pure _

theorem block {inner : Recognizer Statement} (reads : Recognizes (.nested .statement) room inner)
    (each : P _ inner) (declared : List Declaration) (start : Option Position) :
    P _ (block inner declared start) := by
  refine keeps.bind (keeps.expectKeyword _ _) fun _ => ?_
  refine keeps.bind (keeps.statements reads each) fun _ => ?_
  exact keeps.bind (keeps.expectKeyword _ _) fun _ => keeps.bind (keeps.since _) fun _ => keeps.pure _

theorem procedure (each : P _ body) : P _ (procedure body) := by
  refine keeps.bind keeps.advance fun _ => keeps.bind (keeps.expect _ _) fun _ => ?_
  refine keeps.bind keeps.parameters fun _ => keeps.bind (keeps.expect _ _) fun _ => ?_
  refine keeps.bind each fun _ => keeps.bind (keeps.expect _ _) fun _ => ?_
  exact keeps.bind (keeps.since _) fun _ => keeps.pure _

theorem function (each : P _ body) : P _ (function body) := by
  refine keeps.bind keeps.advance fun _ => keeps.bind (keeps.expect _ _) fun _ => ?_
  refine keeps.bind keeps.parameters fun _ => keeps.bind (keeps.expect _ _) fun _ => ?_
  refine keeps.bind keeps.typeName fun _ => keeps.bind (keeps.expect _ _) fun _ => ?_
  refine keeps.bind each fun _ => keeps.bind (keeps.expect _ _) fun _ => ?_
  exact keeps.bind (keeps.since _) fun _ => keeps.pure _

theorem declarations (reads : Recognizes (.nested .routineBody) room body) (each : P _ body) :
    P _ (declarations body) := by
  refine keeps.bind (keeps.manyOf (reads_declarationSection reads).progress ?_) fun _ => keeps.pure _
  refine keeps.bind (keeps.check _) fun _ =>
    ite (keeps.bind keeps.variableSection fun _ => keeps.pure _) ?_
  refine keeps.bind (keeps.check _) fun _ =>
    ite (keeps.bind (keeps.procedure each) fun _ => keeps.pure _) ?_
  exact keeps.bind (keeps.check _) fun _ =>
    ite (keeps.bind (keeps.function each) fun _ => keeps.pure _) (keeps.pure _)

/-- Bodies of routines, if those and the statements in them have the property. -/
theorem routineBodyBy {inner : Recognizer Statement}
    (readsBody : Recognizes (.nested .routineBody) room body)
    (reads : Recognizes (.nested .statement) room inner) (bodies : P _ body) (each : P _ inner)
    (start : Token) : P _ (routineBodyBy body inner start) :=
  keeps.bind (keeps.declarations readsBody bodies) fun _ => keeps.block reads each _ _

/-- Bodies of routines with some levels of nesting left. -/
theorem routineBodyIn (room : Nat) : P _ (routineBodyIn room) := by
  induction room with
  | zero => exact keeps.reject _
  | succ room ih =>
    exact keeps.bind keeps.peek fun start => keeps.routineBodyBy (reads_routineBodyIn room)
      (reads_statementIn room) ih (keeps.statementIn room) start

end Declarations

/-! ## Programs -/

section Programs

variable {body : Recognizer Block} {inner : Recognizer Statement}

/-- What comes behind the word `program`. -/
theorem behindKeyword (readsBody : Recognizes (.nested .routineBody) room body)
    (reads : Recognizes (.nested .statement) room inner) (bodies : P _ body) (each : P _ inner)
    (start : Token) : P _ (behindKeyword body inner start) := by
  refine keeps.bind (keeps.expect _ _) fun _ => keeps.bind (keeps.expect _ _) fun _ => ?_
  refine keeps.bind (keeps.declarations readsBody bodies) fun _ => ?_
  refine keeps.bind (keeps.block reads each _ _) fun _ => ?_
  refine keeps.bind (keeps.expect _ _) fun _ => keeps.bind (keeps.since _) fun _ => ?_
  refine keeps.bind keeps.atEnd fun _ => ?_
  exact ite (keeps.bind (keeps.reject _) fun _ => keeps.pure _) (keeps.pure _)

/-- Programs, if what is nested in them has the property. -/
theorem programBy (readsBody : Recognizes (.nested .routineBody) room body)
    (reads : Recognizes (.nested .statement) room inner) (bodies : P _ body) (each : P _ inner) :
    P _ (programBy body inner) :=
  keeps.bind keeps.peek fun start => keeps.bind (keeps.expectKeyword _ _) fun _ =>
    keeps.behindKeyword readsBody reads bodies each start

/-- **Every property that the steps keep is one of the recognizer of programs**, with any
number of levels of nesting left. -/
theorem programIn (room : Nat) : P _ (programIn room) :=
  keeps.programBy (reads_routineBodyIn room) (reads_statementIn room) (keeps.routineBodyIn room)
    (keeps.statementIn room)

end Programs

/-! ## Counting levels -/

section Levels

variable (opens : ∀ {α : Type} {r : Recognizer α}, P α r → P α (nested r))

include opens

/-- Expressions, if the property is kept when a level is opened and closed. -/
theorem expression (calls least : Nat) : P _ (expression calls least) := by
  induction calls generalizing least with
  | zero => exact keeps.reject _
  | succ calls ih => exact opens (keeps.expressionBy (reads_expression calls) ih least)

/-- So it is with statements. -/
theorem statement (calls : Nat) : P _ (statement calls) := by
  induction calls with
  | zero => exact keeps.reject _
  | succ calls ih =>
    exact keeps.bind keeps.peek fun t => opens (keeps.statementBy (reads_expression calls).whole
      (reads_statement calls) (keeps.expression opens calls 0) ih t)

/-- So it is with bodies of routines. -/
theorem routineBody (calls : Nat) : P _ (routineBody calls) := by
  induction calls with
  | zero => exact keeps.reject _
  | succ calls ih =>
    exact keeps.bind keeps.peek fun start => opens (keeps.routineBodyBy (reads_routineBody calls)
      (reads_statement calls) ih (keeps.statement opens calls) start)

/-- **Every property that the steps keep, and that is kept when a level is opened and closed,
is one of the recognizer of programs.** -/
theorem program : P _ program :=
  keeps.programBy (reads_routineBody _) (reads_statement _) (keeps.routineBody opens _)
    (keeps.statement opens _)

end Levels

end KeptBySteps

/-! ## Going forward -/

/-- Looking at one more token leaves the tokens that are ahead. -/
theorem pull_ahead {s s' : TokenStream} {t : Token} (run : pull s = .ok t s') : s'.ahead = s.ahead := by
  rw [pull_run] at run
  split at run
  case h_1 last final =>
    obtain ⟨-, rfl⟩ := EStateM.Result.ok.inj run
    obtain ⟨last_, isEnd⟩ := Option.filter_eq_some_iff.1 final
    obtain ⟨others, buffer⟩ := List.getLast?_eq_some_iff.1 last_
    simp [TokenStream.ahead, buffer, List.takeWhile_append, isEnd]
  case h_2 =>
    split at run
    case h_1 t rest pending =>
      obtain ⟨-, rfl⟩ := EStateM.Result.ok.inj run
      simp [TokenStream.ahead, pending]
    case h_2 pending =>
      split at run
      case h_1 => cases run
      case h_2 =>
        obtain ⟨-, rfl⟩ := EStateM.Result.ok.inj run
        -- The end that is put there is not ahead.
        simp only [TokenStream.ahead, TokenStream.closing, pending, List.append_nil,
          List.takeWhile_append]
        split
        · rename_i whole
          rw [(List.takeWhile_prefix _).eq_of_length whole]
          exact List.append_nil _
        · rfl

/-- So does looking at more of them. -/
theorem peekAt_ahead {s s' : TokenStream} {t : Token} {count : Nat} (run : peekAt count s = .ok t s') :
    s'.ahead = s.ahead := by
  have more {count : Nat} {s : TokenStream} (run : pullMore count s = .ok t s') :
      s'.ahead = s.ahead := by
    induction count generalizing s with
    | zero => exact pull_ahead run
    | succ count ih =>
      cases first : pull s with
      | error fault s₁ =>
        rw [pullMore, bind_of_error first] at run
        cases run
      | ok t' s₁ =>
        rw [pullMore, bind_of_ok first] at run
        exact (ih run).trans (pull_ahead first)
  rw [peekAt_run] at run
  split at run
  · cases run
    rfl
  · exact more run

/-- Taking a token leaves a rest of the tokens that are ahead. -/
theorem advance_ahead {s s' : TokenStream} {t : Token} (run : advance s = .ok t s') :
    s'.ahead <:+ s.ahead := by
  have peeked := peek_spec s
  cases shown : peek s with
  | error fault s₁ =>
    rw [advance_run, shown] at run
    cases run
  | ok t₁ s₁ =>
    rw [shown] at peeked
    have again : advance s₁ = advance s := by rw [advance_run, advance_run, peek_again shown, shown]
    cases last : t₁.isEnd with
    | true =>
      rw [advance_run, shown] at run
      simp only [last, if_true] at run
      obtain ⟨-, rfl⟩ := EStateM.Result.ok.inj run
      exact ⟨[], peeked.ahead.symm⟩
    | false =>
      obtain ⟨s₂, taken, took⟩ := advance_of_peeked peeked last
      obtain ⟨-, rfl⟩ := EStateM.Result.ok.inj (run.symm.trans (again.symm.trans taken))
      exact ⟨[t₁], took.ahead.symm⟩

/-- **What holds between the states before and behind a step** holds before and behind all that
is put together from steps, if it can be passed on. -/
theorem keptBySteps_related {R : TokenStream → TokenStream → Prop}
    (same : ∀ s s', s'.ahead = s.ahead → R s s') (trans : ∀ s s' s'', R s s' → R s' s'' → R s s'')
    (took : ∀ s t s', advance s = .ok t s' → R s s') :
    KeptBySteps fun _ r => ∀ s a s', r s = .ok a s' → R s s' := by
  have keeps : KeptFrom fun α r s => ∀ a s', r s = .ok a s' → R s s' := by
    refine
      { pure := fun a s a' s' run => ?_
        bind := fun {α β r next s} first behind a s' run => ?_
        peekAt := fun count _ s t s' run => same s s' (peekAt_ahead run)
        advance := took
        since := fun start s span s' run => ?_
        refuse := fun complaint t s a s' run => by cases run }
    · cases run
      exact same s s rfl
    · obtain ⟨b, s₁, result, run⟩ := exists_of_bind run
      exact trans s s₁ s' (first b s₁ result) (behind b s₁ result a s' run)
    · cases run
      exact same s s rfl
  exact keeps.keptBySteps

/-- **Every step goes forward**, and so does what is put together from steps. -/
theorem keptBySteps_forward : KeptBySteps fun _ r => Forward r :=
  keptBySteps_related (R := fun s s' => s'.ahead.length ≤ s.ahead.length)
    (fun _ _ same => Nat.le_of_eq (congrArg _ same)) (fun _ _ _ first then_ => Nat.le_trans then_ first)
    fun _ _ _ run => (advance_ahead run).length_le

/-- Taking a token leaves no more of them. -/
theorem forward_advance : Forward advance := keptBySteps_forward.advance

end Recognizer

end PascalFront
