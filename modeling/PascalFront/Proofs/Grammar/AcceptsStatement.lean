import PascalFront.Proofs.Grammar.AcceptsExpression
import PascalFront.Proofs.Grammar.ReadsStatement
/-!
# Statements are accepted

A statement may be followed by anything but a semicolon, which would belong to
it. An `else` behind it is no exception: whether a choice in it could take this
`else` is a matter of where the rules are in place.
-/

namespace PascalFront

open Grammar TokenStream

namespace Recognizer

variable {room : Nat} {s s' : TokenStream} {w : List Token}

/-- **The semicolon of a statement is accepted**, also where it is left out. -/
theorem accepts_terminator : Accepts .terminator room (fun _ => true) terminator := by
  intro items rule below w s mayStand ready _
  cases rule with
  | semicolon =>
    refine .by_rule (.check (by decide) ready fun s' ready => ?_)
    rw [below.nextKind_token]
    exact .expect ready fun _ others s'' ready => .done ready
  | omitted =>
    obtain ⟨t, front, isElse⟩ := mayStand.1
    have isElse : nextKind w = .elseKeyword := by
      obtain ⟨more, rfl⟩ := List.head?_eq_some_iff.1 front
      exact isElse
    refine .by_rule (.check (by decide) ready fun s' ready => ?_)
    cases below
    rw [Forest.tokens, List.nil_append, isElse]
    exact .done ready

section Values

variable {value : Recognizer Expr}

/-! ## Calls and assignments -/

/-- A call of a procedure is accepted. -/
theorem accepts_callStatement (reads : Recognizes .expression room value)
    (accepts : Accepts .expression room (Kind.mayFollow 0) value) :
    Accepts .callStatement room (fun _ => true) (callStatement value) := by
  intro items rule below w s _ ready _
  cases rule with
  | callStatement =>
    refine .by_rule (.advance ready fun _ others s' _ ready => ?_)
    refine .advance ready fun _ others s' _ ready => ?_
    refine .part (accepts_arguments reads accepts) ready (fun _ _ => rfl) fun a others s' ready => ?_
    exact .done ready

/-- An assignment is accepted. -/
theorem accepts_assignment (accepts : Accepts .expression room (Kind.mayFollow 0) value) :
    Accepts .assignment room (Kind.mayFollow 0) (assignment value) := by
  intro items rule below w s _ ready follow
  cases rule with
  | assignment =>
    refine .by_rule (.advance ready fun _ others s' _ ready => ?_)
    refine .advance ready fun _ others s' _ ready => ?_
    refine .part accepts ready (fun others _ => ?_) fun a others s' ready => .done ready
    cases others
    exact follow

/-- Behind an assignment comes its semicolon or `else`. -/
theorem mayFollow_terminator (others : Forest [.part .terminator])
    (place : others.InPlace true w.head?) : (nextKind (others.tokens ++ w)).mayFollow 0 := by
  cases others with
  | part rule below nothing =>
    cases nothing
    cases rule with
    | semicolon =>
      cases below with
      | token t fits others =>
        have isSemicolon : t.kind = .semicolon := fits
        show t.kind.mayFollow 0
        rw [isSemicolon]
        rfl
    | omitted =>
      obtain ⟨t, front, isElse⟩ := place.1.1
      obtain ⟨more, rfl⟩ := List.head?_eq_some_iff.1 front
      cases below
      show t.kind.mayFollow 0
      rw [isElse]
      rfl

/-- A call with its semicolon is accepted. -/
theorem accepts_callTerminated (reads : Recognizes .expression room value)
    (accepts : Accepts .expression room (Kind.mayFollow 0) value) (inner : Recognizer Statement)
    {below : Forest [.part .callStatement, .part .terminator]} (ready : below.Ready w s) :
    FindsRow below room w ((peek >>= statementBy value inner) s) := by
  cases below with
  | part rule call others =>
  cases rule with
  | callStatement =>
  cases call with
  | token t isName call =>
  cases call with
  | token t' isParen call =>
    have isName : t.kind = .identifier := isName
    have isParen : t'.kind = .openParen := isParen
    obtain ⟨s₁, s₂, run, run', holds⟩ := peek_two_of_holds ready.holds
    rw [bind_of_ok run, statementBy, isName]
    dsimp only
    rw [simpleStatement, bind_of_ok run', isParen]
    refine .part (accepts_callStatement reads accepts) ⟨ready.place, holds⟩ (fun _ _ => rfl)
      fun a others s' ready => ?_
    exact .part accepts_terminator ready (fun _ _ => rfl) fun a others s' ready => .done ready

/-- An assignment with its semicolon is accepted. -/
theorem accepts_assignmentTerminated (accepts : Accepts .expression room (Kind.mayFollow 0) value)
    (inner : Recognizer Statement) {below : Forest [.part .assignment, .part .terminator]}
    (ready : below.Ready w s) : FindsRow below room w ((peek >>= statementBy value inner) s) := by
  cases below with
  | part rule target others =>
  cases rule with
  | assignment =>
  cases target with
  | token t isName target =>
  cases target with
  | token t' isAssign target =>
    have isName : t.kind = .identifier := isName
    have isAssign : t'.kind = .assign := isAssign
    obtain ⟨s₁, s₂, run, run', holds⟩ := peek_two_of_holds ready.holds
    rw [bind_of_ok run, statementBy, isName]
    dsimp only
    rw [simpleStatement, bind_of_ok run', isAssign]
    refine .part (accepts_assignment accepts) ⟨ready.place, holds⟩ mayFollow_terminator
      fun a others s' ready => ?_
    exact .part accepts_terminator ready (fun _ _ => rfl) fun a others s' ready => .done ready

end Values

/-! ## Statements with statements in them -/

section Statements

variable {value : Recognizer Expr} {inner : Recognizer Statement}

/-- The other branch is accepted where it is, and where there is none. -/
theorem accepts_alternative (each : Accepts (.nested .statement) room (· ≠ .semicolon) inner) :
    Accepts .alternative room (· ≠ .semicolon) (alternative inner) := by
  intro items rule below w s mayStand ready follow
  cases rule with
  | noAlternative =>
    have none_ : nextKind w ≠ .elseKeyword := by
      have other : ∀ t ∈ w.head?, t.kind ≠ .elseKeyword := mayStand.2 rfl
      cases w with
      | nil => decide
      | cons t more => exact other t rfl
    refine .by_rule (.skip (by decide) ready ?_ fun s' ready => .done ready)
    cases below
    exact none_
  | alternative =>
    refine .by_rule (.accept ready fun others s' ready => ?_)
    show FindsRow others room w ((some <$> inner) s')
    rw [map_eq_pure_bind]
    refine .part each ready (fun others _ => ?_) fun a others s' ready => .done ready
    cases others
    exact follow

/-- A statement may be followed by the other branch of a choice. -/
theorem follows_alternative (follow : nextKind w ≠ .semicolon)
    (others : Forest [.part .alternative]) : nextKind (others.tokens ++ w) ≠ .semicolon := by
  cases others with
  | part rule below nothing =>
    cases nothing
    cases rule with
    | noAlternative =>
      cases below
      exact follow
    | alternative =>
      rw [Forest.tokens, Forest.tokens, List.append_nil, below.nextKind_token]
      decide

/-- A choice is accepted. -/
theorem accepts_conditional (values : Accepts .expression room (Kind.mayFollow 0) value)
    (each : Accepts (.nested .statement) room (· ≠ .semicolon) inner)
    {below : Forest [.token (.kind .ifKeyword), .part .expression, .token (.kind .thenKeyword),
      .part (.nested .statement), .part .alternative]} (ready : below.Ready w s)
    (follow : nextKind w ≠ .semicolon) : FindsRow below room w (conditional value inner s) := by
  rw [conditional_eq]
  refine .advance ready fun _ others s' _ ready => ?_
  refine .part values ready (fun others _ => by rw [others.nextKind_token]; rfl)
    fun a others s' ready => ?_
  refine .expect ready fun _ others s' ready => ?_
  refine .part each ready (fun others _ => decide_eq_true (follows_alternative follow others))
    fun a others s' ready => ?_
  refine .part (accepts_alternative each) ready (fun others _ => ?_)
    fun a others s' ready => .done ready
  cases others
  exact decide_eq_true follow

/-- A loop under a condition is accepted. -/
theorem accepts_repetition (values : Accepts .expression room (Kind.mayFollow 0) value)
    (each : Accepts (.nested .statement) room (· ≠ .semicolon) inner)
    {below : Forest [.token (.kind .whileKeyword), .part .expression, .token (.kind .doKeyword),
      .part (.nested .statement)]} (ready : below.Ready w s)
    (follow : nextKind w ≠ .semicolon) : FindsRow below room w (repetition value inner s) := by
  refine .advance ready fun _ others s' _ ready => ?_
  refine .part values ready (fun others _ => by rw [others.nextKind_token]; rfl)
    fun a others s' ready => ?_
  refine .expect ready fun _ others s' ready => ?_
  refine .part each ready (fun others _ => ?_) fun a others s' ready => .done ready
  cases others
  exact decide_eq_true follow

/-- The direction of a counting loop is accepted. -/
theorem accepts_direction : Accepts .direction room (fun _ => true) direction := by
  intro items rule below w s _ ready _
  cases rule with
  | up => exact .by_rule (.accept ready fun others s' ready => .done ready)
  | down =>
    refine .by_rule (.skip (by decide) ready ?_ fun s' ready => ?_)
    · rw [below.nextKind_token]
      decide
    · exact .accept ready fun others s' ready => .done ready

/-- A counting loop is accepted. -/
theorem accepts_counting (values : Accepts .expression room (Kind.mayFollow 0) value)
    (each : Accepts (.nested .statement) room (· ≠ .semicolon) inner)
    {below : Forest [.token (.kind .forKeyword), .token (.kind .identifier),
      .token (.kind .assign), .part .expression, .part .direction, .part .expression,
      .token (.kind .doKeyword), .part (.nested .statement)]} (ready : below.Ready w s)
    (follow : nextKind w ≠ .semicolon) : FindsRow below room w (counting value inner s) := by
  refine .advance ready fun _ others s' _ ready => ?_
  refine .expect ready fun _ others s' ready => .expect ready fun _ others s' ready => ?_
  refine .part values ready (fun others _ => ?_) fun a others s' ready => ?_
  · have listed := others.nextKind_mem [.toKeyword, .downtoKeyword] ⟨_, fun _ => id, rfl⟩ w
    exact List.all_eq_true.1 (by decide) _ listed
  refine .part accepts_direction ready (fun _ _ => rfl) fun a others s' ready => ?_
  refine .part values ready (fun others _ => by rw [others.nextKind_token]; rfl)
    fun a others s' ready => ?_
  refine .expect ready fun _ others s' ready => ?_
  refine .part each ready (fun others _ => ?_) fun a others s' ready => .done ready
  cases others
  exact decide_eq_true follow

/-! ## Lists of statements -/

/-- Where a list neither ends nor is cut off its next statement is read. -/
theorem listedStatement_of_holds (inner : Recognizer Statement) (notOver : nextKind w ≠ .endOfInput)
    (notLast : nextKind w ≠ .endKeyword) (notDot : nextKind w ≠ .dot) (holds : Holds w s) :
    ∃ s', listedStatement inner s = (inner >>= fun a => pure (some a)) s' ∧ Holds w s' := by
  obtain ⟨s₁, run₁, holds₁⟩ := check_of_holds .endKeyword (by decide) holds
  obtain ⟨t, s₂, run₂, isKind, -, holds₂⟩ := peek_of_holds holds₁
  obtain ⟨s₃, run₃, holds₃⟩ := check_of_holds .dot (by decide) holds₂
  have notEnd : t.isEnd = false := decide_eq_false (isKind ▸ notOver)
  rw [decide_eq_false notLast] at run₁
  rw [decide_eq_false notDot] at run₃
  refine ⟨s₃, ?_, holds₃⟩
  rw [listedStatement, bind_of_ok run₁]
  show ((atEnd >>= _) s₁ : EStateM.Result _ _ _) = _
  rw [atEnd, bind_assoc, bind_of_ok run₂, pure_bind, bind_of_ok run₃, notEnd]
  rfl

/-- One more statement of a list is accepted where a statement begins. -/
theorem accepts_listedStatement (each : Accepts (.nested .statement) room (· ≠ .semicolon) inner) :
    AcceptsMore (.nested .statement) room (· ≠ .semicolon) (listedStatement inner) := by
  intro items rule below w s mayStand ready follow
  have listed := below.nextKind_mem statementKinds (rule.first rfl) w
  have other (kind : Kind) (unlisted : kind ∉ statementKinds) :
      nextKind (below.tokens ++ w) ≠ kind := fun same => unlisted (same ▸ listed)
  obtain ⟨s', found, holds⟩ := listedStatement_of_holds inner (other .endOfInput (by decide))
    (other .endKeyword (by decide)) (other .dot (by decide)) ready.holds
  rw [found]
  exact Outcome.bind (each _ rule below w s' mayStand ⟨ready.place, holds⟩ follow)
    (fun _ _ => id) fun a s' holds => ⟨rfl, holds⟩

/-- The list of statements stops before `end`. -/
theorem stops_listedStatement : StopsBefore (· = .endKeyword) (listedStatement inner) := by
  intro w s holds last
  obtain ⟨s', run, holds'⟩ := check_of_holds .endKeyword (by decide) holds
  refine ⟨s', ?_, holds'⟩
  rw [listedStatement, bind_of_ok run, of_decide_eq_true last]
  rfl

/-- **The statements up to `end` are accepted.** -/
theorem accepts_statements (reads : Recognizes (.nested .statement) room inner)
    (each : Accepts (.nested .statement) room (· ≠ .semicolon) inner) :
    Accepts .statements room (· = .endKeyword) (statements inner) := by
  refine accepts_repeated statementKinds (reads_listedStatement reads)
    (accepts_listedStatement each) stops_listedStatement rfl (by decide) fun kind last => ?_
  rw [of_decide_eq_true last]
  rfl

/-- Statements taken together are accepted. -/
theorem accepts_compound (reads : Recognizes (.nested .statement) room inner)
    (each : Accepts (.nested .statement) room (· ≠ .semicolon) inner)
    {below : Forest [.token (.kind .beginKeyword), .part .statements,
      .token (.word ("end", .endKeyword))]} (ready : below.Ready w s)
    (follow : nextKind w ≠ .semicolon) : FindsRow below room w (compound inner s) := by
  refine .advance ready fun _ others s' _ ready => ?_
  refine .part (accepts_statements reads each) ready (fun others _ => ?_) fun a others s' ready => ?_
  · exact decide_eq_true (others.nextKind_word w)
  refine .expectKeyword ready fun _ others s' ready => ?_
  refine .skip (by decide) ready ?_ fun s' ready => .done ready
  cases others
  exact follow

/-- Statements taken together are accepted with the semicolon behind them. -/
theorem accepts_compoundTerminated (reads : Recognizes (.nested .statement) room inner)
    (each : Accepts (.nested .statement) room (· ≠ .semicolon) inner)
    {below : Forest [.token (.kind .beginKeyword), .part .statements,
      .token (.word ("end", .endKeyword)), .token (.kind .semicolon)]} (ready : below.Ready w s) :
    FindsRow below room w (compound inner s) := by
  refine .advance ready fun _ others s' _ ready => ?_
  refine .part (accepts_statements reads each) ready (fun others _ => ?_) fun a others s' ready => ?_
  · exact decide_eq_true (others.nextKind_word w)
  refine .expectKeyword ready fun _ others s' ready => ?_
  exact .accept ready fun others s' ready => .done ready

/-! ## All statements -/

/-- A statement is accepted if the expressions and statements in it are. -/
theorem accepts_statementBy (readsValues : Recognizes .expression room value)
    (values : Accepts .expression room (Kind.mayFollow 0) value)
    (reads : Recognizes (.nested .statement) room inner)
    (each : Accepts (.nested .statement) room (· ≠ .semicolon) inner) :
    Accepts .statement room (· ≠ .semicolon) (peek >>= statementBy value inner) := by
  intro items rule below w s _ ready follow
  have follow : nextKind w ≠ .semicolon := of_decide_eq_true follow
  cases rule with
  | callTerminated => exact .by_rule (accepts_callTerminated readsValues values inner ready)
  | assignmentTerminated => exact .by_rule (accepts_assignmentTerminated values inner ready)
  | conditional =>
    refine .by_rule (.peek ready fun t s' isKind ready => ?_)
    rw [statementBy, isKind.trans (below.nextKind_token w)]
    exact accepts_conditional values each ready follow
  | repetition =>
    refine .by_rule (.peek ready fun t s' isKind ready => ?_)
    rw [statementBy, isKind.trans (below.nextKind_token w)]
    exact accepts_repetition values each ready follow
  | counting =>
    refine .by_rule (.peek ready fun t s' isKind ready => ?_)
    rw [statementBy, isKind.trans (below.nextKind_token w)]
    exact accepts_counting values each ready follow
  | compound =>
    refine .by_rule (.peek ready fun t s' isKind ready => ?_)
    rw [statementBy, isKind.trans (below.nextKind_token w)]
    exact accepts_compound reads each ready follow
  | compoundTerminated =>
    refine .by_rule (.peek ready fun t s' isKind ready => ?_)
    rw [statementBy, isKind.trans (below.nextKind_token w)]
    exact accepts_compoundTerminated reads each ready

end Statements

/-- **Statements are accepted** with any number of levels of nesting to spare. -/
theorem accepts_statementIn (room : Nat) :
    Accepts (.nested .statement) room (· ≠ .semicolon) (statementIn room) := by
  induction room with
  | zero => exact accepts_nothing
  | succ room ih =>
    exact (accepts_statementBy (recognizes_expressionIn room) (accepts_expressionIn room 0 (by decide))
      (reads_statementIn room) ih).nested

end Recognizer

end PascalFront
