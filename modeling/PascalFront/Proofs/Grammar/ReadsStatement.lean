import PascalFront.Grammar.Statement
import PascalFront.Proofs.Grammar.First
import PascalFront.Proofs.Grammar.ReadsExpression
/-!
# Statements are read

The forms of statements are gone through rule by rule. Where two rules share
their first items, as a choice with one branch or two, the rule is known only
when the last item has been read or not.
-/

namespace PascalFront

open Grammar TokenStream

namespace Recognizer

variable {room : Nat} {s s₁ s' : TokenStream} {t : Token}

/-- **The semicolon of a statement is read**, or `else` comes next. -/
theorem reads_terminator : Recognizes .terminator room terminator := by
  intro s
  refine Reads.look (check_spec .elseKeyword s) ?_
  rintro yes s' ⟨t, peeked, rfl⟩
  cases fits : (!t.isEnd && decide (t.kind = .elseKeyword)) with
  | true =>
    simp only [Bool.and_eq_true, Bool.not_eq_true', decide_eq_true_eq] at fits
    refine ⟨⟨.omitted, .nil⟩, (), peeked.toTakes, ⟨rfl, Nat.zero_le _, ⟨⟨t, ?_, fits.2⟩, ?_⟩, ?_⟩, rfl⟩
    · exact peeked.head? fits.1
    · exact fun _ => trivial
    · trivial
  | false =>
    refine .of_takes peeked.toTakes (.by_rule .semicolon rfl (.expect fun t s₂ _ _ => ?_))
    exact .done ⟨(), rfl, rfl⟩

/-! ## Calls and assignments -/

/-- A call of a procedure is read. -/
theorem reads_callStatement {value : Recognizer Expr} (each : Recognizes .expression room value)
    {first : Token} (peeked : PeekedSecond first t s s₁) (isName : first.kind = .identifier)
    (isParen : t.kind = .openParen) :
    Reads .callStatement room (fun b a _ => a = b) s (callStatement value s₁) := by
  obtain ⟨s₂, s₃, run₁, took₁, run₂, took₂⟩ :=
    advance_of_peekedSecond peeked (by simp [Token.isEnd, isParen])
  rw [callStatement, bind_of_ok run₁, bind_of_ok run₂]
  refine .by_rule .callStatement rfl (.cons_token isName took₁ (.cons_token isParen took₂ ?_))
  refine .part (reads_arguments each s₃) ?_
  rintro d items _ s₄ took rfl
  rw [bind_of_ok (since_of_takes (took₁.trans (took₂.trans (took.trans (.refl s₄)))))]
  exact .done ⟨_, rfl, rfl⟩

/-- An assignment is read. -/
theorem reads_assignment {value : Recognizer Expr} (each : Recognizes .expression room value)
    {first : Token} (peeked : PeekedSecond first t s s₁) (isName : first.kind = .identifier)
    (isAssign : t.kind = .assign) :
    Reads .assignment room (fun b a _ => a = b) s (assignment value s₁) := by
  obtain ⟨s₂, s₃, run₁, took₁, run₂, took₂⟩ :=
    advance_of_peekedSecond peeked (by simp [Token.isEnd, isAssign])
  rw [assignment, bind_of_ok run₁, bind_of_ok run₂]
  refine .by_rule .assignment rfl (.cons_token isName took₁ (.cons_token isAssign took₂ ?_))
  refine .part (each s₃) ?_
  rintro d e _ s₄ took rfl
  rw [bind_of_ok (since_of_takes (took₁.trans (took₂.trans (took.trans (.refl s₄)))))]
  exact .done ⟨_, rfl, rfl⟩

/-- A name alone is a start of a statement. -/
theorem starts_name (isName : t.kind = .identifier) : Starts [.part .statement] [t] :=
  .rule .assignmentTerminated trivial <| .append (.rule .assignment trivial
    (.token isName (starts_nil _))) (starts_nil _)

/-- **A call or an assignment is read**, told apart by the token behind the
name. -/
theorem reads_simpleStatement {value : Recognizer Expr} (each : Recognizes .expression room value)
    (peeked : Peeked t s s₁) (isName : t.kind = .identifier) :
    Reads .statement room (fun b a _ => a = b) s (simpleStatement value t s₁) := by
  refine Outcome.bind (peekAt_one_spec peeked (by simp [Token.isEnd, isName]))
    (fun fault s' met => ?_) fun t' s₂ second => ?_
  · obtain ⟨front, ending⟩ := met
    exact .ended ending (front ▸ starts_name isName)
  · cases isKind : t'.kind
    case openParen =>
      refine Reads.by_rule .callTerminated rfl
        (.part (reads_callStatement each second isName isKind) ?_)
      rintro d a _ s₃ took rfl
      refine .part (reads_terminator s₃) ?_
      rintro e _ _ s₄ - -
      exact .done ⟨_, rfl, rfl⟩
    case assign =>
      refine Reads.by_rule .assignmentTerminated rfl
        (.part (reads_assignment each second isName isKind) ?_)
      rintro d a _ s₃ took rfl
      refine .part (reads_terminator s₃) ?_
      rintro e _ _ s₄ - -
      exact .done ⟨_, rfl, rfl⟩
    all_goals
      exact .refused _ second.faces (starts_name isName)

/-! ## Statements with statements in them -/

/-- The word `else` and a statement, if that word comes next. -/
def alternative (inner : Recognizer Statement) : Recognizer (Option Statement) := do
  if ← accept .elseKeyword then some <$> inner else pure none

/-- **The other branch is read** if there is one. -/
theorem reads_alternative {inner : Recognizer Statement}
    (each : Recognizes (.nested .statement) room inner) :
    Recognizes .alternative room (alternative inner) := by
  intro s
  refine Reads.look (accept_spec .elseKeyword s) ?_
  rintro yes s₁ (⟨rfl, t, isElse, -, takes⟩ | ⟨rfl, t, peeked, other⟩)
  · refine .by_rule .alternative rfl (.cons_token isElse takes ?_)
    show ReadsRow _ _ _ s₁ ((some <$> inner) s₁)
    rw [map_eq_pure_bind]
    refine .part (each s₁) ?_
    rintro d elseBranch _ s₂ - rfl
    exact .done ⟨_, rfl, rfl⟩
  · refine .of_takes peeked.toTakes (.by_rule_before .noAlternative trivial rfl (.done ?_))
    refine ⟨⟨trivial, fun _ t' front => ?_⟩, _, rfl, rfl⟩
    -- the first token ahead is the one that was no `else`
    have notEnd := isEnd_of_mem_ahead (List.mem_of_mem_head? front)
    obtain ⟨more, split⟩ := List.head?_eq_some_iff.1 front
    have same := peeked.upcoming.symm.trans (upcoming_of_ahead split)
    obtain rfl := Except.ok.inj (peeked.shown.symm.trans same)
    exact other.resolve_left (by simp [notEnd])

/-- A choice ends with the other branch. -/
theorem conditional_eq (value : Recognizer Expr) (inner : Recognizer Statement) :
    conditional value inner = (do
      let start ← advance
      let condition ← value
      let _ ← expect .thenKeyword (.missing .thenAfterCondition)
      let thenBranch ← inner
      let elseBranch ← alternative inner
      return .conditional condition thenBranch elseBranch (← since start.startPosition)) := by
  simp only [conditional, alternative, bind_assoc]
  refine bind_congr fun start => bind_congr fun condition => bind_congr fun _ => ?_
  refine bind_congr fun thenBranch => bind_congr fun yes => ?_
  cases yes <;> simp

/-- A choice is read. -/
theorem reads_conditional {value : Recognizer Expr} {inner : Recognizer Statement}
    (values : Recognizes .expression room value) (each : Recognizes (.nested .statement) room inner)
    (peeked : Peeked t s s₁) (isIf : t.kind = .ifKeyword) :
    Reads .statement room (fun b a _ => a = b) s (conditional value inner s₁) := by
  rw [conditional_eq]
  refine .by_rule .conditional rfl (.advance peeked isIf fun s₂ took => ?_)
  refine .part (values s₂) ?_
  rintro d condition _ s₃ took₁ rfl
  refine .expect fun t' s₄ _ took₂ => ?_
  refine .part (each s₄) ?_
  rintro e thenBranch _ s₅ took₃ rfl
  refine .part (reads_alternative each s₅) ?_
  rintro e' elseBranch _ s₆ took₄ rfl
  have whole := took.trans (took₁.trans (took₂.trans (took₃.trans (took₄.trans (.refl s₆)))))
  rw [bind_of_ok (since_of_takes whole)]
  exact .done ⟨_, rfl, rfl⟩

/-- A loop under a condition is read. -/
theorem reads_repetition {value : Recognizer Expr} {inner : Recognizer Statement}
    (values : Recognizes .expression room value) (each : Recognizes (.nested .statement) room inner)
    (peeked : Peeked t s s₁) (isWhile : t.kind = .whileKeyword) :
    Reads .statement room (fun b a _ => a = b) s (repetition value inner s₁) := by
  refine .by_rule .repetition rfl (.advance peeked isWhile fun s₂ took => ?_)
  refine .part (values s₂) ?_
  rintro d condition _ s₃ took₁ rfl
  refine .expect fun t' s₄ _ took₂ => ?_
  refine .part (each s₄) ?_
  rintro e body _ s₅ took₃ rfl
  have whole := took.trans (took₁.trans (took₂.trans (took₃.trans (.refl s₅))))
  rw [bind_of_ok (since_of_takes whole)]
  exact .done ⟨_, rfl, rfl⟩

/-- The direction of a counting loop is read. -/
theorem reads_direction : Recognizes .direction room direction := by
  intro s
  refine Reads.look (accept_spec .toKeyword s) ?_
  rintro yes s₁ (⟨rfl, t, isTo, -, took⟩ | ⟨rfl, t, peeked, -⟩)
  · refine .by_rule .up rfl (.cons_token isTo took (.done ?_))
    exact ⟨_, rfl, rfl⟩
  · refine .of_takes peeked.toTakes (.look (accept_spec .downtoKeyword s₁) ?_)
    rintro yes s₂ (⟨rfl, t, isDownto, -, took⟩ | ⟨rfl, t, peeked', -⟩)
    · refine .by_rule .down rfl (.cons_token isDownto took (.done ?_))
      exact ⟨_, rfl, rfl⟩
    · exact .rejected _ peeked'.toTakes

/-- A counting loop is read. -/
theorem reads_counting {value : Recognizer Expr} {inner : Recognizer Statement}
    (values : Recognizes .expression room value) (each : Recognizes (.nested .statement) room inner)
    (peeked : Peeked t s s₁) (isFor : t.kind = .forKeyword) :
    Reads .statement room (fun b a _ => a = b) s (counting value inner s₁) := by
  refine .by_rule .counting rfl (.advance peeked isFor fun s₂ took => ?_)
  refine .expect fun counter s₃ _ took₁ => ?_
  refine .expect fun t₂ s₄ _ took₂ => ?_
  refine .part (values s₄) ?_
  rintro d first _ s₅ took₃ rfl
  refine .part (reads_direction s₅) ?_
  rintro w way _ s₆ took₄ rfl
  refine .part (values s₆) ?_
  rintro d' last _ s₇ took₅ rfl
  refine .expect fun t₆ s₈ _ took₆ => ?_
  refine .part (each s₈) ?_
  rintro e body _ s₉ took₇ rfl
  have whole := took.trans (took₁.trans (took₂.trans (took₃.trans (took₄.trans (took₅.trans
    (took₆.trans (took₇.trans (.refl s₉))))))))
  rw [bind_of_ok (since_of_takes whole)]
  exact .done ⟨_, rfl, rfl⟩

/-! ## Lists of statements -/

/-- **One more statement of a list is read**, unless the list ends. -/
theorem reads_listedStatement {inner : Recognizer Statement}
    (each : Recognizes (.nested .statement) room inner) :
    RecognizesMore (.nested .statement) room (listedStatement inner) := by
  intro s
  refine Outcome.bind (check_spec .endKeyword s) (fun _ _ shown => .of_upcoming shown (starts_nil _)) ?_
  rintro yes s₁ ⟨t, peeked, rfl⟩
  cases (!t.isEnd && decide (t.kind = .endKeyword)) with
  | true => exact .inl ⟨rfl, peeked.toTakes⟩
  | false =>
    have look {s' : TokenStream} (same : Takes [] s s') (fault : Fault) (s'' : TokenStream)
        (shown : s'.upcoming = .error fault) :
        Stopped (Starts [.part (.nested .statement)]) s s'' fault :=
      .of_upcoming (same.upcoming.symm.trans shown) (starts_nil _)
    show Outcome _ _ ((atEnd >>= _) s₁)
    rw [atEnd, bind_assoc]
    refine Outcome.bind (peek_spec s₁) (look peeked.toTakes) fun t₂ s₂ peeked₂ => ?_
    have same₂ := peeked.toTakes.trans peeked₂.toTakes
    rw [pure_bind]
    refine Outcome.bind (check_spec .dot s₂) (look same₂) ?_
    rintro yes s₃ ⟨t₃, peeked₃, rfl⟩
    have same₃ := same₂.trans peeked₃.toTakes
    have read : Outcome
        (fun found s' => (found = none ∧ Takes [] s s') ∨
          ∃ (d : Grammar.Derivation (.nested .statement)) (b : Statement), found = some b ∧
            Takes d.tokens s s' ∧ d.Yields room s'.ahead.head? b ∧ d.tokens ≠ [])
        (fun fault s' => Stopped (Starts [.part (.nested .statement)]) s s' fault)
        ((inner >>= fun a => pure (some a)) s₃) := by
      refine Outcome.bind ((each s₃).of_takes same₃) (fun _ _ => id) ?_
      rintro a s' ⟨d, _, takes, yields, rfl⟩
      exact .inr ⟨d, a, rfl, takes, yields, d.tokens_ne_nil rfl⟩
    cases (t₂.isEnd || (!t₃.isEnd && decide (t₃.kind = .dot))) with
    | false => exact read
    | true =>
      have refused : Outcome (fun (_ : Unit) _ => False)
          (fun fault s' => Stopped (Starts [.part (.nested .statement)]) s s' fault)
          (reject (.missing (.keyword "end")) s₃) :=
        (reject_spec (W := Starts [.part (.nested .statement)]) _ s₃ (starts_nil _)).mono
          (fun _ _ => id) fun _ _ stopped => stopped.behind same₃ fun _ _ => id
      show Outcome _ _ ((reject _ >>= _) s₃)
      exact Outcome.bind refused (fun _ _ => id) fun _ _ never => never.elim

/-- **The statements up to `end` are read.** -/
theorem reads_statements {inner : Recognizer Statement}
    (each : Recognizes (.nested .statement) room inner) :
    Recognizes .statements room (statements inner) :=
  reads_repeated (reads_listedStatement each)

/-- **Statements taken together are read**, with the semicolon behind them if there
is one. -/
theorem reads_compound {inner : Recognizer Statement}
    (each : Recognizes (.nested .statement) room inner) (peeked : Peeked t s s₁)
    (isBegin : t.kind = .beginKeyword) :
    Reads .statement room (fun b a _ => a = b) s (compound inner s₁) := by
  obtain ⟨s₂, run, took⟩ := advance_of_peeked peeked (by simp [Token.isEnd, isBegin])
  rw [compound, bind_of_ok run]
  refine Outcome.bind (reads_statements each s₂) (fun fault s' stopped => ?_) ?_
  · refine stopped.behind took fun u _ starts => ?_
    exact .rule .compound trivial (.token isBegin (starts.append (starts_nil _)))
  rintro items s₃ ⟨d, _, listed, yields, rfl⟩
  refine Outcome.bind (expectKeyword_spec (W := (· = [])) rfl (by decide) "end" s₃)
    (fun fault s' stopped => ?_) ?_
  · refine stopped.behind (took.trans listed) ?_
    rintro u front rfl
    rw [List.append_assoc]
    exact .rule .compound trivial (.token isBegin (.behind yields.loose front (starts_nil _)))
  rintro stop s₄ ⟨isEnd, closed⟩
  have whole := took.trans (listed.trans closed)
  have span : since t.startPosition s₄ = .ok (.between t.startPosition stop.stopPosition) s₄ := by
    rw [since_run, closed.previous]
    rfl
  rw [bind_of_ok span]
  refine Outcome.bind (accept_spec .semicolon s₄) (fun fault s' shown => ?_) ?_
  · refine Stopped.behind whole (.of_upcoming shown (W := (· = [])) rfl) ?_
    rintro u - rfl
    have isEnd' : Terminal.Fits (.word ("end", .endKeyword)) stop := isEnd
    have closing : [stop] <+: s₃.ahead := ⟨s₄.ahead, closed.ahead.symm⟩
    rw [List.append_nil]
    exact .rule .compound trivial
      (.token isBegin (.behind yields.loose closing (.token isEnd' (starts_nil _))))
  · rintro yes s₅ (⟨rfl, t', isSemicolon, -, takes⟩ | ⟨rfl, t', next, -⟩)
    · refine Reads.by_rule .compoundTerminated rfl (.cons_token isBegin took
        (.cons_part listed yields (.cons_token isEnd closed (.cons_token isSemicolon takes ?_))))
      exact .done ⟨_, rfl, rfl⟩
    · refine Reads.by_rule .compound rfl (.cons_token isBegin took
        (.cons_part listed yields (.cons_token isEnd (closed.trans next.toTakes) ?_)))
      exact .done ⟨_, rfl, rfl⟩

/-! ## All statements -/

/-- A statement is read if the expressions and statements in it are. -/
theorem reads_statementBy {value : Recognizer Expr} {inner : Recognizer Statement}
    (values : Recognizes .expression room value)
    (each : Recognizes (.nested .statement) room inner) :
    Recognizes .statement room (peek >>= statementBy value inner) := by
  intro s
  refine Reads.look (peek_spec s) fun t s₁ peeked => ?_
  rw [statementBy]
  cases isKind : t.kind
  case ifKeyword => exact reads_conditional values each peeked isKind
  case whileKeyword => exact reads_repetition values each peeked isKind
  case forKeyword => exact reads_counting values each peeked isKind
  case beginKeyword => exact reads_compound each peeked isKind
  case identifier => exact reads_simpleStatement values peeked isKind
  all_goals exact .rejected _ peeked.toTakes

/-- Expressions that take all operators they can are read. -/
theorem RecognizesExpressions.whole {inner : Nat → Recognizer Expr}
    (each : RecognizesExpressions room inner) : Recognizes .expression room (inner 0) :=
  fun s => (each 0 (by decide) s).mono fun _ _ _ => And.left

theorem recognizes_expressionIn (room : Nat) : Recognizes .expression room (expressionIn room 0) :=
  (reads_expressionIn room).whole

/-- **Statements are read** with any number of levels of nesting to spare. -/
theorem reads_statementIn (room : Nat) : Recognizes (.nested .statement) room (statementIn room) := by
  induction room with
  | zero => exact fun s => .rejected _ (.refl s)
  | succ room ih => exact fun s => (reads_statementBy (recognizes_expressionIn room) ih s).nested

/-- Where levels are counted there are no more of them than calls. -/
theorem reads_statement (calls : Nat) : Recognizes (.nested .statement) calls (statement calls) := by
  intro s
  rw [statement_run]
  exact (reads_statementIn _ s).widen (Nat.min_le_left ..)

end Recognizer

end PascalFront
