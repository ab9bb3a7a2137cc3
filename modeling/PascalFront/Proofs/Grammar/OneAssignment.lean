import PascalFront.Proofs.Grammar.AcceptsProgram
/-!
# Programs of one assignment

A program whose only statement gives an expression to a variable is the smallest
frame around an expression. The recognizer goes through its tokens one by one; what
it yields has the expression as the value of that statement.
-/

namespace PascalFront.Recognizer

open Grammar TokenStream

variable {s : TokenStream} {w : List Token}

/-- **A recognizer of a value** finds one with a property where some tokens are in
front, and stops before the others. -/
def FindsValue (Like : Expr → Prop) (u w : List Token) (value : Recognizer Expr) : Prop :=
  ∀ s, Holds (u ++ w) s → ∃ e s', value s = .ok e s' ∧ Holds w s' ∧ Like e

variable {Like : Expr → Prop} {value : Recognizer Expr}
  {name assign semicolon : Token} {u : List Token}

/-- An assignment is found with its semicolon. -/
theorem statementBy_assignment (inner : Recognizer Statement) (isName : name.kind = .identifier)
    (isAssign : assign.kind = .assign) (isSemicolon : semicolon.kind = .semicolon)
    (finds : FindsValue Like u (semicolon :: w) value)
    (holds : Holds (name :: assign :: (u ++ semicolon :: w)) s) :
    ∃ target e span s', (peek >>= statementBy value inner) s = .ok (.assignment target e span) s' ∧
      Holds w s' ∧ Like e := by
  obtain ⟨s₁, s₂, run₁, run₂, holds₂⟩ := peek_two_of_holds holds
  obtain ⟨s₃, run₃, holds₃⟩ := advance_of_holds holds₂
  obtain ⟨s₄, run₄, holds₄⟩ := advance_of_holds holds₃
  obtain ⟨e, s₅, run₅, holds₅, like⟩ := finds s₄ holds₄
  obtain ⟨s₆, run₆, holds₆⟩ := check_of_holds .elseKeyword (by decide) holds₅
  obtain ⟨s₇, run₇, holds₇⟩ := expect_of_holds (.missing .semicolonAfterStatement) isSemicolon
    (by decide) holds₆
  -- the semicolon may only be left out where `else` comes next
  have noElse : nextKind (semicolon :: w) ≠ .elseKeyword := by
    show semicolon.kind ≠ .elseKeyword
    rw [isSemicolon]
    decide
  rw [decide_eq_false noElse] at run₆
  rw [bind_of_ok run₁, statementBy, isName]
  dsimp only
  rw [simpleStatement, bind_of_ok run₂, isAssign]
  dsimp only
  rw [assignment, bind_assoc, bind_of_ok run₃, bind_assoc, bind_of_ok run₄, bind_assoc,
    bind_of_ok run₅, bind_assoc, bind_of_ok (since_run ..), pure_bind, terminator, bind_assoc,
    bind_of_ok run₆, if_neg (by decide), bind_assoc, bind_of_ok run₇]
  exact ⟨_, e, _, s₇, rfl, holds₇, like⟩

/-- A list of one assignment is found. -/
theorem statements_assignment {stop : Token} {room : Nat} (isName : name.kind = .identifier)
    (isAssign : assign.kind = .assign) (isSemicolon : semicolon.kind = .semicolon)
    (isStop : stop.kind = .endKeyword)
    (finds : FindsValue Like u (semicolon :: stop :: w) (expressionIn room 0))
    (holds : Holds (name :: assign :: (u ++ semicolon :: stop :: w)) s) :
    ∃ target e span s', statements (statementIn (room + 1)) s = .ok [.assignment target e span] s' ∧
      Holds (stop :: w) s' ∧ Like e := by
  have reads := reads_listedStatement (reads_statementIn (room + 1))
  have other (kind : Kind) (no : .identifier ≠ kind) :
      nextKind (name :: assign :: (u ++ semicolon :: stop :: w)) ≠ kind := by
    show name.kind ≠ kind
    rwa [isName]
  obtain ⟨s₁, run₁, holds₁⟩ := listedStatement_of_holds (statementIn (room + 1))
    (other .endOfInput (by decide)) (other .endKeyword (by decide)) (other .dot (by decide)) holds
  obtain ⟨target, e, span, s₂, run₂, holds₂, like⟩ := statementBy_assignment
    (statementIn room) isName isAssign isSemicolon finds holds₁
  -- the list goes on behind the assignment and ends at once
  obtain ⟨s₃, run₃, holds₃⟩ := @stops_listedStatement (statementIn (room + 1)) _ s₂ holds₂
    (decide_eq_true isStop)
  have first : statementIn (room + 1) s₁ = .ok (.assignment target e span) s₂ := run₂
  rw [bind_of_ok first] at run₁
  refine ⟨target, e, span, s₃, ?_, holds₃, like⟩
  rw [statements, manyOf_eq reads.progress, bind_of_ok run₁]
  show (manyOf (listedStatement (statementIn (room + 1))) >>= _) s₂ = _
  rw [manyOf_eq reads.progress, bind_assoc, bind_of_ok run₃]
  rfl

/-- **A program of one assignment is recognized**, and the value of the assignment has
the property. -/
theorem programIn_assignment {heading title separator start stop dot : Token} {room : Nat}
    (isHeading : heading.kind = .programKeyword ∧ Kind.lowered heading.value.toList = "program")
    (isTitle : title.kind = .identifier) (isSeparator : separator.kind = .semicolon)
    (isStart : start.kind = .beginKeyword ∧ Kind.lowered start.value.toList = "begin")
    (isName : name.kind = .identifier) (isAssign : assign.kind = .assign)
    (isSemicolon : semicolon.kind = .semicolon)
    (isStop : stop.kind = .endKeyword ∧ Kind.lowered stop.value.toList = "end")
    (isDot : dot.kind = .dot)
    (finds : FindsValue Like u [semicolon, stop, dot] (expressionIn room 0))
    (holds : Holds (heading :: title :: separator :: start :: name :: assign ::
      (u ++ [semicolon, stop, dot])) s) :
    ∃ p target e span s', programIn (room + 1) s = .ok p s' ∧ p.statements = [.assignment target e span] ∧
      Like e := by
  obtain ⟨t, s₁, run₁, -, -, holds₁⟩ := peek_of_holds holds
  obtain ⟨s₂, run₂, holds₂⟩ := expectKeyword_of_holds isHeading.1 isHeading.2 holds₁
  obtain ⟨s₃, run₃, holds₃⟩ := expect_of_holds (.missing .programName) isTitle (by decide) holds₂
  obtain ⟨s₄, run₄, holds₄⟩ := expect_of_holds (.missing .semicolonAfterProgramName) isSeparator
    (by decide) holds₃
  obtain ⟨s₅, run₅, holds₅⟩ := @stops_declarationSection (routineBodyIn (room + 1)) _ s₄ holds₄
    (decide_eq_true isStart.1)
  obtain ⟨s₆, run₆, holds₆⟩ := expectKeyword_of_holds isStart.1 isStart.2 holds₅
  obtain ⟨target, e, span, s₇, run₇, holds₇, like⟩ := statements_assignment isName isAssign
    isSemicolon isStop.1 finds holds₆
  obtain ⟨s₈, run₈, holds₈⟩ := expectKeyword_of_holds isStop.1 isStop.2 holds₇
  obtain ⟨s₉, run₉, holds₉⟩ := expect_of_holds (.missing .dotAtEnd) isDot (by decide) holds₈
  obtain ⟨t', s₁₀, run₁₀, isKind, -, -⟩ := peek_of_holds holds₉
  have last : t'.isEnd = true := decide_eq_true isKind
  have noDeclarations : declarations (routineBodyIn (room + 1)) s₄ = .ok [] s₅ := by
    have reads := reads_declarationSection (reads_routineBodyIn (room + 1))
    rw [declarations, manyOf_eq reads.progress, bind_assoc, bind_of_ok run₅]
    rfl
  rw [programIn, programBy, bind_of_ok run₁, bind_of_ok run₂, bind_of_ok run₃, bind_of_ok run₄,
    bind_of_ok noDeclarations, block, bind_assoc, bind_of_ok run₆, bind_assoc, bind_of_ok run₇,
    bind_assoc, bind_of_ok run₈, bind_assoc, bind_of_ok (since_run ..), pure_bind, bind_of_ok run₉,
    bind_of_ok (since_run ..), atEnd, bind_assoc, bind_of_ok run₁₀, pure_bind, last]
  exact ⟨_, target, e, span, s₁₀, rfl, rfl, like⟩

end PascalFront.Recognizer
