import PascalFront.Proofs.Grammar.Lazy
/-!
# Loops come to an end

The loops of the recognizer have no bound of their own: a round is followed by another one as
long as it has found an item (`Recognizer.Rounds`). They end because a round that finds an item
has taken a token, and the end of the input is never taken. The items of the seven loops
(`Recognizer.IsLoop`) do so whatever the tokens are, also where the end of the input is missing
or comes early, and so do the recognizers of declarations, statements and expressions
(`Recognizer.IsPart`). Hence tokens are read to the end or to the first one that is refused
(`Program.ofTokens_ends`).

A recognizer made of steps takes a token if one of the steps does and the others go forward
(`Recognizer.Consuming.bind`, `Recognizer.Consuming.behind`).
-/

namespace PascalFront

open Grammar TokenStream

/-! ## Tokens that are consumed -/

namespace TokenStream

/-- **Tokens are consumed** between two states of a stream: one or more of those ahead, and
none of them is the end of the input. -/
def Consumes (s s' : TokenStream) : Prop :=
  ∃ taken : List Token, taken ≠ [] ∧ (∀ t ∈ taken, t.isEnd = false) ∧ s.ahead = taken ++ s'.ahead

variable {s s' s'' : TokenStream} {u : List Token}

/-- Tokens that were taken have been consumed. -/
theorem Takes.consumes (took : Takes u s s') (some_ : u ≠ []) : Consumes s s' :=
  ⟨u, some_, fun _ listed => isEnd_of_mem_ahead (took.ahead ▸ List.mem_append_left _ listed),
    took.ahead⟩

/-- Fewer tokens are left. -/
theorem Consumes.length_lt (h : Consumes s s') : s'.ahead.length < s.ahead.length := by
  obtain ⟨taken, some_, -, cut⟩ := h
  have := List.length_pos_iff.2 some_
  rw [cut, List.length_append]
  omega

/-- What is consumed first has been consumed in the end. -/
theorem Consumes.before (h : Consumes s s') (rest : s''.ahead <:+ s'.ahead) : Consumes s s'' := by
  obtain ⟨taken, some_, notEnd, cut⟩ := h
  obtain ⟨more, cut'⟩ := rest
  have whole : s.ahead = (taken ++ more) ++ s''.ahead := by rw [cut, ← cut', List.append_assoc]
  refine ⟨taken ++ more, by simp [some_], fun t listed => ?_, whole⟩
  exact isEnd_of_mem_ahead (whole ▸ List.mem_append_left _ listed)

/-- What is consumed in the end has been consumed. -/
theorem Consumes.behind (rest : s'.ahead <:+ s.ahead) (h : Consumes s' s'') : Consumes s s'' := by
  obtain ⟨taken, some_, notEnd, cut⟩ := h
  obtain ⟨more, cut'⟩ := rest
  have whole : s.ahead = (more ++ taken) ++ s''.ahead := by rw [← cut', cut, List.append_assoc]
  refine ⟨more ++ taken, by simp [some_], fun t listed => ?_, whole⟩
  exact isEnd_of_mem_ahead (whole ▸ List.mem_append_left _ listed)

end TokenStream

namespace Recognizer

variable {α β σ : Type} {room : Nat} {s : TokenStream}

/-- **A recognizer leaves a rest** of the tokens ahead. -/
def LeavesRest (r : Recognizer α) : Prop := ∀ s a s', r s = .ok a s' → s'.ahead <:+ s.ahead

/-- **A recognizer consumes tokens** whenever it yields something. -/
def Consuming (r : Recognizer α) : Prop := ∀ s a s', r s = .ok a s' → Consumes s s'

/-- Every recognizer leaves a rest. -/
theorem keptBySteps_leavesRest : KeptBySteps fun _ r => LeavesRest r :=
  keptBySteps_related (R := fun s s' => s'.ahead <:+ s.ahead)
    (fun _ _ same => same ▸ List.suffix_rfl) (fun _ _ _ first then_ => then_.trans first)
    fun _ _ _ => advance_ahead

/-- So does what is nested, since levels are no tokens. -/
theorem LeavesRest.nested {r : Recognizer α} (rest : LeavesRest r) : LeavesRest (nested r) := by
  intro s a s' run
  obtain ⟨s₁, inside, rfl⟩ := exists_of_nested run
  exact rest (s.atDepth (s.depth + 1)) a s₁ inside

/-! ## Consuming step by step -/

/-- Tokens are consumed if the first step consumes some. -/
theorem Consuming.bind {r : Recognizer β} {next : β → Recognizer α} (first : Consuming r)
    (behind : ∀ b, LeavesRest (next b)) : Consuming (r >>= next) := by
  intro s a s' run
  obtain ⟨b, s₁, found, run⟩ := exists_of_bind run
  exact (first s b s₁ found).before (behind b s₁ a s' run)

/-- Tokens are consumed if those behind the first step are. -/
theorem Consuming.behind {r : Recognizer β} {next : β → Recognizer α} (first : LeavesRest r)
    (behind : ∀ b, Consuming (next b)) : Consuming (r >>= next) := by
  intro s a s' run
  obtain ⟨b, s₁, found, run⟩ := exists_of_bind run
  exact .behind (first s b s₁ found) (behind b s₁ a s' run)

/-- A recognizer of a symbol that is never empty consumes its tokens. -/
theorem Recognizes.consuming {symbol : Symbol} {r : Recognizer symbol.Value}
    (reads : Recognizes symbol room r) (filled : symbol.first?.isSome) : Consuming r := by
  intro s a s' run
  have read := reads s
  rw [run] at read
  obtain ⟨d, -, took, -⟩ := read
  exact took.consumes (d.tokens_ne_nil filled)

/-- A token that has to be there is consumed. -/
theorem consuming_expect (kind : Kind) (complaint : Complaint) :
    Consuming (expect kind complaint) := by
  intro s t s' run
  have known := expect_spec (W := fun _ => True) trivial kind complaint s
  rw [run] at known
  exact known.2.2.consumes (by simp)

/-- So is a keyword. -/
theorem consuming_expectKeyword {kind : Kind} (notEnd : kind ≠ .endOfInput) (word : String) :
    Consuming (expectKeyword kind word) := by
  intro s t s' run
  have known := expectKeyword_spec (W := fun _ => True) trivial notEnd word s
  rw [run] at known
  exact known.2.consumes (by simp)

/-! ## Loops -/

/-- **The rounds of a loop** from a state on: the loop is left when no item is found or a fault
is met; behind an item, for which tokens have been consumed, there is another round. Nothing
limits their number. -/
inductive Rounds (item : σ → Recognizer (Option (α × σ))) :
    σ → TokenStream → EStateM.Result Fault TokenStream (List α) → Prop where
  /-- There is no item. -/
  | leaves {state : σ} {s s' : TokenStream} (round : item state s = .ok none s') :
      Rounds item state s (.ok [] s')
  /-- A fault is met. -/
  | raises {state : σ} {fault : Fault} {s s' : TokenStream}
      (round : item state s = .error fault s') : Rounds item state s (.error fault s')
  /-- There is an item, and the rounds behind it find others. -/
  | further {state state' : σ} {a : α} {others : List α} {s s' s'' : TokenStream}
      (round : item state s = .ok (some (a, state')) s') (consumes : Consumes s s')
      (rest : Rounds item state' s' (.ok others s'')) : Rounds item state s (.ok (a :: others) s'')
  /-- There is an item, and a round behind it meets a fault. -/
  | raisesLater {state state' : σ} {a : α} {fault : Fault} {s s' s'' : TokenStream}
      (round : item state s = .ok (some (a, state')) s') (consumes : Consumes s s')
      (rest : Rounds item state' s' (.error fault s'')) : Rounds item state s (.error fault s'')

/-- **Every round that finds an item consumes tokens.** -/
def ConsumingRounds (item : σ → Recognizer (Option (α × σ))) : Prop :=
  ∀ state s a state' s', item state s = .ok (some (a, state')) s' → Consumes s s'

/-- **A loop comes to an end** if every round that finds an item consumes tokens, by induction
on the number of tokens ahead. -/
theorem rounds_many {item : σ → Recognizer (Option (α × σ))} (each : ConsumingRounds item)
    (state : σ) (s : TokenStream) : Rounds item state s (many item state s) := by
  have progress : Progresses item := fun state s a state' s' run =>
    (each state s a state' s' run).length_lt
  induction length : s.ahead.length using Nat.strongRecOn generalizing s state with
  | _ _ ih =>
    subst length
    rw [many_eq progress]
    cases round : item state s with
    | error fault s' =>
      rw [bind_of_error round]
      exact .raises round
    | ok found s' =>
      rw [bind_of_ok round]
      cases found with
      | none => exact .leaves round
      | some found =>
        have consumes := each state s found.1 found.2 s' round
        have rest := ih _ consumes.length_lt found.2 s' rfl
        show Rounds item state s ((many item found.2 >>= fun others => pure (found.1 :: others)) s')
        cases behind : many item found.2 s' with
        | error fault s'' =>
          rw [bind_of_error behind]
          exact .raisesLater round consumes (behind ▸ rest)
        | ok others s'' =>
          rw [bind_of_ok behind]
          exact .further round consumes (behind ▸ rest)

/-- The rounds of a loop that hands nothing from one to the next. -/
def stateless (item : Recognizer (Option α)) (_ : Unit) : Recognizer (Option (α × Unit)) :=
  return (← item).map (·, ())

/-- One more of a symbol consumes its tokens. -/
theorem RecognizesMore.consumingRounds {symbol : Symbol} {item : Recognizer (Option symbol.Value)}
    (reads : RecognizesMore symbol room item) : ConsumingRounds (stateless item) := by
  intro _ s a _ s' run
  have read := reads s
  rw [run_of_stateless run] at read
  rcases read with ⟨nothing, -⟩ | ⟨d, b, -, took, -, some_⟩
  · exact absurd nothing (by simp)
  · exact took.consumes some_

/-- An item behind a separator consumes the separator. -/
theorem consumingRounds_behindSeparator {item : Recognizer α} (rest : LeavesRest item)
    (separator : Kind) : ConsumingRounds (stateless (behindSeparator separator item)) := by
  intro _ s a _ s' run
  obtain ⟨t, s₁, took, found⟩ := run_of_behindSeparator (run_of_stateless run)
  exact (took.consumes (by simp)).before (rest s₁ a s' found)

/-- An operator with its operand consumes both. -/
theorem consumingRounds_operation {inner : Nat → Recognizer Expr}
    (each : RecognizesExpressions room inner) (least : Nat) :
    ConsumingRounds (operation inner least) := by
  intro compared s a compared' s' run
  have known := operation_spec each least compared s
  rw [run] at known
  rcases known with ⟨nothing, -⟩ | ⟨t, rank, d, right, s₁, -, -, took, takes, -⟩
  · exact absurd nothing (by simp)
  · exact (took.trans takes).consumes (by simp)

/-- **The loops of the recognizer**, each with what a round of it does. -/
inductive IsLoop : {σ α : Type} → (σ → Recognizer (Option (α × σ))) → Prop where
  /-- Declarations of a program or a routine. -/
  | declarations (calls : Nat) : IsLoop (stateless (declarationSection (routineBody calls)))
  /-- Groups of variables behind the first one of a section. -/
  | variableGroups : IsLoop (stateless moreVariables)
  /-- Names behind the first one of a group. -/
  | names (wanted : Wanted) :
      IsLoop (stateless (behindSeparator .comma (expect .identifier (.missing wanted))))
  /-- Groups of parameters behind the first one. -/
  | parameterGroups : IsLoop (stateless (behindSeparator .semicolon parameterGroup))
  /-- Statements of a block or a compound statement. -/
  | statements (calls : Nat) : IsLoop (stateless (listedStatement (statement calls)))
  /-- Arguments behind the first one. -/
  | arguments (calls : Nat) : IsLoop (stateless (behindSeparator .comma (expression calls 0)))
  /-- Operators with their right operands. -/
  | operators (calls least : Nat) : IsLoop (operation (expression calls) least)

/-- **In each of the loops** a round that finds an item consumes tokens. -/
theorem IsLoop.consumingRounds {item : σ → Recognizer (Option (α × σ))} (loop : IsLoop item) :
    ConsumingRounds item := by
  cases loop with
  | declarations calls => exact (reads_declarationSection (reads_routineBody calls)).consumingRounds
  | variableGroups =>
    have more : RecognizesMore .variableGroup 0 moreVariables := reads_moreVariables
    exact more.consumingRounds
  | names wanted =>
    exact consumingRounds_behindSeparator (keptBySteps_leavesRest.expect _ _) .comma
  | parameterGroups =>
    exact consumingRounds_behindSeparator keptBySteps_leavesRest.parameterGroup .semicolon
  | statements calls => exact (reads_listedStatement (reads_statement calls)).consumingRounds
  | arguments calls =>
    have values := keptBySteps_leavesRest.expression LeavesRest.nested calls 0
    exact consumingRounds_behindSeparator values .comma
  | operators calls least => exact consumingRounds_operation (reads_expression calls) least

/-! ## Parts of a program -/

/-- **The recognizers of declarations, statements and expressions**, and of the groups that the
loops over variables and parameters begin with. -/
inductive IsPart : {α : Type} → Recognizer α → Prop where
  /-- A section of variables. -/
  | variableSection : IsPart variableSection
  /-- Variables of one type. -/
  | variableGroup : IsPart variableGroup
  /-- A procedure. -/
  | procedure (calls : Nat) : IsPart (procedure (routineBody calls))
  /-- A function. -/
  | function (calls : Nat) : IsPart (function (routineBody calls))
  /-- Parameters of one type. -/
  | parameterGroup : IsPart parameterGroup
  /-- A statement. -/
  | statement (calls : Nat) : IsPart (statement calls)
  /-- A choice. -/
  | conditional (calls : Nat) : IsPart (conditional (expression calls 0) (statement calls))
  /-- A loop under a condition. -/
  | repetition (calls : Nat) : IsPart (repetition (expression calls 0) (statement calls))
  /-- A counting loop. -/
  | counting (calls : Nat) : IsPart (counting (expression calls 0) (statement calls))
  /-- Statements taken together. -/
  | compound (calls : Nat) : IsPart (compound (statement calls))
  /-- A call of a procedure. -/
  | callStatement (calls : Nat) : IsPart (callStatement (expression calls 0))
  /-- An assignment. -/
  | assignment (calls : Nat) : IsPart (assignment (expression calls 0))
  /-- An expression that takes operators from some rank on. -/
  | expression (calls least : Nat) : IsPart (expression calls least)
  /-- An operand. -/
  | operand (calls : Nat) : IsPart (operand (expression calls))

section Parts

open KeptBySteps

/-- A group of variables has a name. -/
theorem consuming_variableGroup : Consuming variableGroup := by
  have reads : Recognizes .variableGroup 0 variableGroup := reads_variableGroup
  exact reads.consuming rfl

/-- A section of variables has a group in it. -/
theorem consuming_variableSection : Consuming variableSection := by
  have more : RecognizesMore .variableGroup 0 moreVariables := reads_moreVariables
  have keeps := keptBySteps_leavesRest
  refine .behind keeps.advance fun _ => .bind consuming_variableGroup fun _ => ?_
  refine keeps.bind (keeps.manyOf more.progress ?_) fun _ => keeps.pure _
  exact keeps.bind (keeps.check _) fun _ =>
    ite (keeps.bind keeps.variableGroup fun _ => keeps.pure _) (keeps.pure _)

/-- A procedure has a name. -/
theorem consuming_procedure (calls : Nat) : Consuming (procedure (routineBody calls)) := by
  have keeps := keptBySteps_leavesRest
  refine .behind keeps.advance fun _ => .bind (consuming_expect _ _) fun _ => ?_
  refine keeps.bind keeps.parameters fun _ => keeps.bind (keeps.expect _ _) fun _ => ?_
  refine keeps.bind (keeps.routineBody LeavesRest.nested calls) fun _ => ?_
  refine keeps.bind (keeps.expect _ _) fun _ => ?_
  exact keeps.bind (keeps.since _) fun _ => keeps.pure _

/-- A function has a name. -/
theorem consuming_function (calls : Nat) : Consuming (function (routineBody calls)) := by
  have keeps := keptBySteps_leavesRest
  refine .behind keeps.advance fun _ => .bind (consuming_expect _ _) fun _ => ?_
  refine keeps.bind keeps.parameters fun _ => keeps.bind (keeps.expect _ _) fun _ => ?_
  refine keeps.bind keeps.typeName fun _ => keeps.bind (keeps.expect _ _) fun _ => ?_
  refine keeps.bind (keeps.routineBody LeavesRest.nested calls) fun _ => ?_
  refine keeps.bind (keeps.expect _ _) fun _ => ?_
  exact keeps.bind (keeps.since _) fun _ => keeps.pure _

/-- A choice has a branch. -/
theorem consuming_conditional {value : Recognizer Expr} {inner : Recognizer Statement}
    (values : LeavesRest value) (each : Consuming inner) (rest : LeavesRest inner) :
    Consuming (conditional value inner) := by
  have keeps := keptBySteps_leavesRest
  rw [conditional_eq]
  refine .behind keeps.advance fun _ => .behind values fun _ => ?_
  refine .behind (keeps.expect _ _) fun _ => .bind each fun _ => ?_
  refine keeps.bind ?_ fun _ => keeps.bind (keeps.since _) fun _ => keeps.pure _
  refine keeps.bind (keeps.accept _) fun _ => ite ?_ (keeps.pure _)
  rw [map_eq_pure_bind]
  exact keeps.bind rest fun _ => keeps.pure _

/-- A loop under a condition has a body. -/
theorem consuming_repetition {value : Recognizer Expr} {inner : Recognizer Statement}
    (values : LeavesRest value) (each : Consuming inner) : Consuming (repetition value inner) := by
  have keeps := keptBySteps_leavesRest
  refine .behind keeps.advance fun _ => .behind values fun _ => ?_
  refine .behind (keeps.expect _ _) fun _ => .bind each fun _ => ?_
  exact keeps.bind (keeps.since _) fun _ => keeps.pure _

/-- A counting loop has a body. -/
theorem consuming_counting {value : Recognizer Expr} {inner : Recognizer Statement}
    (values : LeavesRest value) (each : Consuming inner) : Consuming (counting value inner) := by
  have keeps := keptBySteps_leavesRest
  refine .behind keeps.advance fun _ => .behind (keeps.expect _ _) fun _ => ?_
  refine .behind (keeps.expect _ _) fun _ => .behind values fun _ => ?_
  refine .behind keeps.direction fun _ => .behind values fun _ => ?_
  refine .behind (keeps.expect _ _) fun _ => .bind each fun _ => ?_
  exact keeps.bind (keeps.since _) fun _ => keeps.pure _

/-- Statements taken together end with a word. -/
theorem consuming_compound (calls : Nat) : Consuming (compound (statement calls)) := by
  have keeps := keptBySteps_leavesRest
  have each := keeps.statement LeavesRest.nested calls
  have listed := keeps.statements (reads_statement calls) each
  refine .behind keeps.advance fun _ => .behind listed fun _ => ?_
  refine .bind (consuming_expectKeyword (by decide) _) fun _ => ?_
  exact keeps.bind (keeps.since _) fun _ => keeps.bind (keeps.accept _) fun _ => keeps.pure _

/-- A call of a procedure has a closing parenthesis. -/
theorem consuming_callStatement (calls : Nat) : Consuming (callStatement (expression calls 0)) := by
  have keeps := keptBySteps_leavesRest
  have items : Consuming (arguments (expression calls 0)) :=
    (reads_arguments (reads_expression calls).whole).consuming rfl
  refine .behind keeps.advance fun _ => .behind keeps.advance fun _ => .bind items fun _ => ?_
  exact keeps.bind (keeps.since _) fun _ => keeps.pure _

/-- An assignment has a value. -/
theorem consuming_assignment {value : Recognizer Expr} (values : Consuming value) :
    Consuming (assignment value) := by
  have keeps := keptBySteps_leavesRest
  refine .behind keeps.advance fun _ => .behind keeps.advance fun _ => .bind values fun _ => ?_
  exact keeps.bind (keeps.since _) fun _ => keeps.pure _

/-- An operand is never empty. -/
theorem consuming_operand {inner : Nat → Recognizer Expr} (each : RecognizesExpressions room inner) :
    Consuming (operand inner) :=
  (reads_operand each).consuming rfl

/-- An expression has an operand. -/
theorem consuming_expressionBy {inner : Nat → Recognizer Expr}
    (each : RecognizesExpressions room inner) (rest : ∀ least, LeavesRest (inner least))
    (least : Nat) : Consuming (expressionBy inner least) := by
  have keeps := keptBySteps_leavesRest
  refine .bind (consuming_operand each) fun _ => keeps.bind ?_ fun _ => keeps.pure _
  exact keeps.many (operation_progresses each least) (keeps.operation rest least) false

/-- So it has on each level. -/
theorem consuming_expression (calls least : Nat) : Consuming (expression calls least) := by
  intro s a s' run
  rw [expression_run] at run
  cases left : levelsLeft calls s.depth with
  | zero =>
    rw [left] at run
    obtain ⟨_, _, -, ⟨⟩⟩ := exists_of_bind run
  | succ room =>
    rw [left] at run
    exact consuming_expressionBy (reads_expressionIn room) (keptBySteps_leavesRest.expressionIn room)
      least s a s' run

/-- **Each of the parts consumes tokens** from every state of the stream. -/
theorem IsPart.consuming {r : Recognizer α} (part : IsPart r) : Consuming r := by
  have leaves := keptBySteps_leavesRest
  have values (calls : Nat) : LeavesRest (Recognizer.expression calls 0) :=
    leaves.expression LeavesRest.nested calls 0
  have statements (calls : Nat) : Consuming (Recognizer.statement calls) :=
    (reads_statement calls).consuming rfl
  cases part with
  | variableSection => exact consuming_variableSection
  | variableGroup => exact consuming_variableGroup
  | procedure calls => exact consuming_procedure calls
  | function calls => exact consuming_function calls
  | parameterGroup =>
    have reads : Recognizes .parameterGroup 0 Recognizer.parameterGroup := reads_parameterGroup
    exact reads.consuming rfl
  | statement calls => exact statements calls
  | conditional calls =>
    exact consuming_conditional (values calls) (statements calls)
      (leaves.statement LeavesRest.nested calls)
  | repetition calls => exact consuming_repetition (values calls) (statements calls)
  | counting calls => exact consuming_counting (values calls) (statements calls)
  | compound calls => exact consuming_compound calls
  | callStatement calls => exact consuming_callStatement calls
  | assignment calls => exact consuming_assignment (consuming_expression calls 0)
  | expression calls least => exact consuming_expression calls least
  | operand calls => exact consuming_operand (reads_expression calls)

end Parts

end Recognizer

namespace Program

open Recognizer

/-- **Reading tokens comes to an end, and every loop makes progress.** Whatever the tokens are,
they hold a program or a token is refused. Each of the loops, from any state on, is left or
meets a fault after finitely many rounds, and each round before that has consumed tokens. And
each recognizer of a declaration, a statement or an expression has consumed tokens when it
yields something. -/
theorem ofTokens_ends :
    (∀ tokens, (∃ p, ofTokens tokens = .ok p) ∨
      ∃ complaint place, ofTokens tokens = .error (.grammatical complaint (some place))) ∧
    (∀ {σ α : Type} {item : σ → Recognizer (Option (α × σ))}, IsLoop item →
      ∀ state s, Rounds item state s (many item state s)) ∧
    (∀ {α : Type} {r : Recognizer α}, IsPart r →
      ∀ s a s', r s = .ok a s' → Consumes s s') := by
  refine ⟨fun tokens => ?_, fun loop => rounds_many loop.consumingRounds, IsPart.consuming⟩
  cases run : Recognizer.program (.ofTokens tokens) with
  | ok p s' => exact .inl ⟨p, by rw [ofTokens, ofStream, run]⟩
  | error fault s' =>
    rcases program_complains rfl run with met | ⟨complaint, t, rfl, -⟩
    · simp only [TokenStream.ending, TokenStream.ofTokens] at met
      split at met <;> simp_all
    · exact .inr ⟨complaint, t.span, by rw [ofTokens, ofStream, run]⟩

/-- Names behind the first one, where the end of the input comes before the last of them; and a
statement without an end of the input. -/
theorem ofTokens_ends_early :
    (∃ s, Rounds (stateless (behindSeparator .comma (expect .identifier (.missing .variableName)))) ()
      (.ofTokens [⟨.comma, ",", none, none⟩, ⟨.identifier, "b", none, none⟩, .endAt none,
        ⟨.comma, ",", none, none⟩, ⟨.identifier, "c", none, none⟩])
      (.ok [⟨.identifier, "b", none, none⟩] s)) ∧
    ∃ s, Consumes (.ofTokens [⟨.beginKeyword, "begin", none, none⟩, ⟨.endKeyword, "end", none, none⟩])
      s := by
  obtain ⟨-, loops, parts⟩ := ofTokens_ends
  exact ⟨⟨_, loops (.names .variableName) () _⟩, ⟨_, parts (.statement 1) _ _ _ rfl⟩⟩

end Program

end PascalFront
