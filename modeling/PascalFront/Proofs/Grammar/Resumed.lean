import PascalFront.Proofs.Grammar.PlainCursor
/-!
# A failed attempt leaves no trace

A stream may be asked for tokens, recognized up to a fault, asked again and
recognized again. The levels of nesting are counted with the stream, and the fault may
come up from many of them; but each level that was opened is closed on the way
(`Recognizer.closesLevels_nested`), so the count is what it was before. Of the tokens
a recognizer sees those ahead and the one taken last, not how many wait
in the buffer (`Recognizer.SameAt`), and it does not ask for the token taken last before
it has taken one itself (`Recognizer.program_of_regular`).

So a further attempt does what it would do on a fresh stream of the tokens that are
left (`Program.ofStream_resumed`). Only where no token is left, and the end of the input
is made up, is that end found behind the token taken last by the one and nowhere by the
other.
-/

namespace PascalFront

open TokenStream

namespace Recognizer

variable {α β : Type} {s s' s₁ s₁' : TokenStream} {t : Token} {fault : Fault}

/-! ## Levels that are closed -/

/-- **A recognizer closes the levels that it opens**, before it yields something and before
a fault leaves it. -/
def ClosesLevels (r : Recognizer α) (s : TokenStream) : Prop :=
  Outcome (fun _ s' => s'.depth = s.depth) (fun _ s' => s'.depth = s.depth) (r s)

/-- One step after the other. -/
theorem ClosesLevels.bind {r : Recognizer β} {next : β → Recognizer α} (first : ClosesLevels r s)
    (behind : ∀ b s', r s = .ok b s' → ClosesLevels (next b) s') : ClosesLevels (r >>= next) s := by
  unfold ClosesLevels at first
  cases run : r s with
  | error fault s' =>
    rw [run] at first
    rw [ClosesLevels, bind_of_error run]
    exact first
  | ok b s' =>
    rw [run] at first
    have same : s'.depth = s.depth := first
    rw [ClosesLevels, bind_of_ok run, ← same]
    exact behind b s' run

/-- Looking at one more token leaves the count of levels. -/
theorem closesLevels_pull (s : TokenStream) : ClosesLevels pull s := by
  rw [ClosesLevels, pull_run]
  split
  · rfl
  · split
    · rfl
    · split <;> rfl

/-- So does looking at a token. -/
theorem closesLevels_peekAt (count : Nat) (s : TokenStream) : ClosesLevels (peekAt count) s := by
  have more (count : Nat) : ∀ s, ClosesLevels (pullMore count) s := by
    induction count with
    | zero => exact closesLevels_pull
    | succ count ih => exact fun s => (closesLevels_pull s).bind fun _ s' _ => ih s'
  rw [ClosesLevels, peekAt_run]
  cases s.buffer[count]? with
  | some t => rfl
  | none => exact more _ s

/-- Every step leaves the count of levels. -/
theorem keptFrom_closesLevels : KeptFrom fun _ r s => ClosesLevels r s where
  pure _ _ := rfl
  bind := .bind
  peekAt count _ := closesLevels_peekAt count
  advance s := (closesLevels_peekAt 0 s).bind fun _ _ _ => rfl
  since _ _ := rfl
  refuse _ _ _ := rfl

/-- **A level is closed again in every case**: behind what is yielded in it, behind a fault
that comes up from inside of it, and where it is refused as too deep. -/
theorem closesLevels_nested {r : Recognizer α} (inside : ∀ s, ClosesLevels r s) (s : TokenStream) :
    ClosesLevels (nested r) s := by
  have refused : ClosesLevels (reject (α := α) .nestingTooDeep) (s.atDepth (s.depth + 1)) :=
    keptFrom_closesLevels.keptBySteps.reject .nestingTooDeep _
  have opened : ClosesLevels (if s.depth < maxNesting then r else reject .nestingTooDeep)
      (s.atDepth (s.depth + 1)) := by
    split
    · exact inside _
    · exact refused
  have back {depth : Nat} (same : depth = s.depth + 1) : depth - 1 = s.depth := by
    rw [same, Nat.add_sub_cancel]
  unfold ClosesLevels at opened ⊢
  rw [nested_run]
  generalize (if s.depth < maxNesting then r else reject .nestingTooDeep) _ = result at opened ⊢
  cases result with
  | ok a s' | error fault s' => exact back opened

/-- **The recognizer of programs closes all levels**, however deep the fault is that it
meets. -/
theorem closesLevels_program (s : TokenStream) : ClosesLevels program s :=
  keptFrom_closesLevels.keptBySteps.program closesLevels_nested s

/-! ## What a recognizer sees of a stream -/

/-- Two regular streams show the same. -/
structure Alike (s s' : TokenStream) : Prop extends SameView s s' where
  /-- The buffer of the one is in order. -/
  left : s.Regular
  /-- The buffer of the other is in order. -/
  right : s'.Regular

theorem Alike.refl (h : s.Regular) : Alike s s := ⟨.refl s, h, h⟩

/-- Two streams that have been looked into go on showing the same. -/
theorem Alike.looked (h : Alike s s') (first : Looked s s₁) (second : Looked s' s₁') :
    Alike s₁ s₁' :=
  ⟨(first.toSameView.symm.trans h.toSameView).trans second.toSameView, first.regular,
    second.regular⟩

/-- Two streams show the same behind the same token. -/
theorem alike_of_moved (ahead : s.ahead = s'.ahead) (ending : s'.ending = s.ending)
    (first : Moved t s s₁) (second : Moved t s' s₁') : Alike s₁ s₁' where
  ahead := by rw [first.ahead, second.ahead, ahead]
  ending := by rw [first.ending, second.ending, ending]
  previous := by rw [first.previous, second.previous]
  left := first.regular
  right := second.regular

/-- **Two runs have the same result**, and leave streams that show the same; behind a
fault nobody looks at these any more. -/
inductive SameResult : (first second : EStateM.Result Fault TokenStream α) → Prop where
  /-- Both yield the same. -/
  | ok (a : α) {s s' : TokenStream} (alike : Alike s s') : SameResult (.ok a s) (.ok a s')
  /-- Both meet the same fault. -/
  | error (fault : Fault) {s s' : TokenStream} (left : s.Regular) (right : s'.Regular) :
    SameResult (.error fault s) (.error fault s')

/-- A recognizer has the same result on a stream as on every other that shows the
same. -/
def SameAt (r : Recognizer α) (s : TokenStream) : Prop :=
  ∀ s', Alike s s' → SameResult (r s) (r s')

/-- One step after the other. -/
theorem SameAt.bind {r : Recognizer β} {next : β → Recognizer α} (first : SameAt r s)
    (behind : ∀ b s₁, r s = .ok b s₁ → SameAt (next b) s₁) : SameAt (r >>= next) s := by
  intro s' alike
  have same := first s' alike
  cases run : r s with
  | ok b s₁ =>
    rw [run] at same
    rw [bind_of_ok run]
    generalize run' : r s' = result at same
    cases same with
    | ok _ alike' =>
      rw [bind_of_ok run']
      exact behind b s₁ run _ alike'
  | error fault s₁ =>
    rw [run] at same
    rw [bind_of_error run]
    generalize run' : r s' = result at same
    cases same with
    | error _ left right =>
      rw [bind_of_error run']
      exact .error fault left right

/-- What is found in a place decides the result of looking there. -/
theorem sameAt_peekAt (count : Nat) (s : TokenStream) : SameAt (peekAt count) s := by
  intro s' alike
  have first := peekAt_of_regular count alike.left
  have second := peekAt_of_regular count alike.right
  have found := alike.look count
  generalize peekAt count s = result at first
  generalize peekAt count s' = result' at second
  cases result <;> cases result' <;> (
    have same := first.1.symm.trans (found.symm.trans second.1)
    cases same)
  · exact .ok _ (alike.looked first.2 second.2)
  · exact .error _ first.2.regular second.2.regular

/-- The next token decides the result of taking it. -/
theorem sameAt_advance (s : TokenStream) : SameAt advance s := by
  intro s' alike
  have first := advance_of_regular alike.left
  have second := advance_of_regular alike.right
  have found := alike.look 0
  generalize advance s = result at first
  generalize advance s' = result' at second
  cases result <;> cases result' <;> (
    have same := first.1.symm.trans (found.symm.trans second.1)
    cases same)
  · exact .ok _ (alike_of_moved alike.ahead alike.ending first.2 second.2)
  · exact .error _ first.2.regular second.2.regular

/-- **Every recognizer sees the view of a stream alone.** -/
theorem keptFrom_sameAt : KeptFrom fun _ r s => SameAt r s where
  pure a _ _ alike := .ok a alike
  bind := SameAt.bind
  peekAt count _ := sameAt_peekAt count
  advance := sameAt_advance
  since start s s' alike := by
    have same : since start s' = .ok (.between start
        ((s.previous.map Token.stopPosition).getD .zero)) s' := by rw [← alike.previous]; rfl
    rw [same]
    exact .ok _ alike
  refuse _ _ _ _ alike := .error _ alike.left alike.right

/-- What is left of a regular stream is regular. -/
theorem SameAt.regular {r : Recognizer α} (same : SameAt r s) (h : s.Regular) :
    Outcome (fun _ s' => s'.Regular) (fun _ s' => s'.Regular) (r s) := by
  have alike := same s (.refl h)
  generalize r s = result at alike
  cases alike with
  | ok _ alike => exact alike.left
  | error _ left _ => exact left

/-- Taking the next token behind looking ahead. -/
theorem Moved.behind (looked : Looked s s₁) (moved : Moved t s₁ s') : Moved t s s' where
  ahead := by rw [moved.ahead, looked.ahead]
  ending := moved.ending.trans looked.ending
  faultless := moved.faultless.trans looked.faultless.ending
  previous := moved.previous
  regular := moved.regular

/-! ## The first token of a program -/

/-- Whether a token is the word that a program starts with. -/
def IsProgramWord (t : Token) : Prop :=
  t.kind = .programKeyword ∧ Kind.lowered t.value.toList = "program"

/-- What is recognized behind the word `program` with the levels that a stream has left. -/
def behindWord (depth : Nat) (t : Token) : Recognizer Program :=
  behindKeyword (routineBodyIn (maxNesting - depth)) (statementIn (maxNesting - depth)) t

/-- It sees the view of a stream alone. -/
theorem sameAt_behindWord (depth : Nat) (t : Token) (s : TokenStream) :
    SameAt (behindWord depth t) s := by
  have keeps := keptFrom_sameAt.keptBySteps
  exact keeps.behindKeyword (reads_routineBodyIn _) (reads_statementIn _) (keeps.routineBodyIn _)
    (keeps.statementIn _) t s

/-- **The recognizer of programs looks at the next token first.** It goes on behind it if
it is the word `program`, and then it is the token taken last; otherwise there is a
fault. -/
theorem program_of_regular (regular : s.Regular) :
    (∃ fault s', s.look 0 = .error fault ∧ program s = .error fault s') ∨
    ∃ t, s.look 0 = .ok t ∧
      ((IsProgramWord t ∧ ∃ s', Moved t s s' ∧ program s = behindWord s.depth t s') ∨
      (¬ IsProgramWord t ∧ ∃ s', program s =
        .error (.grammatical (.missing (.keyword "program")) (some t.span)) s')) := by
  -- Looking at a token again finds it again.
  have again {t : Token} {s₁ : TokenStream} (shown : s.look 0 = .ok t) (looked : Looked s s₁) :
      ∃ s₂, peek s₁ = .ok t s₂ ∧ Looked s s₂ := by
    have found := peekAt_of_regular 0 looked.regular
    rw [looked.look, shown] at found
    change Outcome _ _ (peek s₁) at found
    generalize peek s₁ = result at found
    cases result with
    | error fault s₂ => exact absurd found.1 (by simp)
    | ok t' s₂ =>
      obtain rfl := Except.ok.inj found.1
      exact ⟨s₂, rfl, looked.trans found.2⟩
  rw [program_run, programIn, programBy_eq]
  have found := peekAt_of_regular 0 regular
  change Outcome _ _ (peek s) at found
  cases run : peek s with
  | error fault s' =>
    rw [run] at found
    exact .inl ⟨fault, s', found.1, bind_of_error run⟩
  | ok t s₁ =>
    rw [run] at found
    obtain ⟨shown, looked⟩ := found
    obtain ⟨s₂, run₂, looked₂⟩ := again shown looked
    refine .inr ⟨t, shown, ?_⟩
    rw [bind_of_ok run]
    unfold expectKeyword
    by_cases word : IsProgramWord t
    · have moved := advance_of_regular looked₂.regular
      rw [looked₂.look, shown] at moved
      cases run₃ : advance s₂ with
      | error fault s₃ =>
        rw [run₃] at moved
        exact absurd moved.1 (by simp)
      | ok t' s₃ =>
        rw [run₃] at moved
        obtain rfl := Except.ok.inj moved.1
        refine .inl ⟨word, s₃, .behind looked₂ moved.2, ?_⟩
        refine bind_of_ok (b := t) ?_
        unfold IsProgramWord at word
        rw [bind_of_ok run₂, if_pos word, run₃]
    · obtain ⟨s₃, run₃, -⟩ := again shown looked₂
      refine .inr ⟨word, s₃, bind_of_error ?_⟩
      unfold IsProgramWord at word
      rw [bind_of_ok run₂, if_neg word]
      exact bind_of_ok run₃

end Recognizer

namespace TokenStream

/-- What can be done with a stream: to ask it for a token, or to recognize a program. -/
inductive Operation where
  | request (request : Request)
  | parse
  deriving DecidableEq, Repr

/-- What an operation leaves of a stream, also if it meets a fault. -/
def Operation.leaves (s : TokenStream) : Operation → TokenStream
  | .request asked => (s.answer asked).2
  | .parse =>
    match Recognizer.program s with
    | .ok _ s' => s'
    | .error _ s' => s'

/-- The fresh stream of the tokens that have not been taken. -/
def unread (s : TokenStream) : TokenStream := ⟨s.buffer ++ s.pending, s.fault, [], none, 0⟩

variable {s : TokenStream}

/-- An operation leaves the buffer in order. -/
theorem Regular.leaves (h : s.Regular) (operation : Operation) : (operation.leaves s).Regular := by
  have keeps := Recognizer.keptFrom_sameAt.keptBySteps
  cases operation with
  | request request =>
    have left := (keeps.recognizer Recognizer.sameAt_peekAt request s).regular h
    show (s.answer request).2.Regular
    unfold answer
    generalize request.recognizer s = result at left
    cases result <;> exact left
  | parse =>
    have left := (keeps.programIn (Recognizer.maxNesting - s.depth) s).regular h
    rw [← Recognizer.program_run] at left
    unfold Operation.leaves
    generalize Recognizer.program s = result at left
    cases result <;> exact left

/-- An operation leaves no level open. -/
theorem depth_leaves (s : TokenStream) (operation : Operation) :
    (operation.leaves s).depth = s.depth := by
  cases operation with
  | request request =>
    have closes := Recognizer.keptFrom_closesLevels.keptBySteps.recognizer
      Recognizer.closesLevels_peekAt request s
    show (s.answer request).2.depth = s.depth
    unfold Recognizer.ClosesLevels at closes
    unfold answer
    generalize request.recognizer s = result at closes
    cases result <;> exact closes
  | parse =>
    have closes := Recognizer.closesLevels_program s
    unfold Recognizer.ClosesLevels at closes
    unfold Operation.leaves
    generalize Recognizer.program s = result at closes
    cases result <;> exact closes

/-- Any operations leave the buffer in order. -/
theorem Regular.foldl (h : s.Regular) (operations : List Operation) :
    (operations.foldl Operation.leaves s).Regular := by
  induction operations generalizing s with
  | nil => exact h
  | cons operation others ih => exact ih (h.leaves operation)

/-- Any operations leave no level open. -/
theorem depth_foldl (s : TokenStream) (operations : List Operation) :
    (operations.foldl Operation.leaves s).depth = s.depth := by
  induction operations generalizing s with
  | nil => rfl
  | cons operation others ih => exact (ih _).trans (depth_leaves s operation)

/-- The same follows the tokens that are left, unless there are none and their end is
made up. -/
theorem ending_unread (some_ : s.buffer ++ s.pending ≠ [] ∨ s.fault ≠ none) :
    s.unread.ending = s.ending := by
  unfold ending unread
  simp only [List.nil_append]
  cases found : (s.buffer ++ s.pending).find? Token.isEnd with
  | some last => rfl
  | none =>
    cases noFault : s.fault with
    | some fault => rfl
    | none =>
      obtain ⟨t, last⟩ : ∃ t, (s.buffer ++ s.pending).getLast? = some t :=
        ⟨_, List.getLast?_eq_some_getLast (some_.resolve_right (absurd noFault))⟩
      simp [last]

end TokenStream

namespace Program

variable {s s' : TokenStream} {t : Token}

/-- A next token other than the word `program` is refused. -/
theorem ofStream_of_other (regular : s.Regular) (found : s.look 0 = .ok t)
    (other : ¬ Recognizer.IsProgramWord t) :
    ofStream s = .error (.grammatical (.missing (.keyword "program")) (some t.span)) := by
  unfold ofStream
  rcases Recognizer.program_of_regular regular with ⟨_, _, met, -⟩ | ⟨t', found', rest⟩
  · exact absurd (found.symm.trans met) (by simp)
  · obtain rfl := Except.ok.inj (found.symm.trans found')
    rcases rest with ⟨word, -⟩ | ⟨-, s₁, run⟩
    · exact absurd word other
    · rw [run]

/-- The tokens ahead and what follows them decide whether a stream holds a program, if equally
many levels are open. -/
theorem ofStream_congr (left : s.Regular) (right : s'.Regular) (ahead : s.ahead = s'.ahead)
    (ending : s'.ending = s.ending) (depth : s'.depth = s.depth) : ofStream s = ofStream s' := by
  have same : s'.look 0 = s.look 0 := by rw [look, look, ahead, ending]
  rcases Recognizer.program_of_regular right with ⟨fault, s₁', found', run'⟩ | ⟨t, found', rest'⟩
  · rcases Recognizer.program_of_regular left with ⟨fault', s₁, found, run⟩ | ⟨t', found, -⟩
    · obtain rfl := Except.error.inj (found'.symm.trans (same.trans found))
      unfold ofStream
      rw [run, run']
    · exact absurd (found'.symm.trans (same.trans found)) (by simp)
  · rcases rest' with ⟨word, s₁', moved', run'⟩ | ⟨other, -⟩
    · rcases Recognizer.program_of_regular left with ⟨_, _, found, -⟩ | ⟨t', found, rest⟩
      · exact absurd (found'.symm.trans (same.trans found)) (by simp)
      · obtain rfl := Except.ok.inj (found'.symm.trans (same.trans found))
        rcases rest with ⟨-, s₁, moved, run⟩ | ⟨other, -⟩
        · have alike := Recognizer.alike_of_moved ahead ending moved moved'
          have result := Recognizer.sameAt_behindWord s.depth t s₁ s₁' alike
          unfold ofStream
          rw [run, run', depth]
          generalize Recognizer.behindWord s.depth t s₁ = first at result
          generalize Recognizer.behindWord s.depth t s₁' = second at result
          cases result <;> rfl
        · exact absurd word other
    · rw [ofStream_of_other left (same.symm.trans found') other, ofStream_of_other right found' other]

/-- Where no token is left the end is made up. -/
theorem look_of_nothing (none_ : s.buffer ++ s.pending = []) (noFault : s.fault = none) :
    s.look 0 = .ok (.endAt (s.previous.bind Token.stop)) := by
  simp [look, ahead, ending, none_, noFault]

/-- **A stream that has been used does as a fresh one of the tokens that are left.**
Whatever has been done with it before, and whatever faults were met in however many
levels of nesting, no level is open any more, and recognizing a program has the same
result. The exception is that nothing is left, where both are
refused for want of the word `program` at the end that is made up for them. -/
theorem ofStream_resumed (tokens : List Token) (fault : Option Fault)
    (operations : List Operation) :
    let s := operations.foldl Operation.leaves ⟨tokens, fault, [], none, 0⟩
    s.depth = 0 ∧
      (ofStream s = ofStream s.unread ∨
        (s.buffer ++ s.pending = [] ∧ s.fault = none ∧
          ofStream s = .error (.grammatical (.missing (.keyword "program"))
            (some (Token.endAt (s.previous.bind Token.stop)).span)) ∧
          ofStream s.unread = .error (.grammatical (.missing (.keyword "program"))
            (some (Token.endAt none).span)))) := by
  intro s
  have noLevel : s.depth = 0 := depth_foldl _ operations
  refine ⟨noLevel, ?_⟩
  have regular : s.Regular := (regular_of_fresh rfl).foldl operations
  have fresh : s.unread.Regular := regular_of_fresh rfl
  have noWord (position : Option Position) : ¬ Recognizer.IsProgramWord (.endAt position) :=
    fun word => absurd word.1 (by simp [Token.endAt])
  by_cases nothing : s.buffer ++ s.pending = [] ∧ s.fault = none
  · obtain ⟨none_, noFault⟩ := nothing
    refine .inr ⟨none_, noFault, ?_, ?_⟩
    · exact ofStream_of_other regular (look_of_nothing none_ noFault) (noWord _)
    · exact ofStream_of_other fresh (look_of_nothing (s := s.unread) none_ noFault) (noWord _)
  · exact .inl (ofStream_congr regular fresh rfl (ending_unread (not_and_or.1 nothing))
      noLevel.symm)

end Program

end PascalFront
