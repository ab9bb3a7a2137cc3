import Mathlib.Data.List.TakeWhile
import PascalFront.Proofs.Grammar.Local
/-!
# A program is read no further than needed

A recognizer puts a token into the buffer only to decide on it or on the one before
it, so at no moment of a run do more than two tokens wait there (`Throughout`). What
it stops at is the token that it has looked at last: the one that it refuses, the end
behind a program, or an end that was made up because the stream has none. Two streams
that begin with the same tokens up to that one are refused in the same way. The
theorem that says so is `program_readsNoFurther`.

That a recognizer depends only on what it has looked at is known from its steps
(`local_program`), and at which token it stops from what it reads (`reads_program`).
-/

namespace PascalFront

open Grammar

/-- The stream of some tokens, with a fault behind them, that nobody has looked at. -/
def TokenStream.untouched (tokens : List Token) (fault : Option Fault) : TokenStream :=
  ⟨tokens, fault, [], none, 0⟩

namespace Recognizer

open TokenStream

variable {α β : Type} {s s' : TokenStream} {I : TokenStream → Prop}

/-! ## The moments of a run -/

/-- **A property throughout a run**: what a recognizer does from a state of the stream
on is a row of steps, each of which looks at one more token, takes one, opens or closes a
level of nesting or leaves the stream as it is, and the property holds of the state before
and behind each of them. -/
inductive Throughout (I : TokenStream → Prop) :
    {α : Type} → Recognizer α → TokenStream → Prop where
  /-- Nothing is done. -/
  | pure {α : Type} (a : α) {s : TokenStream} (now : I s) : Throughout I (Pure.pure a) s
  /-- The span up to the token taken last. -/
  | since (start : Position) {s : TokenStream} (now : I s) : Throughout I (Recognizer.since start) s
  /-- A token is refused. -/
  | refuse {α : Type} (complaint : Complaint) (t : Token) {s : TokenStream} (now : I s) :
    Throughout I (Recognizer.refuse (α := α) complaint t) s
  /-- One more token is looked at. -/
  | pull {s : TokenStream} (now : I s)
    (behind : Outcome (fun _ s' => I s') (fun _ s' => I s') (Recognizer.pull s)) :
    Throughout I Recognizer.pull s
  /-- A token waits in the buffer. -/
  | found {count : Nat} {t : Token} {s : TokenStream} (waiting : s.buffer[count]? = some t)
    (now : I s) : Throughout I (peekAt count) s
  /-- More tokens are looked at, down to the one that is wanted. -/
  | sought {count : Nat} {s : TokenStream} (missing : s.buffer[count]? = none)
    (more : Throughout I (pullMore (count - s.buffer.length)) s) : Throughout I (peekAt count) s
  /-- The next token is taken. -/
  | advance {s : TokenStream} (looked : Throughout I peek s)
    (behind : Outcome (fun _ s' => I s') (fun _ s' => I s') (Recognizer.advance s)) :
    Throughout I Recognizer.advance s
  /-- One step after the other. -/
  | bind {α β : Type} {r : Recognizer β} {next : β → Recognizer α} {s : TokenStream}
    (first : Throughout I r s) (behind : ∀ b s', r s = .ok b s' → Throughout I (next b) s') :
    Throughout I (r >>= next) s
  /-- A level is opened, or refused as too deep, and closed again. -/
  | nested {α : Type} {r : Recognizer α} {s : TokenStream} (now : I s)
    (inside : Throughout I (if s.depth < maxNesting then r else reject .nestingTooDeep)
      (s.atDepth (s.depth + 1)))
    (behind : Outcome (fun _ s' => I s') (fun _ s' => I s') (Recognizer.nested r s)) :
    Throughout I (Recognizer.nested r) s

/-- What holds throughout a run holds at its end. -/
theorem Throughout.outcome {r : Recognizer α} (h : Throughout I r s) :
    Outcome (fun _ s' => I s') (fun _ s' => I s') (r s) := by
  induction h with
  | pure _ now | since _ now | refuse _ _ now => exact now
  | pull _ behind | advance _ behind | nested _ _ behind => exact behind
  | found waiting now =>
    rw [peekAt_run, waiting]
    exact now
  | sought missing _ ih =>
    rw [peekAt_run, missing]
    exact ih
  | @bind _ _ r next s _ _ ih ih' =>
    cases run : r s with
    | error fault s' =>
      rw [run] at ih
      rw [bind_of_error run]
      exact ih
    | ok b s' =>
      rw [bind_of_ok run]
      exact ih' b s' run

/-- At most two tokens have been looked at and not taken. -/
def TwoAhead (s : TokenStream) : Prop := s.buffer.length ≤ 2

/-- Looking at one more token puts at most one into the buffer. -/
theorem throughout_pull (room : s.buffer.length ≤ 1) : Throughout TwoAhead pull s := by
  refine .pull (Nat.le_succ_of_le room) ?_
  have fits (t : Token) : (s.buffer ++ [t]).length ≤ 2 := by simpa using room
  rw [pull_run]
  split
  · exact fits _
  · split
    · exact fits _
    · split
      · exact Nat.le_succ_of_le room
      · exact fits _

/-- Looking at the next token, or at the one behind it, fills the buffer up to there. -/
theorem throughout_peekAt {count : Nat} (near : count ≤ 1) (now : TwoAhead s) :
    Throughout TwoAhead (peekAt count) s := by
  cases waiting : s.buffer[count]? with
  | some t => exact .found waiting now
  | none =>
    refine .sought waiting ?_
    have short := List.getElem?_eq_none_iff.1 waiting
    rcases none : s.buffer with - | ⟨t, others⟩
    · rcases Nat.le_one_iff_eq_zero_or_eq_one.1 near with rfl | rfl
      · exact throughout_pull (by simp [none])
      · refine .bind (throughout_pull (by simp [none])) fun t s' run => ?_
        have one : s'.buffer.length ≤ 1 := by
          have shown := pull_spec (s := s) (by simp [none])
          rw [run] at shown
          simp [shown.2.2, none]
        exact throughout_pull one
    · -- The buffer holds one token, and the one behind it is wanted.
      rw [none, List.length_cons] at short
      have all : count - (t :: others).length = 0 := by simp; omega
      rw [all]
      exact throughout_pull (by rw [none, List.length_cons]; omega)

/-- **At no moment of a run do more than two tokens wait in the buffer**, if it starts
with no more. -/
theorem keptFrom_throughout : KeptFrom fun _ r s => TwoAhead s → Throughout TwoAhead r s where
  pure a _ now := .pure a now
  bind first behind now := .bind (first now) fun b s' run => by
    have then_ := (first now).outcome
    rw [run] at then_
    exact behind b s' run then_
  peekAt _ near _ now := throughout_peekAt near now
  advance s now := by
    have looked : Throughout TwoAhead peek s := throughout_peekAt (Nat.zero_le 1) now
    refine .advance looked ?_
    have behind := looked.outcome
    rw [advance_run]
    cases run : peek s with
    | error fault s' =>
      rw [run] at behind
      exact behind
    | ok t s' =>
      rw [run] at behind
      refine Nat.le_trans ?_ behind
      cases t.isEnd <;> simp
  since start _ now := .since start now
  refuse complaint t _ now := .refuse complaint t now

/-- So it is when a level is opened and closed, which leaves the buffer. -/
theorem throughout_nested {r : Recognizer α} (h : ∀ s, TwoAhead s → Throughout TwoAhead r s)
    (s : TokenStream) (now : TwoAhead s) : Throughout TwoAhead (nested r) s := by
  have deeper : TwoAhead (s.atDepth (s.depth + 1)) := now
  have inside : Throughout TwoAhead (if s.depth < maxNesting then r else reject .nestingTooDeep)
      (s.atDepth (s.depth + 1)) := by
    split
    · exact h _ deeper
    · exact keptFrom_throughout.keptBySteps.reject _ _ deeper
  refine .nested now inside ?_
  have behind := inside.outcome
  rw [nested_run]
  generalize (if s.depth < maxNesting then r else reject .nestingTooDeep) _ = result at behind ⊢
  cases result with
  | ok a s' | error fault s' => exact behind

/-! ## Where a run ends -/

/-- A condition on what the last steps leave is one on what all of them leave. -/
theorem Outcome.last {r : Recognizer β} {next : β → Recognizer α} {Ok : α → TokenStream → Prop}
    (h : ∀ b s, Outcome Ok (fun _ _ => True) (next b s)) :
    Outcome Ok (fun _ _ => True) ((r >>= next) s) := by
  have first : Outcome (fun _ _ => True) (fun _ _ => True) (r s) := by cases r s <;> trivial
  exact first.bind (fun _ _ => id) fun b s' _ => h b s'

/-- Behind a program the end of the input waits in the buffer. -/
theorem program_meets (s : TokenStream) :
    Outcome (fun _ s' => ∃ e others, s'.buffer = e :: others ∧ e.isEnd = true) (fun _ _ => True)
      (program s) := by
  refine .last fun _ _ => .last fun _ _ => .last fun _ _ => .last fun _ _ => .last fun _ _ =>
    .last fun _ _ => .last fun _ _ => .last fun _ s => ?_
  rw [atEnd, bind_assoc]
  refine (peek_spec s).bind (fun _ _ _ => trivial) fun e s' peeked => ?_
  obtain ⟨others, waiting⟩ := peeked.waiting
  rw [pure_bind]
  cases isEnd : e.isEnd with
  | true => exact ⟨e, others, waiting, isEnd⟩
  | false =>
    have refused : Outcome (fun (_ : Unit) _ => False) (fun _ _ => True)
        (reject (.missing .endAfterDot) s') :=
      (peek_spec s').bind (fun _ _ _ => trivial) fun _ _ _ => trivial
    exact refused.bind (fun _ _ => id) fun _ _ never => never.elim

/-- The last token of a program is its dot. -/
theorem exists_dot (d : Derivation .program) :
    ∃ front dot, d.tokens = front ++ [dot] ∧ dot.kind = Kind.dot := by
  obtain ⟨rule, below⟩ := d
  cases rule
  match below with
  | .token t₁ _ (.token t₂ _ (.token t₃ _ (.part _ declared (.part _ body (.token dot isDot .nil))))) =>
    refine ⟨t₁ :: t₂ :: t₃ :: (declared.tokens ++ body.tokens), dot, ?_, isDot⟩
    simp [Derivation.tokens, Forest.tokens]

/-- Where all that has been looked at begins with the tokens of a stream, the last of
them is the one that was looked at last. -/
theorem exists_pulled {tokens pulled : List Token} {fault : Option Fault} {t : Token}
    (pulls : Pulls pulled (.untouched tokens fault) s') (real : ¬ MadeUp (.untouched tokens fault) s')
    (newest : s'.newest? = some t) : ∃ u, pulled = u ++ [t] ∧ tokens = u ++ t :: s'.pending := by
  have last : pulled.getLast? = some t := by
    rw [← newest, pulls.newest real]
    exact Option.or_none.symm
  obtain ⟨u, rfl⟩ := List.getLast?_eq_some_iff.1 last
  have split : tokens = u ++ [t] ++ s'.pending := pulls.pending
  exact ⟨u, rfl, by simpa using split⟩

/-- The end that is made up for tokens without one stands behind the last of them. -/
theorem ending_untouched {tokens : List Token} (notEnd : ∀ t ∈ tokens, t.isEnd = false) :
    (untouched tokens none).ending = .ok (.endAt (tokens.getLast?.bind Token.stop)) := by
  have noneFound : tokens.find? Token.isEnd = none := by simpa using notEnd
  simp [ending, untouched, noneFound]

/-- **What a run without a fault of the text stops at** was looked at last, and if it is
the end of the input it is the one that follows the tokens. -/
theorem program_stops {tokens : List Token} {fault : Fault}
    (run : program (.untouched tokens none) = .error fault s') :
    ∃ complaint t, fault = .grammatical complaint (some t.span) ∧ s'.newest? = some t ∧
      (t.isEnd = true → (untouched tokens none).ending = .ok t) := by
  have settled : (untouched tokens none).Settled := Nat.zero_le 1
  have stopped := reads_program (.untouched tokens none)
  rw [run] at stopped
  have stopped : Stopped (Starts [.part .program]) (.untouched tokens none) s' fault := stopped
  have inside {t : Token} (listed : t ∈ (untouched tokens none).ahead) :
      t.isEnd = true → (untouched tokens none).ending = .ok t := fun isEnd => by
    rw [isEnd_of_mem_ahead listed] at isEnd
    exact absurd isEnd (by decide)
  cases stopped with
  | @limit _ u t limit place took last alone =>
    -- The token was taken, and the buffer is empty behind it.
    have newest : s'.newest? = some t := by rw [newest?, alone settled, last]; rfl
    have taken : u.getLast? = some t := by
      rw [← last, took.previous]
      exact Option.or_none.symm
    have listed : t ∈ (untouched tokens none).ahead :=
      took.ahead ▸ List.mem_append_left _ (List.mem_of_getLast? taken)
    cases limit with
    | nesting _ | literal _ =>
      obtain rfl := show _ = some t.span from place
      exact ⟨_, t, rfl, newest, inside listed⟩
  | ended met _ =>
    unfold ending at met
    split at met
    · exact absurd met (by simp)
    · rename_i noFault
      exact absurd noFault (by simp [untouched])
    · exact absurd met (by simp)
  | @refused u t complaint faces _ =>
    cases faces with
    | token ahead unseen =>
      exact ⟨complaint, t, rfl, by rw [newest?, (unseen settled).1]; rfl,
        inside (ahead ▸ List.mem_append_right _ List.mem_cons_self)⟩
    | last _ ending seen =>
      exact ⟨complaint, t, rfl, by rw [newest?, seen settled]; rfl, fun _ => ending⟩

/-- **A refused token is the last one that is looked at.** The stream meets its fault, or
the token is one of the stream and is refused whatever comes behind it, or it is the end
that is made up behind the last of them. -/
theorem program_refuses {tokens : List Token} {fault : Option Fault} {f : Fault}
    (run : program (.untouched tokens fault) = .error f s') :
    (fault = some f ∧ s'.fault = none ∧ s'.pending = []) ∨
    ∃ complaint t, f = .grammatical complaint (some t.span) ∧ s'.newest? = some t ∧
      ((∃ u, tokens = u ++ t :: s'.pending ∧ ∀ others fault', ∃ s'',
          program (.untouched (u ++ t :: others) fault') = .error f s'' ∧ s''.pending = others) ∨
        ((∀ t ∈ tokens, t.isEnd = false) ∧ fault = none ∧ s'.pending = [] ∧
          t = .endAt (tokens.getLast?.bind Token.stop))) := by
  have depends := local_program (.untouched tokens fault)
  unfold LocalAt at depends
  rw [run] at depends
  rcases depends with met | ⟨pulled, pulls, same⟩
  · exact .inl met
  refine .inr ?_
  by_cases made : MadeUp (.untouched tokens fault) s'
  · obtain rfl : fault = none := made.fault
    obtain ⟨complaint, t, rfl, newest, isLast⟩ := program_stops run
    obtain ⟨e, waiting, isEnd⟩ := made.met
    obtain rfl : t = e := by
      rw [newest?, waiting] at newest
      exact (Option.some.inj newest).symm
    refine ⟨complaint, t, rfl, newest, .inr ⟨made.notEnd, rfl, made.pending, ?_⟩⟩
    exact Except.ok.inj ((isLast isEnd).symm.trans (ending_untouched made.notEnd))
  · -- Without the fault of the text the run is the same.
    have run' : program (.untouched tokens none) = .error f (s'.continued s'.pending none) := by
      have again := same made s'.pending none
      rw [← pulls.pending] at again
      exact again
    obtain ⟨complaint, t, rfl, newest, -⟩ := program_stops run'
    obtain ⟨u, rfl, split⟩ := exists_pulled pulls made newest
    refine ⟨complaint, t, rfl, newest, .inl ⟨u, split, fun others fault' => ?_⟩⟩
    have again := same made others fault'
    rw [List.append_assoc] at again
    exact ⟨_, again, rfl⟩

/-- **Behind a program the end of the input is the last token that is looked at**: the one
behind the dot, or one that is made up there. -/
theorem program_ends {tokens : List Token} {fault : Option Fault} {p : Program}
    (run : program (.untouched tokens fault) = .ok p s') :
    ∃ u dot e, (∀ t ∈ u ++ [dot], t.isEnd = false) ∧ dot.kind = Kind.dot ∧ e.isEnd = true ∧
      s'.newest? = some e ∧
      (tokens = u ++ dot :: e :: s'.pending ∨
        (tokens = u ++ [dot] ∧ fault = none ∧ s'.pending = [] ∧ e = .endAt dot.stop)) := by
  have settled : (untouched tokens fault).Settled := Nat.zero_le 1
  have meets := program_meets (.untouched tokens fault)
  have reads := reads_program (.untouched tokens fault)
  have depends := local_program (.untouched tokens fault)
  unfold LocalAt at depends
  rw [run] at meets reads depends
  obtain ⟨e, others, waiting, isEnd⟩ := meets
  obtain ⟨d, -, took, -, -, rest, -⟩ := reads
  obtain ⟨pulled, pulls, -⟩ := depends
  obtain ⟨front, dot, split, isDot⟩ := exists_dot d
  have ahead : (untouched tokens fault).ahead = front ++ [dot] := by
    rw [took.ahead, rest, List.append_nil, split]
  have notEnd : ∀ t ∈ front ++ [dot], t.isEnd = false := fun t listed =>
    isEnd_of_mem_ahead (ahead ▸ listed)
  obtain rfl : others = [] := by
    have short := took.settled settled
    rw [Settled, waiting] at short
    simpa using short
  have newest : s'.newest? = some e := by rw [newest?, waiting]; rfl
  refine ⟨front, dot, e, notEnd, isDot, isEnd, newest, ?_⟩
  by_cases made : MadeUp (.untouched tokens fault) s'
  · obtain rfl : fault = none := made.fault
    have whole : tokens = front ++ [dot] := by
      have all : (untouched tokens none).ahead = tokens :=
        List.takeWhile_eq_self_iff.2 fun t listed => by simp [made.notEnd t listed]
      rw [← ahead, all]
    refine .inr ⟨whole, rfl, made.pending, ?_⟩
    have last : s'.ending = .ok e := by simp [ending, waiting, isEnd]
    have same := last.symm.trans (took.ending.trans (ending_untouched made.notEnd))
    rw [Except.ok.inj same, whole]
    simp
  · obtain ⟨u, rfl, tokens_eq⟩ := exists_pulled pulls made newest
    have front_eq : u = front ++ [dot] := by
      rw [← ahead]
      have noEnd : ∀ t ∈ u, t.isEnd = false := by simpa using pulls.front
      show _ = tokens.takeWhile (!·.isEnd)
      rw [tokens_eq, List.takeWhile_append_of_pos (by simpa using noEnd)]
      simp [isEnd]
    exact .inl (by rw [tokens_eq, front_eq]; simp)

/-- **The recognizer of programs reads no further than the token it rejects.** At no
moment of its run do more than two tokens wait in the buffer. If it refuses a token of
the stream, this is the last one it has looked at, and every stream that begins with
the same tokens up to this one is refused in the same way. If it recognizes a program,
the last token it has looked at is the end of the input behind the final dot. In a
stream without an end one is made up behind the last token, and a stream with a fault
behind its tokens may meet this fault instead. -/
theorem program_readsNoFurther (tokens : List Token) (fault : Option Fault) :
    Throughout (fun s => s.buffer.length ≤ 2) program (.untouched tokens fault) ∧
    (∀ f s', program (.untouched tokens fault) = .error f s' →
      (fault = some f ∧ s'.fault = none ∧ s'.pending = []) ∨
      ∃ complaint t, f = .grammatical complaint (some t.span) ∧ s'.newest? = some t ∧
        ((∃ u, tokens = u ++ t :: s'.pending ∧ ∀ others fault', ∃ s'',
            program (.untouched (u ++ t :: others) fault') = .error f s'' ∧ s''.pending = others) ∨
          ((∀ t ∈ tokens, t.isEnd = false) ∧ fault = none ∧ s'.pending = [] ∧
            t = .endAt (tokens.getLast?.bind Token.stop)))) ∧
    ∀ p s', program (.untouched tokens fault) = .ok p s' →
      ∃ u dot e, (∀ t ∈ u ++ [dot], t.isEnd = false) ∧ dot.kind = Kind.dot ∧ e.isEnd = true ∧
        s'.newest? = some e ∧
        (tokens = u ++ dot :: e :: s'.pending ∨
          (tokens = u ++ [dot] ∧ fault = none ∧ s'.pending = [] ∧ e = .endAt dot.stop)) :=
  ⟨keptFrom_throughout.keptBySteps.program throughout_nested _ (Nat.zero_le 2), fun _ _ => program_refuses,
    fun _ _ => program_ends⟩

end Recognizer

end PascalFront
