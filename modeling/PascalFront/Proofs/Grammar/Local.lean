import PascalFront.Proofs.Grammar.Steps
/-!
# A recognizer depends on what it has looked at

As long as a recognizer meets no fault of the text and no end of the input has to be
made up for it, it does the same on every stream that begins with the tokens it has
looked at, whatever comes behind them (`Local`). Each step does so from every state of
the stream, and hence the recognizer of programs (`local_program`).

The tokens that have been looked at are those that are gone from the stream, and the
last of them waits at the end of the buffer or was taken last (`Pulls.newest`).
-/

namespace PascalFront

namespace TokenStream

/-- The end of the input has been looked at. -/
def MetEnd (s : TokenStream) : Prop := ∃ t ∈ s.buffer.getLast?, t.isEnd = true

/-- The token that was looked at last. -/
def newest? (s : TokenStream) : Option Token := s.buffer.getLast?.or s.previous

/-- **An end of the input is made up** between two states of a stream: there was none,
and all tokens have been looked at. -/
structure MadeUp (s s' : TokenStream) : Prop where
  /-- No fault follows the tokens. -/
  fault : s.fault = none
  /-- The end had not been met. -/
  notMet : ¬ s.MetEnd
  /-- No token is the end. -/
  notEnd : ∀ t ∈ s.pending, t.isEnd = false
  /-- All tokens have been looked at. -/
  pending : s'.pending = []
  /-- The end has been met. -/
  met : s'.MetEnd

/-- **Tokens are pulled** between two states of a stream: looked at for the first
time. An end that was met stays met, and nothing is pulled behind it. -/
structure Pulls (pulled : List Token) (s s' : TokenStream) : Prop where
  /-- The tokens stood in front of those that nobody has looked at. -/
  pending : s.pending = pulled ++ s'.pending
  /-- The fault of the text has not been met. -/
  fault : s'.fault = s.fault
  /-- The end stays met. -/
  ended : s.MetEnd → s'.MetEnd
  /-- Behind the end nothing is pulled. -/
  still : s.MetEnd → pulled = []
  /-- Only the last of the tokens can be the end. -/
  front : ∀ t ∈ pulled.dropLast, t.isEnd = false
  /-- Unless the end was met no token is the end. -/
  notEnd : ¬ s'.MetEnd → ∀ t ∈ pulled, t.isEnd = false
  /-- The last of them was looked at last, unless an end was made up. -/
  newest : ¬ MadeUp s s' → s'.newest? = pulled.getLast?.or s.newest?

/-- The stream with something else behind what has been looked at. -/
def continued (s : TokenStream) (pending : List Token) (fault : Option Fault) : TokenStream :=
  { s with pending, fault }

variable {s s' s'' : TokenStream} {u v : List Token}

theorem Pulls.refl (s : TokenStream) : Pulls [] s s :=
  ⟨rfl, rfl, id, fun _ => rfl, fun _ listed => absurd listed List.not_mem_nil,
    fun _ _ listed => absurd listed List.not_mem_nil, fun _ => rfl⟩

/-- An end that was made up stays. -/
theorem MadeUp.before (made : MadeUp s s') (pulls : Pulls v s' s'') : MadeUp s s'' where
  fault := made.fault
  notMet := made.notMet
  notEnd := made.notEnd
  pending := (List.append_eq_nil_iff.1 (pulls.pending.symm.trans made.pending)).2
  met := pulls.ended made.met

/-- An end that is made up was not there before. -/
theorem MadeUp.behind (pulls : Pulls u s s') (made : MadeUp s' s'') : MadeUp s s'' where
  fault := pulls.fault ▸ made.fault
  notMet := made.notMet ∘ pulls.ended
  notEnd t listed := by
    rw [pulls.pending] at listed
    exact (List.mem_append.1 listed).elim (pulls.notEnd made.notMet t) (made.notEnd t)
  pending := made.pending
  met := made.met

/-- What is pulled first and what is pulled then. -/
theorem Pulls.trans (first : Pulls u s s') (then_ : Pulls v s' s'') : Pulls (u ++ v) s s'' where
  pending := by rw [first.pending, then_.pending, List.append_assoc]
  fault := then_.fault.trans first.fault
  ended := then_.ended ∘ first.ended
  still met := by rw [first.still met, then_.still (first.ended met), List.append_nil]
  front t listed := by
    by_cases none : v = []
    · rw [none, List.append_nil] at listed
      exact first.front t listed
    · rw [List.dropLast_append_of_ne_nil none] at listed
      rcases List.mem_append.1 listed with front | behind
      · exact first.notEnd (none ∘ then_.still) t front
      · exact then_.front t behind
  notEnd inside t listed := by
    rcases List.mem_append.1 listed with front | behind
    · exact first.notEnd (inside ∘ then_.ended) t front
    · exact then_.notEnd inside t behind
  newest real := by
    rw [then_.newest fun made => real (made.behind first),
      first.newest fun made => real (made.before then_), List.getLast?_append, Option.or_assoc]

end TokenStream

namespace Recognizer

open TokenStream

variable {α β : Type} {s s' : TokenStream}

/-- A recognizer depends on one stream only on what it looks at: unless an end is made
up for it, it does the same whatever comes behind that. It may stop because the stream
meets its fault. -/
def LocalAt (r : Recognizer α) (s : TokenStream) : Prop :=
  Outcome
    (fun a s' => ∃ pulled, Pulls pulled s s' ∧ (¬ MadeUp s s' → ∀ other fault,
      r (s.continued (pulled ++ other) fault) = .ok a (s'.continued other fault)))
    (fun f s' => (s.fault = some f ∧ s'.fault = none ∧ s'.pending = []) ∨
      ∃ pulled, Pulls pulled s s' ∧ (¬ MadeUp s s' → ∀ other fault,
        r (s.continued (pulled ++ other) fault) = .error f (s'.continued other fault)))
    (r s)

/-- **A recognizer depends only on what it looks at.** -/
def Local (r : Recognizer α) : Prop := ∀ s, LocalAt r s

/-! ## Steps -/

/-- One step after the other, from one state on. -/
theorem LocalAt.bind {r : Recognizer β} {next : β → Recognizer α} (first : LocalAt r s)
    (behind : ∀ b s', r s = .ok b s' → LocalAt (next b) s') : LocalAt (r >>= next) s := by
  unfold LocalAt at first ⊢
  cases run : r s with
  | error f s' =>
    rw [run] at first
    rw [bind_of_error run]
    rcases first with met | ⟨u, pulls, same⟩
    · exact .inl met
    · exact .inr ⟨u, pulls, fun real other fault => bind_of_error (same real other fault)⟩
  | ok b s' =>
    rw [run] at first
    obtain ⟨u, pulls, same⟩ := first
    have second := behind b s' run
    rw [bind_of_ok run]
    unfold LocalAt at second
    cases run' : next b s' with
    | error f s'' =>
      rw [run'] at second
      rcases second with met | ⟨v, pulls', same'⟩
      · exact .inl ⟨pulls.fault ▸ met.1, met.2⟩
      · refine .inr ⟨u ++ v, pulls.trans pulls', fun real other fault => ?_⟩
        have realFirst : ¬ MadeUp s s' := fun made => real (made.before pulls')
        rw [List.append_assoc, bind_of_ok (same realFirst (v ++ other) fault)]
        exact same' (fun made => real (made.behind pulls)) other fault
    | ok a s'' =>
      rw [run'] at second
      obtain ⟨v, pulls', same'⟩ := second
      refine ⟨u ++ v, pulls.trans pulls', fun real other fault => ?_⟩
      have realFirst : ¬ MadeUp s s' := fun made => real (made.before pulls')
      rw [List.append_assoc, bind_of_ok (same realFirst (v ++ other) fault)]
      exact same' (fun made => real (made.behind pulls)) other fault

/-! ## Primitive recognizers -/

/-- Looking at one more token. -/
theorem Local.pull : Local pull := by
  intro s
  obtain ⟨pending, fault, buffer, previous, depth⟩ := s
  unfold LocalAt
  rw [pull_run]
  cases last : buffer.getLast?.filter Token.isEnd with
  | some t =>
    obtain ⟨found, isEnd⟩ := Option.filter_eq_some_iff.1 last
    refine ⟨[], ?_, fun _ other fault' => by rw [pull_run]; simp only [continued, last]; rfl⟩
    have ended : MetEnd ⟨pending, fault, buffer ++ [t], previous, depth⟩ := ⟨t, by simp, isEnd⟩
    exact ⟨rfl, rfl, fun _ => ended, fun _ => rfl, by simp, by simp,
      fun _ => by simp [newest?, found]⟩
  | none =>
    have notMet : ¬ MetEnd ⟨pending, fault, buffer, previous, depth⟩ := by
      rintro ⟨t, front, isEnd⟩
      have front : buffer.getLast? = some t := front
      rw [front] at last
      simp [isEnd] at last
    cases pending with
    | cons t rest =>
      refine ⟨[t], ⟨rfl, rfl, fun ended => absurd ended notMet, fun ended => absurd ended notMet,
        by simp, fun inside t' listed => ?_, fun _ => by simp [newest?]⟩, fun _ other fault' => ?_⟩
      · obtain rfl := List.mem_singleton.1 listed
        exact Bool.eq_false_iff.2 fun isEnd => inside ⟨t', by simp, isEnd⟩
      · rw [pull_run]
        simp only [continued, last]
        rfl
    | nil =>
      cases fault with
      | some fault => exact .inl ⟨rfl, rfl, rfl⟩
      | none =>
        have ended : MetEnd ⟨[], none, buffer ++ [closing ⟨[], none, buffer, previous, depth⟩],
            previous, depth⟩ :=
          ⟨_, by rw [List.getLast?_append]; rfl, rfl⟩
        have made : MadeUp ⟨[], none, buffer, previous, depth⟩
            ⟨[], none, buffer ++ [closing ⟨[], none, buffer, previous, depth⟩], previous, depth⟩ :=
          ⟨rfl, notMet, by simp, rfl, ended⟩
        exact ⟨[], ⟨rfl, rfl, fun _ => ended, fun _ => rfl, by simp, by simp,
          fun real => absurd made real⟩, fun real => absurd made real⟩

/-- Looking at more tokens. -/
theorem Local.pullMore (count : Nat) : Local (pullMore count) := by
  induction count with
  | zero => exact .pull
  | succ count ih => exact fun s => (Local.pull s).bind fun _ s' _ => ih s'

/-- Looking at a token. -/
theorem Local.peekAt (count : Nat) : Local (peekAt count) := by
  intro s
  have more := Local.pullMore (count - s.buffer.length) s
  have again (other : List Token) (fault : Option Fault) :
      (s.continued other fault).buffer[count]? = s.buffer[count]? := rfl
  unfold LocalAt at more ⊢
  rw [peekAt_run]
  cases waiting : s.buffer[count]? with
  | some t =>
    refine ⟨[], .refl s, fun _ other fault => ?_⟩
    rw [peekAt_run, again, waiting]
    rfl
  | none =>
    refine more.mono ?_ ?_
    · rintro t s' ⟨u, pulls, same⟩
      refine ⟨u, pulls, fun real other fault => ?_⟩
      rw [peekAt_run, again, waiting]
      exact same real other fault
    · rintro f s' (met | ⟨u, pulls, same⟩)
      · exact .inl met
      · refine .inr ⟨u, pulls, fun real other fault => ?_⟩
        rw [peekAt_run, again, waiting]
        exact same real other fault

/-- Taking a token does not take the end, so an end that was met stays met. -/
theorem metEnd_taken {t : Token} {others : List Token} (waiting : s.buffer = t :: others) :
    MetEnd { s with
      buffer := if t.isEnd then s.buffer else s.buffer.tail, previous := some t } ↔ s.MetEnd := by
  unfold MetEnd
  rw [waiting]
  cases last : t.isEnd with
  | true => exact Iff.rfl
  | false => cases others <;> simp [last]

/-- Taking a token does not look at another one. -/
theorem newest?_taken {t : Token} {others : List Token} (waiting : s.buffer = t :: others) :
    newest? { s with
      buffer := if t.isEnd then s.buffer else s.buffer.tail, previous := some t } = s.newest? := by
  unfold newest?
  rw [waiting]
  cases t.isEnd <;> cases others <;> simp [List.getLast?_cons]

/-- Taking a token. -/
theorem Local.advance : Local advance := by
  intro s
  have shown := peek_spec s
  have looked : LocalAt Recognizer.peek s := Local.peekAt 0 s
  unfold LocalAt at looked ⊢
  rw [advance_run]
  cases run : Recognizer.peek s with
  | error f s' =>
    rw [run] at looked
    rcases looked with met | ⟨u, pulls, same⟩
    · exact .inl met
    · refine .inr ⟨u, pulls, fun real other fault => ?_⟩
      rw [advance_run, same real other fault]
  | ok t s' =>
    rw [run] at shown looked
    obtain ⟨others, waiting⟩ := shown.waiting
    obtain ⟨u, pulls, same⟩ := looked
    have met := metEnd_taken waiting
    have made : MadeUp s s' → MadeUp s { s' with
        buffer := if t.isEnd then s'.buffer else s'.buffer.tail, previous := some t } :=
      fun made => { made with met := met.2 made.met }
    refine ⟨u, ?_, fun real other fault => ?_⟩
    · exact { pulls with
        ended := met.2 ∘ pulls.ended
        notEnd := fun inside => pulls.notEnd (inside ∘ met.2)
        newest := fun real => (newest?_taken waiting).trans (pulls.newest (real ∘ made)) }
    · rw [advance_run, same (real ∘ made) other fault]
      rfl

/-! ## Programs -/

/-- The steps of a recognizer depend only on what they look at. -/
theorem keptFrom_localAt : KeptFrom fun _ r s => LocalAt r s where
  pure _ s := ⟨[], .refl s, fun _ _ _ => rfl⟩
  bind := LocalAt.bind
  peekAt count _ := Local.peekAt count
  advance := Local.advance
  since _ s := ⟨[], .refl s, fun _ _ _ => rfl⟩
  refuse _ _ s := .inr ⟨[], .refl s, fun _ _ _ => rfl⟩

/-- **The recognizer of programs depends only on what it looks at.** -/
theorem local_program : Local program := by
  intro s
  have inside : LocalAt (programIn (maxNesting - s.depth)) s :=
    keptFrom_localAt.keptBySteps.programIn _ s
  -- What stands behind what is looked at does not change the number of open levels.
  have same (other : List Token) (fault : Option Fault) :
      program (s.continued other fault) =
        programIn (maxNesting - s.depth) (s.continued other fault) := program_run _
  simp only [LocalAt, program_run s, same]
  exact inside

end Recognizer

end PascalFront
