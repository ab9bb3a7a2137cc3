import PascalFront.Proofs.Grammar.View
/-!
# The primitive recognizers

What each primitive recognizer does to the view of a stream: looking at tokens
leaves the view, taking a token takes it, and a loop does its item and then
itself again.

A result is judged by an `Outcome`: one condition on what a recognizer yields,
one on the fault that it stops with. `Outcome.bind` goes through a recognizer
step by step.
-/

namespace PascalFront

namespace Recognizer

open TokenStream

/-- **The outcome of a recognizer** meets a condition on its result, or another
one on its fault. -/
def Outcome {α : Type} (Ok : α → TokenStream → Prop) (Bad : Fault → TokenStream → Prop) :
    EStateM.Result Fault TokenStream α → Prop
  | .ok a s => Ok a s
  | .error fault s => Bad fault s

section Bind

variable {α β : Type} {r r' : Recognizer β} {next : β → Recognizer α} {s s' : TokenStream}

/-- Behind a result the recognizer goes on with it. -/
theorem bind_of_ok {b : β} (h : r s = .ok b s') : (r >>= next) s = next b s' := by
  show EStateM.bind r next s = _
  rw [EStateM.bind, h]

/-- Behind a fault the recognizer does not go on. -/
theorem bind_of_error {fault : Fault} (h : r s = .error fault s') :
    (r >>= next) s = .error fault s' := by
  show EStateM.bind r next s = _
  rw [EStateM.bind, h]

/-- A result is one of what comes behind a result. -/
theorem exists_of_bind {a : α} (h : (r >>= next) s = .ok a s') :
    ∃ b s₁, r s = .ok b s₁ ∧ next b s₁ = .ok a s' := by
  cases first : r s with
  | error fault s₁ =>
    rw [bind_of_error first] at h
    cases h
  | ok b s₁ =>
    rw [bind_of_ok first] at h
    exact ⟨b, s₁, rfl, h⟩

/-- Behind recognizers that do the same it goes on the same way. -/
theorem bind_congr_run (h : r s = r' s) : (r >>= next) s = (r' >>= next) s := by
  show EStateM.bind r next s = EStateM.bind r' next s
  rw [EStateM.bind, EStateM.bind, h]

/-- A recognizer is followed by others that do the same with what it yields. -/
theorem bind_congr_next {next' : β → Recognizer α}
    (h : ∀ b s', r s = .ok b s' → next b s' = next' b s') : (r >>= next) s = (r >>= next') s := by
  cases run : r s with
  | error fault s' => rw [bind_of_error run, bind_of_error run]
  | ok b s' =>
    rw [bind_of_ok run, bind_of_ok run]
    exact h b s' run

end Bind

section Outcome

variable {α β : Type} {Ok : α → TokenStream → Prop} {Bad : Fault → TokenStream → Prop}
  {s : TokenStream}

/-- Weaker conditions are met as well. -/
theorem Outcome.mono {Ok' : α → TokenStream → Prop} {Bad' : Fault → TokenStream → Prop}
    {result : EStateM.Result Fault TokenStream α} (h : Outcome Ok Bad result)
    (ok : ∀ a s, Ok a s → Ok' a s) (bad : ∀ fault s, Bad fault s → Bad' fault s) :
    Outcome Ok' Bad' result := by
  cases result with
  | ok a s => exact ok a s h
  | error fault s => exact bad fault s h

/-- **One step after the other.** A recognizer that goes on behind another one is
judged by what it does with the results of that one. -/
theorem Outcome.bind {r : Recognizer β} {next : β → Recognizer α}
    {Mid : β → TokenStream → Prop} {Bad' : Fault → TokenStream → Prop}
    (first : Outcome Mid Bad' (r s)) (bad : ∀ fault s', Bad' fault s' → Bad fault s')
    (behind : ∀ b s', Mid b s' → Outcome Ok Bad (next b s')) :
    Outcome Ok Bad ((r >>= next) s) := by
  cases h : r s with
  | ok b s' =>
    rw [h] at first
    rw [bind_of_ok h]
    exact behind b s' first
  | error fault s' =>
    rw [h] at first
    rw [bind_of_error h]
    exact bad fault s' first

end Outcome

variable {s s' : TokenStream} {t : Token}

/-! ## Looking at tokens -/

/-- Two states of a stream show the same. -/
structure SameView (s s' : TokenStream) : Prop where
  /-- The same tokens are ahead. -/
  ahead : s.ahead = s'.ahead
  /-- The same follows them. -/
  ending : s'.ending = s.ending
  /-- The same token was taken last. -/
  previous : s'.previous = s.previous

/-- **Looking at one more token** puts into the buffer what is found behind it,
and the view stays. -/
theorem pull_spec (noEnd : ∀ t ∈ s.buffer, t.isEnd = false) :
    Outcome (fun t s' => SameView s s' ∧ s.look s.buffer.length = .ok t ∧
        s'.buffer = s.buffer ++ [t])
      (fun fault _ => s.look s.buffer.length = .error fault) (pull s) := by
  obtain ⟨pending, fault, buffer, previous⟩ := s
  have notLast : buffer.getLast?.filter Token.isEnd = none := by
    cases h : buffer.getLast? with
    | none => rfl
    | some t => simp [noEnd t (List.mem_of_getLast? h)]
  have noneFound : buffer.find? Token.isEnd = none := by
    simpa [List.find?_eq_none] using noEnd
  have split (others : List Token) :
      (buffer ++ others).takeWhile (!·.isEnd) = buffer ++ others.takeWhile (!·.isEnd) :=
    List.takeWhile_append_of_pos (by simpa using noEnd)
  have front : buffer.takeWhile (!·.isEnd) = buffer := by simpa using split []
  unfold pull
  simp only [notLast]
  cases pending with
  | cons t rest =>
    refine ⟨⟨?_, ?_, rfl⟩, ?_, rfl⟩
    · simp [ahead]
    · simp [ending]
    · cases last : t.isEnd <;> simp [look, ahead, ending, split, noneFound, last]
  | nil =>
    cases fault with
    | some fault => simp [Outcome, look, ahead, ending, front, noneFound]
    | none =>
      refine ⟨⟨?_, ?_, rfl⟩, ?_, rfl⟩
      · simp [ahead, split, front, closing]
      · simp [ending, noneFound, closing]
      · simp [look, ahead, ending, front, noneFound, closing]

/-- An end that was looked at last is found again; otherwise the next token is looked
at, or the end or the fault behind them. -/
theorem pull_run (s : TokenStream) : pull s =
    match s.buffer.getLast?.filter Token.isEnd with
    | some t => .ok t { s with buffer := s.buffer ++ [t] }
    | none =>
      match s.pending with
      | t :: rest => .ok t { s with pending := rest, buffer := s.buffer ++ [t] }
      | [] =>
        match s.fault with
        | some fault => .error fault { s with fault := none }
        | none => .ok s.closing { s with buffer := s.buffer ++ [s.closing] } :=
  rfl

/-- A token that waits in the buffer is found there; otherwise more tokens are
looked at. -/
theorem peekAt_run (count : Nat) (s : TokenStream) : peekAt count s =
    match s.buffer[count]? with
    | some t => .ok t s
    | none => pullMore (count - s.buffer.length) s := by
  have got : (get : Recognizer TokenStream) s = .ok s s := rfl
  rw [peekAt, bind_of_ok got]
  cases s.buffer[count]? <;> rfl

/-- Looking at a token that waits in the buffer changes nothing. -/
theorem peek_of_buffer {others : List Token} (h : s.buffer = t :: others) :
    peek s = .ok t s := by
  rw [peek, peekAt_run, h]
  rfl

/-- A token in front of the buffer is the next one. -/
theorem upcoming_of_buffer {others : List Token} (h : s.buffer = t :: others) :
    s.upcoming = .ok t := by
  cases last : t.isEnd with
  | false => exact upcoming_of_ahead (ahead_of_buffer h last)
  | true => simp [upcoming, look, ahead, ending, h, last]

/-- **Looking at the next token.** -/
theorem peek_spec (s : TokenStream) :
    Outcome (fun t s' => Peeked t s s') (fun fault _ => s.upcoming = .error fault) (peek s) := by
  rcases waiting : s.buffer with - | ⟨t, others⟩
  · have run : peek s = pull s := by
      rw [peek, peekAt_run, waiting]
      rfl
    rw [run]
    refine (pull_spec (by simp [waiting])).mono ?_ ?_
    · rintro t s' ⟨same, shown, buffer⟩
      rw [waiting] at shown buffer
      exact { ahead := same.ahead, ending := same.ending, previous := same.previous
              settled := fun _ => by simp [Settled, buffer]
              shown, waiting := ⟨[], buffer⟩, alone := fun _ => buffer }
    · intro fault s' shown
      rwa [waiting] at shown
  · rw [peek_of_buffer waiting]
    refine { toTakes := .refl s, shown := upcoming_of_buffer waiting, waiting := ⟨others, waiting⟩
             alone := fun settled => ?_ }
    rw [Settled, waiting] at settled
    have : others = [] := by simpa using settled
    rw [waiting, this]

/-- Looking at the next token again finds the same. -/
theorem peek_again (run : peek s = .ok t s') : peek s' = .ok t s' := by
  have peeked := peek_spec s
  rw [run] at peeked
  obtain ⟨others, waiting⟩ := peeked.waiting
  exact peek_of_buffer waiting

/-! ## Taking tokens -/

/-- What taking the next token does to the stream. -/
theorem advance_run (s : TokenStream) : advance s =
    match peek s with
    | .ok t s' => .ok t { s' with
        buffer := if t.isEnd then s'.buffer else s'.buffer.tail, previous := some t }
    | .error fault s' => .error fault s' := by
  unfold advance
  simp only [bind, EStateM.bind]
  cases peek s <;> rfl

/-- Dropping the token in front of the buffer takes it. -/
theorem takes_of_buffer {others : List Token} (h : s.buffer = t :: others)
    (notEnd : t.isEnd = false) : Takes [t] s { s with buffer := others, previous := some t } := by
  refine ⟨ahead_of_buffer h notEnd, ?_, rfl, fun settled => ?_⟩
  · simp only [ending, h, List.cons_append, List.find?_cons, notEnd]
    cases others ++ s.pending <;> simp [List.getLast?_cons]
  · rw [Settled, h, List.length_cons] at settled
    show others.length ≤ 1
    omega

/-- **A token that waits in the buffer is taken from it.** -/
theorem advance_of_buffer {others : List Token} (h : s.buffer = t :: others)
    (notEnd : t.isEnd = false) :
    ∃ s', advance s = .ok t s' ∧ Takes [t] s s' ∧ s'.buffer = others := by
  refine ⟨{ s with buffer := others, previous := some t }, ?_, takes_of_buffer h notEnd, rfl⟩
  rw [advance_run, peek_of_buffer h]
  simp [notEnd, h]

/-- A token that has been looked at is taken. -/
theorem advance_of_peeked {s₀ : TokenStream} (h : Peeked t s₀ s) (notEnd : t.isEnd = false) :
    ∃ s', advance s = .ok t s' ∧ Takes [t] s₀ s' := by
  obtain ⟨others, waiting⟩ := h.waiting
  obtain ⟨s', run, takes, -⟩ := advance_of_buffer waiting notEnd
  exact ⟨s', run, h.toTakes.trans takes⟩

/-! ## Looking two tokens ahead -/

/-- **The token behind the next one has been looked at** between two states of a
stream. -/
structure PeekedSecond (first t : Token) (s s' : TokenStream) : Prop extends SameView s s' where
  /-- The token was the second one. -/
  shown : (∃ more, s.ahead = first :: t :: more) ∨ (s.ahead = [first] ∧ s.ending = .ok t)
  /-- Both tokens wait in the buffer. -/
  waiting : ∃ others, s'.buffer = first :: t :: others
  /-- Nothing else has been looked at. -/
  alone : s.Settled → s'.buffer = [first, t]

/-- What is found behind the next token. -/
theorem look_one {first : Token} {rest : List Token} (h : s.ahead = first :: rest) :
    s.look 1 = (rest.head?.map Except.ok).getD s.ending := by
  rw [look, h]
  cases rest <;> rfl

/-- **Looking at the token behind the next one**, which has been looked at
itself. -/
theorem peekAt_one_spec {s₀ : TokenStream} (peeked : Peeked t s₀ s) (notEnd : t.isEnd = false) :
    Outcome (fun t' s' => PeekedSecond t t' s₀ s')
      (fun fault _ => s₀.ahead = [t] ∧ s₀.ending = .error fault) (peekAt 1 s) := by
  obtain ⟨others, waiting⟩ := peeked.waiting
  have front := ahead_of_buffer waiting notEnd
  have ahead₀ : s₀.ahead = s.ahead := peeked.ahead
  rw [peekAt_run, waiting]
  cases others with
  | nil =>
    have shown := pull_spec (s := s) (by simpa [waiting] using notEnd)
    rw [waiting] at shown
    generalize ([] ++ s.pending).takeWhile (fun t : Token => !t.isEnd) = behind at front
    refine shown.mono ?_ ?_
    · rintro t' s' ⟨same, found, buffer⟩
      refine
        { ahead := ahead₀.trans same.ahead, ending := same.ending.trans peeked.ending
          previous := same.previous.trans peeked.previous
          shown := ?_, waiting := ⟨[], buffer⟩, alone := fun _ => buffer }
      rw [List.length_singleton, look_one front] at found
      rw [ahead₀, ← peeked.ending, front]
      cases behind with
      | nil => exact .inr ⟨rfl, found⟩
      | cons t'' more =>
        obtain rfl := Except.ok.inj found
        exact .inl ⟨more, rfl⟩
    · intro fault s' found
      rw [List.length_singleton, look_one front] at found
      rw [ahead₀, ← peeked.ending, front]
      cases behind with
      | nil => exact ⟨rfl, found⟩
      | cons t'' more => exact absurd found (by simp)
  | cons t' others =>
    refine
      { ahead := ahead₀, ending := peeked.ending, previous := peeked.previous
        shown := ?_, waiting := ⟨others, waiting⟩
        alone := fun settled => absurd (peeked.alone settled) (by simp [waiting]) }
    rw [ahead₀, ← peeked.ending, front]
    cases last : t'.isEnd with
    | false => exact .inl ⟨(others ++ s.pending).takeWhile (!·.isEnd), by simp [last]⟩
    | true => exact .inr ⟨by simp [last], by simp [ending, waiting, notEnd, last]⟩

/-- The second token is faced behind the first one. -/
theorem PeekedSecond.faces {first : Token} (h : PeekedSecond first t s s') :
    Faces s s' [first] t := by
  rcases h.shown with ⟨more, front⟩ | ⟨front, last⟩
  · refine .token front fun settled => ?_
    have notEnd (t' : Token) (listed : t' ∈ s.ahead) := isEnd_of_mem_ahead listed
    rw [front] at notEnd
    have now := ahead_of_buffer (h.alone settled) (notEnd first (by simp))
    rw [← h.ahead, front] at now
    refine ⟨by rw [h.alone settled]; rfl, ?_⟩
    simpa [unseen, notEnd t (by simp)] using (List.cons.inj now).2
  · exact .last front last fun settled => by rw [h.alone settled]; rfl

/-- Two tokens that have been looked at are taken one after the other. -/
theorem advance_of_peekedSecond {first : Token} (h : PeekedSecond first t s s')
    (notEnd : t.isEnd = false) :
    ∃ s₁ s₂, advance s' = .ok first s₁ ∧ Takes [first] s s₁ ∧ advance s₁ = .ok t s₂ ∧
      Takes [t] s₁ s₂ := by
  obtain ⟨others, waiting⟩ := h.waiting
  have firstNotEnd : first.isEnd = false := by
    rcases h.shown with ⟨more, front⟩ | ⟨front, -⟩ <;>
      exact isEnd_of_mem_ahead (s := s) (by simp [front])
  obtain ⟨s₁, run₁, takes₁, buffer₁⟩ := advance_of_buffer waiting firstNotEnd
  obtain ⟨s₂, run₂, takes₂, -⟩ := advance_of_buffer buffer₁ notEnd
  refine ⟨s₁, s₂, run₁, ?_, run₂, takes₂⟩
  exact
    { ahead := h.ahead.trans takes₁.ahead, ending := takes₁.ending.trans h.ending
      previous := takes₁.previous
      settled := fun settled => by
        have alone := h.alone settled
        rw [waiting] at alone
        rw [Settled, buffer₁, (List.cons.inj alone).2]
        exact Nat.le_refl 1 }

/-- **Whether the next token is of a kind.** -/
theorem check_spec (kind : Kind) (s : TokenStream) :
    Outcome (fun yes s' => ∃ t, Peeked t s s' ∧ yes = (!t.isEnd && t.kind = kind))
      (fun fault _ => s.upcoming = .error fault) (check kind s) :=
  (peek_spec s).bind (fun _ _ => id) fun t _ peeked => ⟨t, peeked, rfl⟩

/-- **Taking the next token if it is of a kind.** -/
theorem accept_spec (kind : Kind) (s : TokenStream) :
    Outcome
      (fun yes s' =>
        (yes = true ∧ ∃ t, t.kind = kind ∧ t.isEnd = false ∧ Takes [t] s s') ∨
        (yes = false ∧ ∃ t, Peeked t s s' ∧ (t.isEnd = true ∨ t.kind ≠ kind)))
      (fun fault _ => s.upcoming = .error fault) (accept kind s) := by
  refine (check_spec kind s).bind (fun _ _ => id) ?_
  rintro yes s' ⟨t, peeked, rfl⟩
  cases fits : (!t.isEnd && decide (t.kind = kind)) with
  | false =>
    refine .inr ⟨rfl, t, peeked, ?_⟩
    cases last : t.isEnd with
    | true => exact .inl rfl
    | false => exact .inr (by simpa [last] using fits)
  | true =>
    simp only [Bool.and_eq_true, Bool.not_eq_true', decide_eq_true_eq] at fits
    obtain ⟨s'', run, takes⟩ := advance_of_peeked peeked fits.1
    show Outcome _ _ ((advance >>= _) s')
    rw [bind_of_ok run]
    exact .inl ⟨rfl, t, fits.2, fits.1, takes⟩

/-- **Refusing a token** that is faced. -/
theorem refuse_spec {α : Type} {W : List Token → Prop} {u : List Token} {Ok : α → TokenStream → Prop}
    (complaint : Complaint) {s₀ : TokenStream} (faces : Faces s₀ s u t) (holds : W u) :
    Outcome Ok (fun fault s' => Stopped W s₀ s' fault) (refuse (α := α) complaint t s) :=
  .refused complaint faces holds

/-- **Refusing the next token.** -/
theorem reject_spec {α : Type} {W : List Token → Prop} {Ok : α → TokenStream → Prop}
    (complaint : Complaint) (s : TokenStream) (holds : W []) :
    Outcome Ok (fun fault s' => Stopped W s s' fault) (reject (α := α) complaint s) :=
  (peek_spec s).bind (fun _ _ shown => .of_upcoming shown holds)
    fun _ _ peeked => refuse_spec complaint peeked.faces holds

/-- A token that is taken on a condition, and refused otherwise. -/
theorem take_or_reject_spec {W : List Token → Prop} (holds : W []) (complaint : Complaint)
    {s₀ : TokenStream} (peeked : Peeked t s₀ s) {fits : Prop} [Decidable fits]
    (notEnd : fits → t.isEnd = false) :
    Outcome (fun t' s' => t' = t ∧ fits ∧ Takes [t] s₀ s') (fun fault s' => Stopped W s₀ s' fault)
      ((if fits then advance else reject complaint) s) := by
  by_cases h : fits
  · obtain ⟨s', run, takes⟩ := advance_of_peeked peeked (notEnd h)
    rw [if_pos h, run]
    exact ⟨rfl, h, takes⟩
  · rw [if_neg h]
    refine (reject_spec (W := W) complaint s holds).mono (fun _ _ => id) fun fault s' stopped => ?_
    exact stopped.behind peeked.toTakes fun u _ => id

/-- **Taking a token of a kind.** -/
theorem expect_spec {W : List Token → Prop} (holds : W []) (kind : Kind) (complaint : Complaint)
    (s : TokenStream) :
    Outcome (fun t s' => t.kind = kind ∧ t.isEnd = false ∧ Takes [t] s s')
      (fun fault s' => Stopped W s s' fault) (expect kind complaint s) := by
  refine (check_spec kind s).bind (fun _ _ shown => .of_upcoming shown holds) ?_
  rintro yes s' ⟨t, peeked, rfl⟩
  refine (take_or_reject_spec holds complaint peeked ?_).mono ?_ (fun _ _ => id)
  · intro fits
    simpa using (Bool.and_eq_true_iff.1 fits).1
  · rintro t' s'' ⟨rfl, fits, takes⟩
    simp only [Bool.and_eq_true, Bool.not_eq_true', decide_eq_true_eq] at fits
    exact ⟨fits.2, fits.1, takes⟩

/-- **Taking a keyword** in the spelling of its word. -/
theorem expectKeyword_spec {W : List Token → Prop} (holds : W []) {kind : Kind}
    (notEnd : kind ≠ .endOfInput) (word : String) (s : TokenStream) :
    Outcome (fun t s' => (t.kind = kind ∧ Kind.lowered t.value.toList = word) ∧ Takes [t] s s')
      (fun fault s' => Stopped W s s' fault) (expectKeyword kind word s) := by
  refine (peek_spec s).bind (fun _ _ shown => .of_upcoming shown holds) fun t s' peeked => ?_
  refine (take_or_reject_spec holds _ peeked ?_).mono ?_ (fun _ _ => id)
  · rintro ⟨same, -⟩
    simpa [Token.isEnd, same] using notEnd
  · rintro t' s'' ⟨rfl, fits, takes⟩
    exact ⟨fits, takes⟩

/-- The span up to the token taken last. -/
theorem since_run (start : Position) (s : TokenStream) :
    since start s = .ok (.between start ((s.previous.map Token.stopPosition).getD .zero)) s :=
  rfl

/-! ## Loops -/

section Loops

variable {σ α : Type} {item : σ → Recognizer (Option (α × σ))}

/-- **Every item makes progress**: it leaves fewer tokens ahead. -/
def Progresses (item : σ → Recognizer (Option (α × σ))) : Prop :=
  ∀ state s a state' s', item state s = .ok (some (a, state')) s' →
    s'.ahead.length < s.ahead.length

/-- A bound on the rounds of a loop makes no difference as long as there are more
rounds than tokens ahead. -/
theorem collect_eq_collect (progress : Progresses item) {limit limit' : Nat} {state : σ}
    {s : TokenStream} (enough : s.ahead.length < limit) (enough' : s.ahead.length < limit') :
    collect item limit state s = collect item limit' state s := by
  induction limit generalizing limit' state s with
  | zero => exact absurd enough (Nat.not_lt_zero _)
  | succ limit ih =>
    cases limit' with
    | zero => exact absurd enough' (Nat.not_lt_zero _)
    | succ limit' =>
      rw [collect, collect]
      cases run : item state s with
      | error fault s' => rw [bind_of_error run, bind_of_error run]
      | ok found s' =>
        rw [bind_of_ok run, bind_of_ok run]
        cases found with
        | none => rfl
        | some found =>
          have := progress state s found.1 found.2 s' run
          exact bind_congr_run (ih (by omega) (by omega))

/-- **A loop** does its item, and if there is one does itself again. -/
theorem many_eq (progress : Progresses item) (state : σ) :
    many item state = (do
      match ← item state with
      | none => return []
      | some (a, state') => return a :: (← many item state')) := by
  funext s
  show collect item (s.size + 1) state s = _
  rw [collect]
  cases run : item state s with
  | error fault s' => rw [bind_of_error run, bind_of_error run]
  | ok found s' =>
    rw [bind_of_ok run, bind_of_ok run]
    cases found with
    | none => rfl
    | some found =>
      have fewer := progress state s found.1 found.2 s' run
      have before := s.length_ahead_le
      have after := s'.length_ahead_le
      refine bind_congr_run ?_
      show _ = collect item (s'.size + 1) found.2 s'
      exact collect_eq_collect progress (by omega) (by omega)

end Loops

/-- What a round without a state finds the item has found. -/
theorem run_of_stateless {α : Type} {item : Recognizer (Option α)} {a : α} {state : Unit}
    (run : (do return (← item).map (·, ())) s = .ok (some (a, state)) s') :
    item s = .ok (some a) s' := by
  obtain ⟨found, s₁, first, yielded⟩ := exists_of_bind run
  cases found with
  | none => exact absurd (EStateM.Result.ok.inj yielded).1 (by simp)
  | some b =>
    obtain ⟨same, rfl⟩ := EStateM.Result.ok.inj yielded
    obtain ⟨rfl, -⟩ := Prod.mk.inj (Option.some.inj same)
    exact first

/-- An item without a state makes progress. -/
theorem Progresses.stateless {α : Type} {item : Recognizer (Option α)}
    (progress : ∀ s a s', item s = .ok (some a) s' → s'.ahead.length < s.ahead.length) :
    Progresses (fun _ : Unit => return (← item).map (·, ())) :=
  fun _ s a _ s' run => progress s a s' (run_of_stateless run)

/-- **A loop without a state** does its item, and if there is one does itself
again. -/
theorem manyOf_eq {α : Type} {item : Recognizer (Option α)}
    (progress : ∀ s a s', item s = .ok (some a) s' → s'.ahead.length < s.ahead.length) :
    manyOf item = (do
      match ← item with
      | none => return []
      | some a => return a :: (← manyOf item)) := by
  show many _ () = _
  rw [many_eq (.stateless progress), bind_assoc]
  refine bind_congr fun found => ?_
  rw [pure_bind]
  cases found <;> rfl

/-- Another item behind a separator. -/
def behindSeparator {α : Type} (separator : Kind) (item : Recognizer α) :
    Recognizer (Option α) := do
  if ← accept separator then return some (← item) else return none

/-- An item found behind a separator is found behind a token. -/
theorem run_of_behindSeparator {α : Type} {separator : Kind} {item : Recognizer α} {a : α}
    (run : behindSeparator separator item s = .ok (some a) s') :
    ∃ t s₁, Takes [t] s s₁ ∧ item s₁ = .ok a s' := by
  obtain ⟨yes, s₁, accepted, behind⟩ := exists_of_bind run
  have known := accept_spec separator s
  rw [accepted] at known
  rcases known with ⟨rfl, t, -, -, takes⟩ | ⟨rfl, -⟩
  · obtain ⟨b, s₂, found, yielded⟩ := exists_of_bind behind
    obtain ⟨same, rfl⟩ := EStateM.Result.ok.inj yielded
    obtain rfl := Option.some.inj same
    exact ⟨t, s₁, takes, found⟩
  · exact absurd (EStateM.Result.ok.inj behind).1 (by simp)

/-- An item behind a separator makes progress if the item leaves no more tokens. -/
theorem behindSeparator_progresses {α : Type} {separator : Kind} {item : Recognizer α}
    (progress : ∀ s a s', item s = .ok a s' → s'.ahead.length ≤ s.ahead.length)
    (s : TokenStream) (a : α) (s' : TokenStream)
    (run : behindSeparator separator item s = .ok (some a) s') :
    s'.ahead.length < s.ahead.length := by
  obtain ⟨t, s₁, takes, found⟩ := run_of_behindSeparator run
  exact Nat.lt_of_le_of_lt (progress _ _ _ found) (takes.length_lt (by simp))

/-- **Items with separators between them**: an item, and behind a separator the
same again. -/
theorem separated_eq {α : Type} {separator : Kind} {item : Recognizer α}
    (progress : ∀ s a s', item s = .ok a s' → s'.ahead.length ≤ s.ahead.length) :
    separated separator item = (do
      let first ← item
      if ← accept separator then return first :: (← separated separator item)
      else return [first]) := by
  show (do let first ← item; return first :: (← manyOf (behindSeparator separator item))) = _
  refine bind_congr fun first => ?_
  rw [manyOf_eq (behindSeparator_progresses progress)]
  show (((accept separator >>= _) >>= _) >>= _) = _
  rw [bind_assoc, bind_assoc]
  refine bind_congr fun yes => ?_
  cases yes with
  | false => rfl
  | true =>
    show _ = ((item >>= fun a => manyOf (behindSeparator separator item) >>= fun others =>
      pure (a :: others)) >>= fun others => pure (first :: others))
    simp only [if_pos, bind_assoc, pure_bind]

end Recognizer

end PascalFront
