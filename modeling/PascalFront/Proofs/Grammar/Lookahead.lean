import PascalFront.Proofs.Grammar.Primitive
/-!
# Looking ahead

Any number of tokens may have been looked at. They wait in the buffer in the order
of the stream, and once the end of the input is among them nothing but copies of
that end comes behind it (`TokenStream.Regular`).

On such a stream looking at a place yields what is found there and leaves the view
as it is, and taking a token takes one off the view. A fault in the place that is
looked at is met; the tokens before it have been moved into the buffer by then, and
the stream shows them as it would have done without the fault.
-/

namespace PascalFront

namespace TokenStream

/-- **The buffer holds what is found in its places.** -/
def Regular (s : TokenStream) : Prop :=
  ∀ count t, s.buffer[count]? = some t → s.look count = .ok t

/-- The stream after its fault has been met. -/
def faultless (s : TokenStream) : TokenStream := { s with fault := none }

variable {s s' : TokenStream} {t : Token} {count : Nat} {fault : Fault}

/-- A stream that nobody has looked into is regular. -/
theorem regular_of_fresh (fresh : s.buffer = []) : s.Regular := by
  intro count t found
  simp [fresh] at found

@[simp] theorem ahead_faultless (s : TokenStream) : s.faultless.ahead = s.ahead := rfl

/-- Without a fault the end follows where it followed before. -/
theorem ending_faultless (h : s.ending = .ok t) : s.faultless.ending = .ok t := by
  unfold ending at h ⊢
  cases found : (s.buffer ++ s.pending).find? Token.isEnd with
  | some last =>
    simp only [found] at h
    simpa only [faultless, found] using h
  | none =>
    cases noFault : s.fault with
    | some fault => simp [found, noFault] at h
    | none =>
      simp only [found, noFault] at h
      simpa only [faultless, found] using h

/-- Without a fault a token is found where it was found before. -/
theorem look_faultless (h : s.look count = .ok t) : s.faultless.look count = .ok t := by
  unfold look at h ⊢
  rw [ahead_faultless]
  cases found : s.ahead[count]? with
  | some t' => simpa only [found] using h
  | none =>
    simp only [found] at h
    exact ending_faultless h

theorem Regular.faultless (h : s.Regular) : s.faultless.Regular :=
  fun count t found => look_faultless (h count t found)

/-! ## Places -/

/-- A fault is found in every place behind one where it is found. -/
theorem look_error_of_le {count' : Nat} (le : count ≤ count') (h : s.look count = .error fault) :
    s.look count' = .error fault := by
  unfold look at h ⊢
  cases found : s.ahead[count]? with
  | some t => simp [found] at h
  | none =>
    rw [List.getElem?_eq_none (Nat.le_trans (List.getElem?_eq_none_iff.1 found) le)]
    simpa only [found] using h

/-- The end of the input is found in every place behind one where it is found. -/
theorem look_end_of_le {count' : Nat} (le : count ≤ count') (h : s.look count = .ok t)
    (last : t.isEnd = true) : s.look count' = .ok t := by
  unfold look at h ⊢
  cases found : s.ahead[count]? with
  | some t' =>
    simp only [found, Except.ok.injEq] at h
    rw [← h, isEnd_of_mem_ahead (List.mem_of_getElem? found)] at last
    exact absurd last (by decide)
  | none =>
    rw [List.getElem?_eq_none (Nat.le_trans (List.getElem?_eq_none_iff.1 found) le)]
    simpa only [found] using h

/-- Behind a token that is not the end one place further off is found what is found
there once the token has been taken. -/
theorem Takes.look_succ (h : Takes [t] s s') (count : Nat) :
    s'.look count = s.look (count + 1) := by
  rw [TokenStream.look, TokenStream.look, h.ahead, h.ending, List.singleton_append,
    List.getElem?_cons_succ]

/-- The end is in the buffer, or nothing in the buffer is the end. -/
theorem Regular.cases (h : s.Regular) :
    (∃ t, s.buffer.getLast? = some t ∧ t.isEnd = true) ∨ ∀ t ∈ s.buffer, t.isEnd = false := by
  by_cases inside : ∀ t ∈ s.buffer, t.isEnd = false
  · exact .inr inside
  · obtain ⟨t, listed, last⟩ : ∃ t ∈ s.buffer, t.isEnd = true := by
      simpa using inside
    obtain ⟨place, found⟩ := List.getElem?_of_mem listed
    have bound : place ≤ s.buffer.length - 1 := by
      have := (List.getElem?_eq_some_iff.1 found).1
      omega
    have final : s.buffer[s.buffer.length - 1]? = some t := by
      have behind := look_end_of_le bound (h place t found) last
      have inside : s.buffer.length - 1 < s.buffer.length := by
        have := List.length_pos_of_mem listed
        omega
      obtain ⟨t', found'⟩ : ∃ t', s.buffer[s.buffer.length - 1]? = some t' :=
        ⟨_, List.getElem?_eq_getElem inside⟩
      rw [found', Except.ok.inj ((h _ t' found').symm.trans behind)]
    exact .inl ⟨t, by rw [List.getLast?_eq_getElem?, final], last⟩

end TokenStream

namespace Recognizer

open TokenStream

variable {s s' s'' : TokenStream} {t : Token} {count : Nat} {fault : Fault}

theorem SameView.refl (s : TokenStream) : SameView s s := ⟨rfl, rfl, rfl⟩

theorem SameView.symm (h : SameView s s') : SameView s' s :=
  ⟨h.ahead.symm, h.ending.symm, h.previous.symm⟩

theorem SameView.trans (first : SameView s s') (then_ : SameView s' s'') : SameView s s'' :=
  ⟨first.ahead.trans then_.ahead, then_.ending.trans first.ending,
    then_.previous.trans first.previous⟩

/-- Where the view is the same the same is found. -/
theorem SameView.look (h : SameView s s') (count : Nat) : s'.look count = s.look count := by
  rw [TokenStream.look, TokenStream.look, h.ending, h.ahead]

/-- **Tokens have been looked at** between two states of a stream: the view is the
same, with and without the fault, and the buffer is in order. -/
structure Looked (s s' : TokenStream) : Prop extends SameView s s' where
  /-- The view without the fault is the same. -/
  faultless : SameView s.faultless s'.faultless
  /-- The buffer is in order. -/
  regular : s'.Regular

theorem Looked.refl (h : s.Regular) : Looked s s := ⟨.refl s, .refl _, h⟩

theorem Looked.trans (first : Looked s s') (then_ : Looked s' s'') : Looked s s'' :=
  ⟨first.toSameView.trans then_.toSameView, first.faultless.trans then_.faultless, then_.regular⟩

/-- Looking at one more token does the same without the fault, unless it meets it. -/
theorem pull_faultless (run : pull s = .ok t s') : pull s.faultless = .ok t s'.faultless := by
  unfold pull at run
  split at run
  case h_1 last final =>
    cases run
    simp only [pull, TokenStream.faultless, final]
  case h_2 notLast =>
    split at run
    case h_1 t rest pending =>
      cases run
      simp only [pull, TokenStream.faultless, notLast, pending]
    case h_2 pending =>
      split at run
      case h_1 => cases run
      case h_2 noFault =>
        cases run
        simp only [pull, TokenStream.faultless, notLast, pending, closing]

/-- Behind an end that was looked at there is a further copy of it. -/
theorem pull_of_end (regular : s.Regular) (final : s.buffer.getLast? = some t)
    (last : t.isEnd = true) :
    pull s = .ok t { s with buffer := s.buffer ++ [t] } ∧
      SameView s { s with buffer := s.buffer ++ [t] } ∧ s.look s.buffer.length = .ok t := by
  have run : pull s = .ok t { s with buffer := s.buffer ++ [t] } := by
    simp only [pull, final, Option.filter_some, last, if_true]
  have shown : s.look s.buffer.length = .ok t := by
    rw [List.getLast?_eq_getElem?] at final
    exact look_end_of_le (Nat.sub_le _ _) (regular _ _ final) last
  have listed : t ∈ s.buffer := List.mem_of_getLast? final
  -- The buffer holds an end, so nothing behind the buffer is seen.
  have stops (others : List Token) :
      (s.buffer ++ others).takeWhile (!·.isEnd) = s.buffer.takeWhile (!·.isEnd) := by
    rw [List.takeWhile_append, if_neg]
    intro whole
    have all := List.all_takeWhile (p := fun t : Token => !t.isEnd) (l := s.buffer)
    rw [(List.takeWhile_prefix _).eq_of_length whole] at all
    simpa [last] using List.all_eq_true.1 all t listed
  have finds (others : List Token) :
      (s.buffer ++ others).find? Token.isEnd = s.buffer.find? Token.isEnd := by
    rw [List.find?_append]
    cases found : s.buffer.find? Token.isEnd with
    | some first => rfl
    | none => exact absurd last (List.find?_eq_none.1 found t listed)
  obtain ⟨first, found⟩ : ∃ first, s.buffer.find? Token.isEnd = some first :=
    Option.isSome_iff_exists.1 (List.find?_isSome.2 ⟨t, listed, last⟩)
  refine ⟨run, ⟨?_, ?_, rfl⟩, shown⟩
  · simp only [ahead, List.append_assoc, stops]
  · simp only [ending, List.append_assoc, finds, found]

/-- Where a further token was found it is put into the buffer. -/
theorem regular_of_append (regular : s.Regular) (same : SameView s s')
    (shown : s.look s.buffer.length = .ok t) (buffer : s'.buffer = s.buffer ++ [t]) :
    s'.Regular := by
  intro count t' found
  rw [same.look]
  rw [buffer] at found
  rcases Nat.lt_trichotomy count s.buffer.length with before | rfl | behind
  · rw [List.getElem?_append_left before] at found
    exact regular count t' found
  · rw [List.getElem?_concat_length] at found
    rw [shown, Option.some.inj found]
  · rw [List.getElem?_eq_none (by simp; omega)] at found
    exact absurd found (by simp)

/-- A fault that is met is no longer ahead. -/
theorem pull_of_error (run : pull s = .error fault s') : s' = s.faultless := by
  unfold pull at run
  split at run
  · cases run
  · split at run
    · cases run
    · split at run
      · cases run
        rfl
      · cases run

/-- **Looking at one more token** of a regular stream. -/
theorem pull_of_regular (regular : s.Regular) :
    Outcome (fun t s' => s.look s.buffer.length = .ok t ∧ Looked s s' ∧
        s'.buffer = s.buffer ++ [t])
      (fun fault s' => s.look s.buffer.length = .error fault ∧ s' = s.faultless) (pull s) := by
  rcases regular.cases with ⟨t, final, last⟩ | noEnd
  · obtain ⟨run, same, shown⟩ := pull_of_end regular final last
    obtain ⟨-, same', -⟩ := pull_of_end regular.faultless final last
    rw [run]
    exact ⟨shown, ⟨same, same', regular_of_append regular same shown rfl⟩, rfl⟩
  · have found := pull_spec noEnd
    have found' := pull_spec (s := s.faultless) noEnd
    cases run : pull s with
    | error fault s' =>
      rw [run] at found
      exact ⟨found, pull_of_error run⟩
    | ok t s' =>
      rw [run] at found
      rw [pull_faultless run] at found'
      obtain ⟨same, shown, buffer⟩ := found
      exact ⟨shown, ⟨same, found'.1, regular_of_append regular same shown buffer⟩, buffer⟩

/-- **Looking at more tokens** of a regular stream. -/
theorem pullMore_of_regular (count : Nat) (regular : s.Regular) :
    Outcome (fun t s' => s.look (s.buffer.length + count) = .ok t ∧ Looked s s')
      (fun fault s' => s.look (s.buffer.length + count) = .error fault ∧ Looked s.faultless s')
      (pullMore count s) := by
  induction count generalizing s with
  | zero =>
    refine (pull_of_regular regular).mono (fun t s' h => ⟨h.1, h.2.1⟩) ?_
    rintro fault s' ⟨shown, rfl⟩
    exact ⟨shown, .refl regular.faultless⟩
  | succ count ih =>
    refine (pull_of_regular regular).bind ?_ ?_
    · rintro fault s' ⟨shown, rfl⟩
      exact ⟨look_error_of_le (by omega) shown, .refl regular.faultless⟩
    · rintro t s' ⟨-, looked, buffer⟩
      have place : s'.buffer.length + count = s.buffer.length + (count + 1) := by
        rw [buffer, List.length_append, List.length_singleton]
        omega
      have shown := ih looked.regular
      simp only [place, looked.look] at shown
      refine shown.mono (fun t s'' h => ⟨h.1, looked.trans h.2⟩) fun fault s'' h => ⟨h.1, ?_⟩
      exact Looked.trans ⟨looked.faultless, looked.faultless, looked.regular.faultless⟩ h.2

/-- **Looking at a place** of a regular stream yields what is found there. -/
theorem peekAt_of_regular (count : Nat) (regular : s.Regular) :
    Outcome (fun t s' => s.look count = .ok t ∧ Looked s s')
      (fun fault s' => s.look count = .error fault ∧ Looked s.faultless s') (peekAt count s) := by
  rw [peekAt_run]
  cases waiting : s.buffer[count]? with
  | some t => exact ⟨regular count t waiting, .refl regular⟩
  | none =>
    have place : s.buffer.length + (count - s.buffer.length) = count :=
      Nat.add_sub_of_le (List.getElem?_eq_none_iff.1 waiting)
    have found := pullMore_of_regular (count - s.buffer.length) regular
    rwa [place] at found

/-! ## Taking tokens -/

/-- **The next token has been taken** between two states of a stream, unless it is
the end of the input, which stays. -/
structure Moved (t : Token) (s s' : TokenStream) : Prop where
  /-- One token less is ahead. -/
  ahead : s'.ahead = s.ahead.tail
  /-- What follows the tokens is the same. -/
  ending : s'.ending = s.ending
  /-- Without the fault it is the same as well. -/
  faultless : s'.faultless.ending = s.faultless.ending
  /-- The token is the one taken last. -/
  previous : s'.previous = some t
  /-- The buffer is in order. -/
  regular : s'.Regular

/-- Where a token was taken the places count from the one behind it. -/
theorem Moved.look (h : Moved t s s') (count : Nat) : s'.look count = s.look (count + 1) := by
  rw [TokenStream.look, TokenStream.look, h.ahead, h.ending, List.getElem?_tail]

/-- Without the fault they do as well. -/
theorem Moved.look_faultless (h : Moved t s s') (count : Nat) :
    s'.faultless.look count = s.faultless.look (count + 1) := by
  rw [TokenStream.look, TokenStream.look, h.faultless, ahead_faultless, ahead_faultless, h.ahead,
    List.getElem?_tail]

/-- **Taking the next token** of a regular stream. -/
theorem advance_of_regular (regular : s.Regular) :
    Outcome (fun t s' => s.look 0 = .ok t ∧ Moved t s s')
      (fun fault s' => s.look 0 = .error fault ∧ Looked s.faultless s') (advance s) := by
  have looked := peekAt_of_regular 0 regular
  have peeked := peek_spec s
  have run : peek s = peekAt 0 s := rfl
  rw [advance_run, run]
  rw [run] at peeked
  cases found : peekAt 0 s with
  | error fault s' =>
    rw [found] at looked
    exact looked
  | ok t s₁ =>
    rw [found] at looked peeked
    obtain ⟨shown, looked⟩ := looked
    obtain ⟨others, waiting⟩ := peeked.waiting
    refine ⟨shown, ?_⟩
    cases last : t.isEnd with
    | true =>
      -- The end stays in front of the buffer, and nothing was ahead of it.
      have none : s₁.ahead = [] := by rw [ahead, waiting]; simp [last]
      have same : ({ s₁ with previous := some t } : TokenStream).ending = s₁.ending := by
        simp [ending, waiting, last]
      have same' : ({ s₁ with previous := some t } : TokenStream).faultless.ending =
          s₁.faultless.ending := by
        simp [ending, TokenStream.faultless, waiting, last]
      refine
        { ahead := ?_, ending := same.trans looked.ending
          faultless := same'.trans looked.faultless.ending, previous := rfl, regular := ?_ }
      · show s₁.ahead = s.ahead.tail
        rw [looked.ahead, none, List.tail_nil]
      · intro count t' at_
        have found := looked.regular count t' at_
        rw [TokenStream.look] at found ⊢
        rw [if_pos rfl, same]
        exact found
    | false =>
      have took := takes_of_buffer waiting last
      have took' := takes_of_buffer (s := s₁.faultless) waiting last
      have dropped : s₁.buffer.tail = others := by rw [waiting, List.tail_cons]
      simp only [Bool.false_eq_true, if_false, dropped]
      refine
        { ahead := ?_, ending := took.ending.trans looked.ending
          faultless := took'.ending.trans looked.faultless.ending, previous := rfl, regular := ?_ }
      · rw [looked.ahead, took.ahead]
        rfl
      · intro count t' at_
        rw [took.look_succ]
        refine looked.regular (count + 1) t' ?_
        rw [waiting, List.getElem?_cons_succ]
        exact at_

end Recognizer

end PascalFront
