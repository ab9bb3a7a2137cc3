import PascalFront.Grammar.Recognizer
/-!
# What a stream shows

A recognizer sees of a stream only the tokens ahead of it, what follows them,
and the token taken last. How many of the tokens wait in the buffer makes no
difference to what it sees: looking at tokens moves them from one place to the
other, and the view stays.

The primitive recognizers are described by what they do to the view.
`TokenStream.Takes` says which tokens were taken, `TokenStream.Stopped` where
and why a recognizer stopped with a fault.
-/

namespace PascalFront

namespace TokenStream

/-- The tokens before the end of the input that have not been taken. -/
def ahead (s : TokenStream) : List Token := (s.buffer ++ s.pending).takeWhile (!·.isEnd)

/-- What follows the tokens ahead: the end of the input, or a fault. -/
def ending (s : TokenStream) : Except Fault Token :=
  match (s.buffer ++ s.pending).find? Token.isEnd, s.fault with
  | some t, _ => .ok t
  | none, some fault => .error fault
  | none, none => .ok (.endAt (((s.buffer ++ s.pending).getLast?.or s.previous).bind Token.stop))

/-- What is found `count` places behind the next token. -/
def look (s : TokenStream) (count : Nat) : Except Fault Token :=
  match s.ahead[count]? with
  | some t => .ok t
  | none => s.ending

/-- The next token, or the fault in its place. -/
def upcoming (s : TokenStream) : Except Fault Token := s.look 0

/-- The tokens ahead that nobody has looked at. -/
def unseen (s : TokenStream) : List Token := s.pending.takeWhile (!·.isEnd)

/-- At most the next token has been looked at. -/
def Settled (s : TokenStream) : Prop := s.buffer.length ≤ 1

/-- **Tokens are taken** between two states of a stream: those ahead before are
the taken ones and those ahead now. -/
structure Takes (taken : List Token) (s s' : TokenStream) : Prop where
  /-- The taken tokens stood in front. -/
  ahead : s.ahead = taken ++ s'.ahead
  /-- What follows the tokens is the same. -/
  ending : s'.ending = s.ending
  /-- The last of the taken tokens is known. -/
  previous : s'.previous = taken.getLast?.or s.previous
  /-- No more than the next token has been looked at. -/
  settled : s.Settled → s'.Settled

/-- **The next token has been looked at** between two states of a stream. -/
structure Peeked (t : Token) (s s' : TokenStream) : Prop extends Takes [] s s' where
  /-- The token was the next one. -/
  shown : s.upcoming = .ok t
  /-- The token waits in the buffer. -/
  waiting : ∃ others, s'.buffer = t :: others
  /-- Nothing else has been looked at. -/
  alone : s.Settled → s'.buffer = [t]

variable {s s' s'' : TokenStream} {t : Token} {u v : List Token}

/-! ## Taking tokens -/

theorem Takes.refl (s : TokenStream) : Takes [] s s := ⟨rfl, rfl, rfl, id⟩

/-- What is taken first and what is taken then. -/
theorem Takes.trans (first : Takes u s s') (then_ : Takes v s' s'') : Takes (u ++ v) s s'' where
  ahead := by rw [first.ahead, then_.ahead, List.append_assoc]
  ending := then_.ending.trans first.ending
  previous := by
    rw [then_.previous, first.previous, List.getLast?_append, Option.or_assoc]
  settled := then_.settled ∘ first.settled

/-- Where nothing is taken the same tokens are found. -/
theorem Takes.look (h : Takes [] s s') (count : Nat) : s'.look count = s.look count := by
  rw [TokenStream.look, TokenStream.look, h.ending, ← List.nil_append s'.ahead, ← h.ahead]

/-- Where nothing is taken the same token comes next. -/
theorem Takes.upcoming (h : Takes [] s s') : s'.upcoming = s.upcoming := h.look 0

/-- Taking tokens leaves no more of them. -/
theorem Takes.length_le (h : Takes u s s') : s'.ahead.length ≤ s.ahead.length := by
  rw [h.ahead, List.length_append]
  omega

/-- Taking a token leaves fewer of them. -/
theorem Takes.length_lt (h : Takes u s s') (some_ : u ≠ []) :
    s'.ahead.length < s.ahead.length := by
  have := List.length_pos_iff.2 some_
  rw [h.ahead, List.length_append]
  omega

/-- There are no more tokens ahead than tokens left. -/
theorem length_ahead_le (s : TokenStream) : s.ahead.length ≤ s.size := by
  rw [size, ← List.length_append]
  exact (List.takeWhile_sublist _).length_le

/-- No token ahead is the end of the input. -/
theorem isEnd_of_mem_ahead (h : t ∈ s.ahead) : t.isEnd = false := by
  have := List.all_takeWhile (p := fun t : Token => !t.isEnd) (l := s.buffer ++ s.pending)
  simpa using List.all_eq_true.1 this t h

/-- What follows the tokens ahead is the end of the input, if it is a token. -/
theorem isEnd_of_ending (h : s.ending = .ok t) : t.isEnd = true := by
  unfold ending at h
  split at h
  · rename_i found
    obtain rfl := Except.ok.inj h
    exact List.find?_some found
  · simp at h
  · obtain rfl := Except.ok.inj h
    rfl

/-- The next token is the end of the input or the first one ahead. -/
theorem upcoming_eq_ok_iff : s.upcoming = .ok t ↔
    (∃ more, s.ahead = t :: more) ∨ (s.ahead = [] ∧ s.ending = .ok t) := by
  unfold upcoming look
  cases s.ahead <;> simp

/-- A next token that is not the end of the input is the first one ahead. -/
theorem exists_ahead (h : s.upcoming = .ok t) (notEnd : t.isEnd = false) :
    ∃ more, s.ahead = t :: more := by
  rcases upcoming_eq_ok_iff.1 h with front | ⟨-, last⟩
  · exact front
  · rw [isEnd_of_ending last] at notEnd
    exact absurd notEnd (by decide)

/-- The first token ahead is the next one. -/
theorem upcoming_of_ahead {more : List Token} (h : s.ahead = t :: more) : s.upcoming = .ok t :=
  upcoming_eq_ok_iff.2 (.inl ⟨more, h⟩)

/-- A fault in the place of the next token follows the tokens ahead. -/
theorem upcoming_eq_error {fault : Fault} (h : s.upcoming = .error fault) :
    s.ahead = [] ∧ s.ending = .error fault := by
  unfold upcoming look at h
  cases front : s.ahead with
  | nil => exact ⟨rfl, by simpa [front] using h⟩
  | cons => simp [front] at h

/-- Tokens that wait in the buffer stand in front. -/
theorem ahead_of_buffer {others : List Token} (h : s.buffer = t :: others)
    (notEnd : t.isEnd = false) : s.ahead = t :: (others ++ s.pending).takeWhile (!·.isEnd) := by
  rw [ahead, h, List.cons_append, List.takeWhile_cons, if_pos (by simp [notEnd])]

/-! ## Stopping -/

/-- **A token is faced**: a recognizer has come to `t` behind the tokens `u`. If
it looks ahead one token at a time, it has looked at `t` last. -/
inductive Faces (s s' : TokenStream) (u : List Token) (t : Token) : Prop where
  /-- The token is one of those ahead. -/
  | token {more : List Token} (ahead : s.ahead = u ++ t :: more)
      (unseen : s.Settled → s'.buffer.getLast? = some t ∧ more = s'.unseen)
  /-- The token is the end of the input. -/
  | last (ahead : s.ahead = u) (ending : s.ending = .ok t)
      (seen : s.Settled → s'.buffer.getLast? = some t)

end TokenStream

/-- A limit of the recognizer was reached; the grammar knows no such limit. -/
inductive Fault.IsLimit : Fault → Prop where
  | nesting (place : Option Span) : IsLimit (.grammatical .nestingTooDeep place)
  | literal (place : Option Span) : IsLimit (.grammatical .literalTooLarge place)

namespace TokenStream

/-- **Where a recognizer stopped.** It reached a limit with the token taken last;
or it met the fault behind the tokens; or it refused a token. In the last two
cases `W` holds of the tokens before. -/
inductive Stopped (W : List Token → Prop) (s s' : TokenStream) : Fault → Prop where
  /-- A limit was reached, and the recognizer has looked no further. -/
  | limit {fault : Fault} {u : List Token} {t : Token} (limit : fault.IsLimit)
      (place : fault.place? = some t.span) (took : Takes u s s') (last : s'.previous = some t)
      (alone : s.Settled → s'.buffer = []) : Stopped W s s' fault
  /-- The tokens ended with a fault. -/
  | ended {fault : Fault} (ending : s.ending = .error fault) (holds : W s.ahead) :
      Stopped W s s' fault
  /-- A token was refused. -/
  | refused {u : List Token} {t : Token} (complaint : Complaint) (faces : Faces s s' u t)
      (holds : W u) : Stopped W s s' (.grammatical complaint (some t.span))

variable {s s₀ s' s'' : TokenStream} {t : Token} {u : List Token} {fault : Fault}
  {W W' : List Token → Prop}

/-- Seen from before the tokens that were taken first, more tokens come before
the one that is faced. -/
theorem Faces.behind {taken : List Token} (took : Takes taken s₀ s) (h : Faces s s' u t) :
    Faces s₀ s' (taken ++ u) t := by
  cases h with
  | token ahead unseen =>
    refine .token (by rw [took.ahead, ahead, List.append_assoc]) fun settled => ?_
    exact unseen (took.settled settled)
  | last ahead ending seen =>
    exact .last (by rw [took.ahead, ahead]) (took.ending ▸ ending) (seen ∘ took.settled)

/-- Tokens before the one that is faced stand in front. -/
theorem Faces.isPrefix (h : Faces s s' u t) : u <+: s.ahead := by
  cases h with
  | token ahead _ => exact ⟨_, ahead.symm⟩
  | last ahead _ => exact ⟨[], by rw [List.append_nil, ahead]⟩

/-- **Stopping behind tokens that were taken first.** -/
theorem Stopped.behind {taken : List Token} (took : Takes taken s₀ s) (h : Stopped W s s' fault)
    (holds : ∀ u, u <+: s.ahead → W u → W' (taken ++ u)) : Stopped W' s₀ s' fault := by
  cases h with
  | limit limit place took' last alone =>
    exact .limit limit place (took.trans took') last fun settled => alone (took.settled settled)
  | ended ending all =>
    refine .ended (took.ending ▸ ending) ?_
    rw [took.ahead]
    exact holds _ List.prefix_rfl all
  | refused complaint faces before =>
    exact .refused complaint (faces.behind took) (holds _ faces.isPrefix before)

/-- What holds of the tokens before can be weakened. -/
theorem Stopped.mono (h : Stopped W s s' fault) (holds : ∀ u, W u → W' u) :
    Stopped W' s s' fault :=
  h.behind (.refl s) fun u _ => holds u

/-- A fault in the place of the next token stops at once. -/
theorem Stopped.of_upcoming (h : s.upcoming = .error fault) (holds : W []) :
    Stopped W s s' fault := by
  obtain ⟨front, ending⟩ := upcoming_eq_error h
  exact .ended ending (front ▸ holds)

/-- A token that has been looked at is faced. -/
theorem Peeked.faces (h : Peeked t s s') : Faces s s' [] t := by
  rcases upcoming_eq_ok_iff.1 h.shown with ⟨more, front⟩ | ⟨front, last⟩
  · refine .token front fun settled => ?_
    have notEnd : t.isEnd = false := isEnd_of_mem_ahead (front ▸ List.mem_cons_self)
    have now := ahead_of_buffer (h.alone settled) notEnd
    rw [← List.nil_append s'.ahead, ← h.ahead, front] at now
    exact ⟨by rw [h.alone settled]; rfl, (List.cons.inj now).2⟩
  · exact .last front last fun settled => by rw [h.alone settled]; rfl

/-- A token that has been looked at comes first, unless it is the end of the
input. -/
theorem Peeked.head? (h : Peeked t s s') (notEnd : t.isEnd = false) :
    s'.ahead.head? = some t := by
  obtain ⟨more, front⟩ := exists_ahead h.shown notEnd
  rw [← List.nil_append s'.ahead, ← h.ahead, front]
  rfl

end TokenStream

end PascalFront
