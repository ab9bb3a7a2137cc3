import PascalFront.Proofs.Grammar.Lookahead
import PascalFront.Proofs.Grammar.Lazy
/-!
# A stream of tokens is a cursor in a list

A stream fills its buffer as it is asked, makes up an end of the input where there
is none, and may meet the fault of its text in the middle of looking ahead. To
those who ask it is a plain cursor: the list of the tokens before the end, the one
end behind them, and the place of the next token (`PlainCursor`).

The cursor and the stream answer a request alike and go on alike
(`PlainCursor.ShownBy.answer`), so they answer every sequence of requests alike, also
one that goes on after a fault. That a stream reads nothing behind the end of the
input is kept by each of its steps (`Recognizer.keptFrom_unread`).
-/

namespace PascalFront

/-- **What a stream of tokens can be asked for.** -/
inductive TokenStream.Request where
  /-- The token so many places behind the next one. -/
  | peek (ahead : Nat)
  /-- The next token, which is taken. -/
  | advance
  /-- Whether the next token is the end of the input. -/
  | atEnd
  /-- Whether the next token is of a kind. -/
  | check (kind : Kind)
  /-- Whether the next token is of one of some kinds, in which case it is taken. -/
  | accept (kinds : List Kind)
  /-- The next token, which is taken and must be of a kind. -/
  | expect (kind : Kind) (complaint : Complaint)
  deriving DecidableEq, Repr

/-- What a request is answered with. -/
inductive TokenStream.Answer where
  | token (t : Token)
  | truth (holds : Bool)
  deriving DecidableEq, Repr

namespace TokenStream

/-- The recognizer that answers a request. -/
def Request.recognizer : Request → Recognizer Answer
  | peek ahead => return .token (← Recognizer.peekAt ahead)
  | advance => return .token (← Recognizer.advance)
  | atEnd => return .truth (← Recognizer.atEnd)
  | check kind => return .truth (← Recognizer.check kind)
  | accept kinds => return .truth (← Recognizer.acceptAny kinds)
  | expect kind complaint => return .token (← Recognizer.expect kind complaint)

/-- **The answer of a stream**, and the stream behind it. -/
def answer (s : TokenStream) (request : Request) : Except Fault Answer × TokenStream :=
  match request.recognizer s with
  | .ok a s' => (.ok a, s')
  | .error fault s' => (.error fault, s')

/-- The answers to requests one after the other, and what they leave. A fault is an
answer like any other. -/
def Request.all {σ : Type} (answer : σ → Request → Except Fault Answer × σ) :
    σ → List Request → List (Except Fault Answer) × σ
  | s, [] => ([], s)
  | s, request :: others =>
    let (a, s') := answer s request
    let (more, s'') := all answer s' others
    (a :: more, s'')

end TokenStream

open TokenStream

/-- **A cursor in a list of tokens.** -/
structure PlainCursor where
  /-- The tokens before the end of the input. -/
  tokens : List Token
  /-- The end of the input. -/
  last : Token
  /-- The fault in place of the end, until it has been met. -/
  fault : Option Fault
  /-- The place of the next token. -/
  place : Nat
  /-- No token is the end. -/
  notEnd : ∀ t ∈ tokens, t.isEnd = false
  /-- The end is one. -/
  isEnd : last.isEnd = true

namespace PlainCursor

/-- The cursor in front of the first of some tokens. They end with the first end of the
input among them, or else with one at the end of the last token. -/
def ofTokens (tokens : List Token) (fault : Option Fault) : PlainCursor where
  tokens := tokens.takeWhile (!·.isEnd)
  last := (tokens.find? Token.isEnd).getD (.endAt (tokens.getLast?.bind Token.stop))
  fault := fault
  place := 0
  notEnd t listed := by simpa using List.mem_takeWhile_imp listed
  isEnd := by
    cases found : tokens.find? Token.isEnd with
    | some t => exact List.find?_some found
    | none => rfl

/-- All tokens have been taken. -/
def ended (c : PlainCursor) : Bool := c.tokens.length ≤ c.place

/-- The cursor once the fault has been met. -/
def faultless (c : PlainCursor) : PlainCursor := { c with fault := none }

/-- The cursor one token further on. It stays at the end. -/
def step (c : PlainCursor) : PlainCursor :=
  { c with place := if c.ended then c.place else c.place + 1 }

/-- What is found so many places behind the next token. -/
def look (c : PlainCursor) (ahead : Nat) : Except Fault Token :=
  match c.tokens[c.place + ahead]?, c.fault with
  | some t, _ => .ok t
  | none, some fault => .error fault
  | none, none => .ok c.last

/-- Looks so many places behind the next token and answers with what is found there.
A fault is met only once. -/
def seeing (c : PlainCursor) (ahead : Nat) (answer : Token → Except Fault Answer × PlainCursor) :
    Except Fault Answer × PlainCursor :=
  match c.look ahead with
  | .ok t => answer t
  | .error fault => (.error fault, c.faultless)

/-- **The answer of a cursor**, and the cursor behind it. -/
def answer (c : PlainCursor) : Request → Except Fault Answer × PlainCursor
  | .peek ahead => c.seeing ahead fun t => (.ok (.token t), c)
  | .advance => c.seeing 0 fun t => (.ok (.token t), c.step)
  | .atEnd => c.seeing 0 fun _ => (.ok (.truth c.ended), c)
  | .check kind => c.seeing 0 fun t => (.ok (.truth (!c.ended && t.kind = kind)), c)
  | .accept [] => (.ok (.truth false), c)
  | .accept (kind :: others) => c.seeing 0 fun t =>
    if !c.ended ∧ t.kind ∈ kind :: others then (.ok (.truth true), c.step)
    else (.ok (.truth false), c)
  | .expect kind complaint => c.seeing 0 fun t =>
    if !c.ended ∧ t.kind = kind then (.ok (.token t), c.step)
    else (.error (.grammatical complaint (some t.span)), c)

variable {c : PlainCursor} {s s' : TokenStream} {t : Token}

/-- The next token is the end where all tokens have been taken. -/
theorem isEnd_eq_ended (h : c.look 0 = .ok t) : t.isEnd = c.ended := by
  unfold look at h
  rw [Nat.add_zero] at h
  unfold ended
  cases found : c.tokens[c.place]? with
  | some t' =>
    simp only [found, Except.ok.injEq] at h
    have inside := (List.getElem?_eq_some_iff.1 found).1
    rw [← h, c.notEnd t' (List.mem_of_getElem? found)]
    exact (decide_eq_false (Nat.not_le_of_lt inside)).symm
  | none =>
    cases met : c.fault with
    | some fault => simp [found, met] at h
    | none =>
      simp only [found, met, Except.ok.injEq] at h
      rw [← h, c.isEnd]
      exact (decide_eq_true (List.getElem?_eq_none_iff.1 found)).symm

/-- **A stream shows a cursor**: the same is found in every place, now and once the
fault has been met. -/
structure ShownBy (c : PlainCursor) (s : TokenStream) : Prop where
  /-- The same is found now. -/
  look : ∀ ahead, s.look ahead = c.look ahead
  /-- The same is found without the fault. -/
  faultless : ∀ ahead, s.faultless.look ahead = c.faultless.look ahead
  /-- The buffer is in order. -/
  regular : s.Regular

/-- Looking at tokens leaves the cursor. -/
theorem ShownBy.looked (h : c.ShownBy s) (looked : Recognizer.Looked s s') : c.ShownBy s' :=
  ⟨fun ahead => (looked.look ahead).trans (h.look ahead),
    fun ahead => (looked.faultless.look ahead).trans (h.faultless ahead), looked.regular⟩

/-- Meeting the fault takes it off the cursor. -/
theorem ShownBy.met (h : c.ShownBy s) (looked : Recognizer.Looked s.faultless s') :
    c.faultless.ShownBy s' :=
  ⟨fun ahead => (looked.look ahead).trans (h.faultless ahead),
    fun ahead => (looked.faultless.look ahead).trans (h.faultless ahead), looked.regular⟩

/-- Places count from the next token. -/
theorem look_step (c : PlainCursor) (ahead : Nat) : c.step.look ahead = c.look (ahead + 1) := by
  unfold look step ended
  by_cases none : c.tokens.length ≤ c.place
  · simp only [none, decide_true, if_true]
    rw [List.getElem?_eq_none (by omega), List.getElem?_eq_none (by omega)]
  · simp only [none, decide_false, Bool.false_eq_true, if_false]
    rw [show c.place + 1 + ahead = c.place + (ahead + 1) by omega]

/-- Taking a token moves the cursor on. -/
theorem ShownBy.moved (h : c.ShownBy s) (moved : Recognizer.Moved t s s') : c.step.ShownBy s' where
  look ahead := by rw [moved.look, h.look, look_step]
  faultless ahead := by
    rw [moved.look_faultless, h.faultless]
    exact (look_step c.faultless ahead).symm
  regular := moved.regular

/-! ## One request -/

section Answers

open Recognizer

/-- What holds of a fault that is met instead of the next token. -/
def Meets (c : PlainCursor) (ahead : Nat) (fault : Fault) (s : TokenStream) : Prop :=
  c.look ahead = .error fault ∧ c.faultless.ShownBy s

variable {kind : Kind} {complaint : Complaint}

theorem ShownBy.peekAt (h : c.ShownBy s) (ahead : Nat) :
    Outcome (fun t s' => c.look ahead = .ok t ∧ c.ShownBy s') (c.Meets ahead)
      (Recognizer.peekAt ahead s) := by
  refine (peekAt_of_regular ahead h.regular).mono ?_ ?_
  · rintro t s' ⟨found, looked⟩
    exact ⟨(h.look ahead).symm.trans found, h.looked looked⟩
  · rintro fault s' ⟨met, looked⟩
    exact ⟨(h.look ahead).symm.trans met, h.met looked⟩

theorem ShownBy.advance (h : c.ShownBy s) :
    Outcome (fun t s' => c.look 0 = .ok t ∧ c.step.ShownBy s') (c.Meets 0)
      (Recognizer.advance s) := by
  refine (advance_of_regular h.regular).mono ?_ ?_
  · rintro t s' ⟨found, moved⟩
    exact ⟨(h.look 0).symm.trans found, h.moved moved⟩
  · rintro fault s' ⟨met, looked⟩
    exact ⟨(h.look 0).symm.trans met, h.met looked⟩

theorem ShownBy.atEnd (h : c.ShownBy s) :
    Outcome (fun holds s' => (∃ t, c.look 0 = .ok t) ∧ holds = c.ended ∧ c.ShownBy s') (c.Meets 0)
      (Recognizer.atEnd s) := by
  refine (h.peekAt 0).bind (fun _ _ met => met) ?_
  rintro t s' ⟨found, shown⟩
  exact ⟨⟨t, found⟩, isEnd_eq_ended found, shown⟩

theorem ShownBy.check (h : c.ShownBy s) (kind : Kind) :
    Outcome (fun holds s' => ∃ t, c.look 0 = .ok t ∧ holds = (!c.ended && t.kind = kind) ∧
      c.ShownBy s') (c.Meets 0) (Recognizer.check kind s) := by
  refine (h.peekAt 0).bind (fun _ _ met => met) ?_
  rintro t s' ⟨found, shown⟩
  exact ⟨t, found, by rw [isEnd_eq_ended found], shown⟩

theorem ShownBy.accept (h : c.ShownBy s) (kind : Kind) :
    Outcome (fun taken s' => ∃ t, c.look 0 = .ok t ∧ taken = (!c.ended && t.kind = kind) ∧
      (if taken then c.step else c).ShownBy s') (c.Meets 0) (Recognizer.accept kind s) := by
  refine (h.check kind).bind (fun _ _ met => met) ?_
  rintro holds s₁ ⟨t, found, rfl, shown⟩
  cases fits : !c.ended && decide (t.kind = kind) with
  | false => exact ⟨t, found, by rw [fits], shown⟩
  | true =>
    refine shown.advance.bind (fun _ _ met => met) ?_
    rintro t' s' ⟨-, moved⟩
    exact ⟨t, found, by rw [fits], moved⟩

/-- The kinds are tried one after the other until one of them fits. -/
theorem ShownBy.acceptAny (h : c.ShownBy s) (kind : Kind) (others : List Kind) :
    Outcome (fun taken s' => ∃ t, c.look 0 = .ok t ∧
        taken = (!c.ended && t.kind ∈ kind :: others) ∧ (if taken then c.step else c).ShownBy s')
      (c.Meets 0) (Recognizer.acceptAny (kind :: others) s) := by
  induction others generalizing kind s with
  | nil =>
    refine (h.accept kind).bind (fun _ _ met => met) ?_
    rintro taken s₁ ⟨t, found, fits, shown⟩
    have rest : Outcome (fun b s' => b = taken ∧ s' = s₁) (fun _ _ => False)
        ((if taken then pure true else Recognizer.acceptAny [] : Recognizer Bool) s₁) := by
      cases taken <;> exact ⟨rfl, rfl⟩
    refine rest.mono ?_ fun _ _ never => never.elim
    rintro b s' ⟨rfl, rfl⟩
    exact ⟨t, found, by simpa using fits, shown⟩
  | cons other others ih =>
    refine (h.accept kind).bind (fun _ _ met => met) ?_
    rintro taken s₁ ⟨t, found, fits, shown⟩
    cases taken with
    | true =>
      obtain ⟨inside, rfl⟩ : c.ended = false ∧ t.kind = kind := by simpa using fits
      exact ⟨t, found, by simp [inside], shown⟩
    | false =>
      refine (ih shown other).mono ?_ fun _ _ met => met
      rintro taken s' ⟨t', found', fits', shown'⟩
      obtain rfl := Except.ok.inj (found.symm.trans found')
      refine ⟨t, found, ?_, shown'⟩
      rw [fits']
      cases inside : c.ended with
      | true => simp
      | false =>
        have notFirst : t.kind ≠ kind := by simpa [inside] using fits
        simp [notFirst]

theorem ShownBy.expect (h : c.ShownBy s) :
    Outcome (fun t s' => c.look 0 = .ok t ∧ (!c.ended ∧ t.kind = kind) ∧ c.step.ShownBy s')
      (fun fault s' => c.Meets 0 fault s' ∨ ∃ t, c.look 0 = .ok t ∧ ¬ (!c.ended ∧ t.kind = kind) ∧
        fault = .grammatical complaint (some t.span) ∧ c.ShownBy s')
      (Recognizer.expect kind complaint s) := by
  refine (h.check kind).bind (fun _ _ met => .inl met) ?_
  rintro holds s₁ ⟨t, found, rfl, shown⟩
  by_cases fits : !c.ended ∧ t.kind = kind
  · rw [if_pos (by simpa using fits)]
    refine shown.advance.mono ?_ fun _ _ met => .inl met
    rintro t' s' ⟨found', moved⟩
    obtain rfl := Except.ok.inj (found.symm.trans found')
    exact ⟨found, fits, moved⟩
  · rw [if_neg (by simpa using fits)]
    refine (shown.peekAt 0).bind (fun _ _ met => .inl met) ?_
    rintro t' s' ⟨found', shown'⟩
    obtain rfl := Except.ok.inj (found.symm.trans found')
    exact .inr ⟨t, found, fits, rfl, shown'⟩

/-- **A stream and the cursor that it shows answer a request alike**, and it shows the
cursor behind that as well. -/
theorem ShownBy.answer (h : c.ShownBy s) (request : Request) :
    (s.answer request).1 = (c.answer request).1 ∧
      (c.answer request).2.ShownBy (s.answer request).2 := by
  have alike (plain : Except Fault Answer × PlainCursor)
      (agree : Outcome (fun a s' => plain.1 = .ok a ∧ plain.2.ShownBy s')
        (fun fault s' => plain.1 = .error fault ∧ plain.2.ShownBy s') (request.recognizer s)) :
      (s.answer request).1 = plain.1 ∧ plain.2.ShownBy (s.answer request).2 := by
    unfold TokenStream.answer
    cases run : request.recognizer s with
    | ok a s' =>
      rw [run] at agree
      exact ⟨agree.1.symm, agree.2⟩
    | error fault s' =>
      rw [run] at agree
      exact ⟨agree.1.symm, agree.2⟩
  refine alike _ ?_
  have seen (ahead : Nat) (go : Token → Except Fault Answer × PlainCursor) (fault : Fault)
      (s' : TokenStream) (met : c.Meets ahead fault s') :
      (c.seeing ahead go).1 = .error fault ∧ (c.seeing ahead go).2.ShownBy s' := by
    rw [seeing, met.1]
    exact ⟨rfl, met.2⟩
  cases request with
  | peek ahead =>
    refine (h.peekAt ahead).bind (seen ahead _) ?_
    rintro t s' ⟨found, shown⟩
    simp only [PlainCursor.answer, seeing, found]
    exact ⟨rfl, shown⟩
  | advance =>
    refine h.advance.bind (seen 0 _) ?_
    rintro t s' ⟨found, shown⟩
    simp only [PlainCursor.answer, seeing, found]
    exact ⟨rfl, shown⟩
  | atEnd =>
    refine h.atEnd.bind (seen 0 _) ?_
    rintro holds s' ⟨⟨t, found⟩, rfl, shown⟩
    simp only [PlainCursor.answer, seeing, found]
    exact ⟨rfl, shown⟩
  | check kind =>
    refine (h.check kind).bind (seen 0 _) ?_
    rintro holds s' ⟨t, found, rfl, shown⟩
    simp only [PlainCursor.answer, seeing, found]
    exact ⟨rfl, shown⟩
  | accept kinds =>
    cases kinds with
    | nil => exact ⟨rfl, h⟩
    | cons kind others =>
      refine (h.acceptAny kind others).bind (seen 0 _) ?_
      rintro taken s' ⟨t, found, rfl, shown⟩
      simp only [PlainCursor.answer, seeing, found]
      by_cases fits : !c.ended ∧ t.kind ∈ kind :: others
      · have taken : (!c.ended && decide (t.kind ∈ kind :: others)) = true := by simpa using fits
        rw [taken] at shown ⊢
        rw [if_pos fits]
        exact ⟨rfl, shown⟩
      · have left : (!c.ended && decide (t.kind ∈ kind :: others)) = false := by
          simpa using fits
        rw [left] at shown ⊢
        rw [if_neg fits]
        exact ⟨rfl, shown⟩
  | expect kind complaint =>
    refine h.expect.bind ?_ ?_
    · rintro fault s' (met | ⟨t, found, fits, rfl, shown⟩)
      · exact seen 0 _ fault s' met
      · simp only [PlainCursor.answer, seeing, found]
        rw [if_neg fits]
        exact ⟨rfl, shown⟩
    · rintro t s' ⟨found, fits, shown⟩
      simp only [PlainCursor.answer, seeing, found]
      rw [if_pos fits]
      exact ⟨rfl, shown⟩

end Answers

/-! ## All requests -/

/-- **They answer every sequence of requests alike.** -/
theorem ShownBy.all (h : c.ShownBy s) (requests : List Request) :
    (Request.all TokenStream.answer s requests).1 =
      (Request.all PlainCursor.answer c requests).1 := by
  induction requests generalizing c s with
  | nil => rfl
  | cons request others ih =>
    obtain ⟨same, shown⟩ := h.answer request
    exact List.cons_eq_cons.2 ⟨same, ih shown⟩

/-- A stream that nobody has read from shows the cursor in front of its tokens, if
no fault comes behind an end of the input. -/
theorem shownBy_ofTokens {tokens : List Token} {fault : Option Fault}
    (alone : fault = none ∨ ∀ t ∈ tokens, t.isEnd = false) :
    (ofTokens tokens fault).ShownBy ⟨tokens, fault, [], none, 0⟩ := by
  have found (fault : Option Fault) (alone : fault = none ∨ ∀ t ∈ tokens, t.isEnd = false)
      (ahead : Nat) :
      (⟨tokens, fault, [], none, 0⟩ : TokenStream).look ahead = (ofTokens tokens fault).look ahead := by
    have front : (⟨tokens, fault, [], none, 0⟩ : TokenStream).ahead = tokens.takeWhile (!·.isEnd) := rfl
    simp only [TokenStream.look, front, look, ofTokens, Nat.zero_add]
    cases (tokens.takeWhile (!·.isEnd))[ahead]? with
    | some t => rfl
    | none =>
      simp only [ending, List.nil_append]
      rcases alone with rfl | notEnd
      · cases tokens.find? Token.isEnd <;> simp
      · rw [List.find?_eq_none.2 (by simpa using notEnd)]
        cases fault <;> simp
  exact ⟨found fault alone, found none (.inl rfl), regular_of_fresh rfl⟩

end PlainCursor

/-! ## What stays unread -/

/-- The tokens behind an end of the input have not been looked at: the end has not
been either, or it has been met. -/
def TokenStream.Unread (last : Token) (rest : List Token) (s : TokenStream) : Prop :=
  last :: rest <:+ s.pending ∨ (s.pending = rest ∧ s.MetEnd)

namespace Recognizer

variable {last : Token} {rest : List Token}

/-- What a recognizer does at a state where `last` or `rest` are ahead leaves `rest`
unread. -/
def LeavesAt (last : Token) (rest : List Token) {α : Type} (r : Recognizer α) (s : TokenStream) :
    Prop :=
  s.Unread last rest → Outcome (fun _ s' => s'.Unread last rest) (fun _ s' => s'.Unread last rest) (r s)

/-- One step after the other. -/
theorem LeavesAt.bind {α β : Type} {r : Recognizer β} {next : β → Recognizer α} {s : TokenStream}
    (first : LeavesAt last rest r s)
    (behind : ∀ b s', r s = .ok b s' → LeavesAt last rest (next b) s') :
    LeavesAt last rest (r >>= next) s := by
  intro unread
  have left := first unread
  cases run : r s with
  | error fault s' =>
    rw [run] at left
    rw [bind_of_error run]
    exact left
  | ok b s' =>
    rw [run] at left
    rw [bind_of_ok run]
    exact behind b s' run left

/-- Nothing is looked at behind the end. -/
theorem leavesAt_pull (isEnd : last.isEnd = true) (s : TokenStream) : LeavesAt last rest pull s := by
  intro unread
  unfold pull
  split
  case h_1 t final =>
    obtain ⟨listed, isEnd⟩ := Option.filter_eq_some_iff.1 final
    exact unread.imp id fun met => ⟨met.1, t, by simp, isEnd⟩
  case h_2 notLast =>
    -- The end has not been met, so it is still ahead.
    have ahead : last :: rest <:+ s.pending := by
      refine unread.resolve_right ?_
      rintro ⟨-, t, final, isEnd⟩
      rw [Option.filter_eq_none_iff] at notLast
      exact notLast t final isEnd
    split
    case h_1 t others pending =>
      rw [pending] at ahead
      rcases List.suffix_cons_iff.1 ahead with same | further
      · obtain ⟨rfl, rfl⟩ := List.cons.inj same
        exact .inr ⟨rfl, last, by simp, isEnd⟩
      · exact .inl further
    case h_2 pending =>
      rw [pending] at ahead
      exact absurd (List.suffix_nil.1 ahead) (by simp)

/-- Nor by looking further ahead. -/
theorem leavesAt_peekAt (isEnd : last.isEnd = true) (count : Nat) (s : TokenStream) :
    LeavesAt last rest (peekAt count) s := by
  have more (count : Nat) : ∀ s, LeavesAt last rest (pullMore count) s := by
    induction count with
    | zero => exact leavesAt_pull isEnd
    | succ count ih => exact fun s => (leavesAt_pull isEnd s).bind fun _ s' _ => ih s'
  intro unread
  rw [peekAt_run]
  cases s.buffer[count]? with
  | some t => exact unread
  | none => exact more _ s unread

/-- **Every recognizer leaves the tokens behind the end unread.** -/
theorem keptFrom_unread (isEnd : last.isEnd = true) : KeptFrom fun _ r s => LeavesAt last rest r s := by
  refine
    { pure := fun _ _ unread => unread, bind := LeavesAt.bind, advance := ?_
      peekAt := fun count _ => leavesAt_peekAt isEnd count
      since := fun _ _ unread => unread, refuse := fun _ _ _ unread => unread }
  intro s unread
  have shown := peek_spec s
  have left := leavesAt_peekAt isEnd 0 s unread
  have run : peekAt 0 s = peek s := rfl
  rw [run] at left
  rw [advance_run]
  cases run : peek s with
  | error fault s' =>
    rw [run] at left
    exact left
  | ok t s' =>
    rw [run] at shown left
    obtain ⟨others, waiting⟩ := shown.waiting
    exact left.imp id fun met => ⟨met.1, (metEnd_taken waiting).2 met.2⟩

end Recognizer

/-- A request is answered in steps, one of which may look further ahead than a
recognizer does. -/
theorem Recognizer.KeptBySteps.recognizer {P : (α : Type) → Recognizer α → Prop}
    (keeps : KeptBySteps P) (further : ∀ ahead, P Token (Recognizer.peekAt ahead))
    (request : Request) : P Answer request.recognizer := by
  cases request with
  | peek ahead => exact keeps.bind (further ahead) fun _ => keeps.pure _
  | advance => exact keeps.bind keeps.advance fun _ => keeps.pure _
  | atEnd => exact keeps.bind keeps.atEnd fun _ => keeps.pure _
  | check kind => exact keeps.bind (keeps.check kind) fun _ => keeps.pure _
  | accept kinds => exact keeps.bind (keeps.acceptAny kinds) fun _ => keeps.pure _
  | expect kind complaint => exact keeps.bind (keeps.expect kind complaint) fun _ => keeps.pure _

namespace TokenStream

variable {last : Token} {rest : List Token} {s : TokenStream}

/-- No answer reads anything behind the end of the input. -/
theorem Unread.answer (isEnd : last.isEnd = true) (h : s.Unread last rest) (request : Request) :
    (s.answer request).2.Unread last rest := by
  have kept : Recognizer.KeptFrom fun _ r s => Recognizer.LeavesAt last rest r s :=
    Recognizer.keptFrom_unread isEnd
  have outcome := kept.keptBySteps.recognizer (Recognizer.leavesAt_peekAt isEnd) request s h
  unfold TokenStream.answer
  cases run : request.recognizer s with
  | ok a s' =>
    rw [run] at outcome
    exact outcome
  | error fault s' =>
    rw [run] at outcome
    exact outcome

/-- No sequence of requests does. -/
theorem Unread.all (isEnd : last.isEnd = true) (h : s.Unread last rest) (requests : List Request) :
    (Request.all TokenStream.answer s requests).2.Unread last rest := by
  induction requests generalizing s with
  | nil => exact h
  | cons request others ih => exact ih (h.answer isEnd request)

/-- What is unread stands in the back of the tokens that nobody has looked at. -/
theorem Unread.suffix (h : s.Unread last rest) : rest <:+ s.pending := by
  rcases h with behind | ⟨all, -⟩
  · exact (List.suffix_cons last rest).trans behind
  · exact all ▸ List.suffix_rfl

end TokenStream

/-- **A stream of tokens is a cursor in the list of the tokens before the end.** Every
sequence of requests is answered as by the cursor, and nothing behind the first end of
the input is ever looked at. The same holds of what a reader finds in a text: if it
finds a fault, that is met once, and then the tokens before it are all there is. -/
theorem PlainCursor.answers_agree (requests : List Request) :
    (∀ tokens,
      (Request.all TokenStream.answer (.ofTokens tokens) requests).1 =
        (Request.all answer (.ofTokens tokens none) requests).1 ∧
      (tokens.dropWhile (!·.isEnd)).tail <:+
        (Request.all TokenStream.answer (.ofTokens tokens) requests).2.pending) ∧
    ∀ reader : Cursor,
      (Request.all TokenStream.answer (readBy reader [] none 0) requests).1 =
        (Request.all answer (.ofTokens reader.readAll.tokens reader.readAll.fault) requests).1 := by
  refine ⟨fun tokens => ⟨(shownBy_ofTokens (.inl rfl)).all requests, ?_⟩, fun reader => ?_⟩
  · cases behind : tokens.dropWhile (!·.isEnd) with
    | nil => exact List.nil_suffix
    | cons last rest =>
      have isEnd : last.isEnd = true := by
        have first := List.head?_dropWhile_not (fun t : Token => !t.isEnd) tokens
        rw [behind] at first
        simpa using first
      have unread : (TokenStream.ofTokens tokens).Unread last rest :=
        .inl (behind ▸ List.dropWhile_suffix _)
      exact (unread.all isEnd requests).suffix
  · refine (shownBy_ofTokens ?_).all requests
    rcases reader.readAll_ends with ⟨noFault, -⟩ | ⟨_, _, _, -, notEnd⟩
    · exact .inl noFault
    · exact .inr notEnd

end PascalFront
