import PascalFront.Proofs.Token.Tiling
/-!
# Asking a reader again and again

A reader is asked for the next token or for all tokens that are left, in any
order and as often as one likes, also after it has answered with a fault. Each
request starts from the cursor where the one before stopped.

Every answer is exact and every cursor stands in the text, further on than the
one before: that is kept by one request (`StandsAt.answer`) and so by a whole
run. A run can come to three ends that it does not leave. Behind the last
character there is only the end of the input; a character that starts no token
is met again by every request; and a string literal that is not closed uses up
the text. `Cursor.answers_exact` puts the two together.
-/

namespace PascalFront.Cursor

/-- What a reader can be asked for. -/
inductive Request where
  /-- The next token. -/
  | next
  /-- All tokens up to the end of the input. -/
  | all
  deriving DecidableEq, Repr

/-- **The answer to a request**, and where the reading stopped. A fault is the
whole answer, also if tokens were read before it. -/
def answer (c : Cursor) : Request → Except Fault (List Token) × Cursor
  | .next => (c.next.1.map fun t => [t], c.next.2)
  | .all =>
    (match c.readAll.fault with
      | none => .ok c.readAll.tokens
      | some fault => .error fault,
    c.readAll.cursor)

/-- The answers to requests one after the other, each with the cursor behind
it. -/
def answers : Cursor → List Request → List (Except Fault (List Token) × Cursor)
  | _, [] => []
  | c, request :: others => c.answer request :: (c.answer request).2.answers others

/-- An answer is exact: each token in it, or the fault, stands in the text. -/
def Exact (text : List Char) : Except Fault (List Token) → Prop
  | .ok tokens => ∀ t ∈ tokens, t.StandsIn text
  | .error fault => fault.StandsIn text

variable {text : List Char} {c after : Cursor}

/-! ## One token -/

/-- Taking a token at a place without layout: the token or the fault stands in
the text, and the cursor does not move back. -/
theorem StandsAt.take {place : Nat} (h : c.StandsAt text place) (clear : Layout.Clear c.rest) :
    ∃ further, place ≤ further ∧ c.take.2.StandsAt text further ∧
      Exact text (c.take.1.map fun t => [t]) := by
  obtain ⟨within, here, position⟩ := id h
  rcases split : c.rest with - | ⟨first, rest⟩
  · rw [take_of_nil split]
    refine ⟨place, le_rfl, h, ?_⟩
    intro t listed
    obtain rfl := List.mem_singleton.1 listed
    exact ⟨place, place, le_rfl, within, congrArg some position, congrArg some position⟩
  · rw [split] at clear here
    have found : text[place]? = some first := by
      rw [← List.head?_drop, ← here, List.head?_cons]
    cases read : Lexeme.read first rest with
    | ok l =>
      rw [take_of_lexeme split read]
      have moved := h.behind (split.trans (Lexeme.spelling_read read).1)
      refine ⟨_, Nat.le_add_right place l.spelling.length, moved, ?_⟩
      intro t listed
      obtain rfl := List.mem_singleton.1 listed
      exact ⟨place, _, Nat.le_add_right .., moved.1, congrArg some position,
        congrArg some moved.2.2⟩
    | error cause =>
      rw [take_of_cause split read]
      have notNewline : first ≠ '\n' := by
        rintro rfl
        exact absurd clear.1 (by decide)
      have stop : ∃ further, place ≤ further ∧ (c.afterFailure cause).StandsAt text further := by
        cases cause with
        | unterminated => exact ⟨text.length, within, h.atEnd⟩
        | unexpected _ | stated _ => exact ⟨place, le_rfl, h⟩
      obtain ⟨further, forward, stands⟩ := stop
      refine ⟨further, forward, stands, cause, place, first, found, by rw [← position], ?_⟩
      rw [Position.inText_succ found, Position.after, if_neg notNewline, ← position]
      rfl

/-- **The next token** or the fault at it stands in the text, and the cursor does
not move back. -/
theorem StandsAt.next {place : Nat} (h : c.StandsAt text place) :
    ∃ further, place ≤ further ∧ c.next.2.StandsAt text further ∧
      Exact text (c.next.1.map fun t => [t]) := by
  obtain ⟨behind, forward, skipped⟩ := h.skipLayout
  obtain ⟨further, onward, stands, exact_⟩ := skipped.take (Layout.clear_skip ..)
  exact ⟨further, forward.trans onward, stands, exact_⟩

/-- The next token, told apart from a fault, stands in the text. -/
theorem StandsAt.next_ok {place : Nat} (h : c.StandsAt text place) {t : Token}
    (read : c.next = (.ok t, after)) :
    t.StandsIn text ∧ ∃ further, place ≤ further ∧ after.StandsAt text further := by
  obtain ⟨further, forward, stands, exact_⟩ := h.next
  rw [read] at stands exact_
  exact ⟨exact_ t (List.mem_singleton_self t), further, forward, stands⟩

/-- The fault met instead of a token stands in the text. -/
theorem StandsAt.next_error {place : Nat} (h : c.StandsAt text place) {fault : Fault}
    (read : c.next = (.error fault, after)) :
    fault.StandsIn text ∧ ∃ further, place ≤ further ∧ after.StandsAt text further := by
  obtain ⟨further, forward, stands, exact_⟩ := h.next
  rw [read] at stands exact_
  exact ⟨exact_, further, forward, stands⟩

/-! ## All tokens -/

/-- **Reading all tokens** hands out only what stands in the text, and the cursor
does not move back. -/
theorem StandsAt.readAll {place : Nat} (h : c.StandsAt text place) :
    ∃ further, place ≤ further ∧ c.readAll.cursor.StandsAt text further ∧
      (∀ t ∈ c.readAll.tokens, t.StandsIn text) ∧
      ∀ fault ∈ c.readAll.fault, fault.StandsIn text := by
  induction c using readAll.induct generalizing place with
  | case1 c fault after read =>
    obtain ⟨stands, further, forward, cursor⟩ := h.next_error read
    rw [readAll_of_error read]
    exact ⟨further, forward, cursor, by simp, by simpa using stands⟩
  | case2 c t after read last =>
    obtain ⟨stands, further, forward, cursor⟩ := h.next_ok read
    rw [readAll_of_end read last]
    exact ⟨further, forward, cursor, by simpa using stands, by simp⟩
  | case3 c t after read notLast _ ih =>
    obtain ⟨stands, behind, forward, cursor⟩ := h.next_ok read
    obtain ⟨further, onward, stop, tokens, faults⟩ := ih cursor
    rw [readAll_of_more read notLast]
    exact ⟨further, forward.trans onward, stop, List.forall_mem_cons.2 ⟨stands, tokens⟩, faults⟩

/-- **One request** is answered exactly, and the cursor does not move back. -/
theorem StandsAt.answer {place : Nat} (h : c.StandsAt text place) (request : Request) :
    ∃ further, place ≤ further ∧ (c.answer request).2.StandsAt text further ∧
      Exact text (c.answer request).1 := by
  cases request with
  | next => exact h.next
  | all =>
    obtain ⟨further, forward, stop, tokens, faults⟩ := h.readAll
    refine ⟨further, forward, stop, ?_⟩
    unfold Cursor.answer
    cases met : c.readAll.fault with
    | none => exact tokens
    | some fault => exact faults fault met

/-- **A run of requests** is answered exactly from first to last, and no cursor
moves back. -/
theorem StandsAt.answers {place : Nat} (h : c.StandsAt text place) (requests : List Request) :
    (∀ step ∈ c.answers requests,
      Exact text step.1 ∧ ∃ further, place ≤ further ∧ step.2.StandsAt text further) ∧
    ((c.answers requests).map fun step => step.2.position.offset).Pairwise (· ≤ ·) := by
  induction requests generalizing c place with
  | nil => exact ⟨by simp [Cursor.answers], by simp [Cursor.answers]⟩
  | cons request others ih =>
    obtain ⟨further, forward, stop, exact_⟩ := h.answer request
    obtain ⟨steps, order⟩ := ih stop
    refine ⟨List.forall_mem_cons.2 ⟨⟨exact_, further, forward, stop⟩, ?_⟩,
      List.pairwise_cons.2 ⟨?_, order⟩⟩
    · intro step listed
      obtain ⟨answer, later, onward, stands⟩ := steps step listed
      exact ⟨answer, later, forward.trans onward, stands⟩
    · intro offset listed
      obtain ⟨step, member, rfl⟩ := List.mem_map.1 listed
      obtain ⟨-, later, onward, -, -, position⟩ := steps step member
      show (c.answer request).2.position.offset ≤ step.2.position.offset
      rw [stop.2.2, position]
      exact Int.ofNat_le.2 onward

/-! ## The ends of a run -/

/-- The cause of a fault decides where the reading stops. -/
theorem next_cause {cause : LexicalCause} {found : String} {p : Position}
    (read : c.next = (.error (.lexical cause found p), after)) :
    after = c.skipLayout.afterFailure cause := by
  obtain ⟨_, _, _, same, stop⟩ := exists_cause read
  obtain ⟨rfl, -, -⟩ := Fault.lexical.inj same
  exact stop

/-- Passing over layout twice is passing over it once. -/
theorem skipLayout_skipLayout (c : Cursor) : c.skipLayout.skipLayout = c.skipLayout :=
  Layout.skip_of_clear (Layout.clear_skip ..) _

/-- **An unexpected character is met again.** -/
theorem next_unexpected {char : Char} {found : String} {p : Position}
    (read : c.next = (.error (.lexical (.unexpected char) found p), after)) :
    after.next = (.error (.lexical (.unexpected char) found p), after) := by
  have stop := next_cause read
  rw [stop] at read ⊢
  show c.skipLayout.skipLayout.take = _
  rwa [skipLayout_skipLayout]

/-- At the end of the text every request is answered with that end. -/
theorem answer_of_nil (h : c.rest = []) (request : Request) :
    c.answer request = (.ok [.endAt (some c.position)], c) := by
  have skipped : c.skipLayout = c := by
    obtain ⟨rest, position⟩ := c
    obtain rfl := h
    exact Layout.skip_of_clear (show Layout.Clear [] from trivial) position
  have read : c.next = (.ok (.endAt (some c.position)), c) := by
    rw [Cursor.next, skipped, take_of_nil h]
  cases request with
  | next => rw [answer, read]; rfl
  | all => rw [answer, readAll_of_end read rfl]

/-- Where the next token is a fault that leaves the cursor alone, every request
is answered with it. -/
theorem answer_of_error {fault : Fault} (read : c.next = (.error fault, c)) (request : Request) :
    c.answer request = (.error fault, c) := by
  cases request with
  | next => rw [answer, read]; rfl
  | all => rw [answer, readAll_of_error read]

/-- The last thing that reading all tokens does is to read the end of the input,
or to meet a fault. -/
theorem readAll_last (c : Cursor) :
    (c.readAll.fault = none ∧ ∃ before t, c.readAll.tokens = before ++ [t] ∧ t.isEnd ∧
      ∃ last : Cursor, last.next = (.ok t, c.readAll.cursor)) ∨
    ∃ fault, c.readAll.fault = some fault ∧
      ∃ last : Cursor, last.next = (.error fault, c.readAll.cursor) := by
  induction c using readAll.induct with
  | case1 c fault after read =>
    rw [readAll_of_error read]
    exact .inr ⟨fault, rfl, c, read⟩
  | case2 c t after read last =>
    rw [readAll_of_end read last]
    exact .inl ⟨rfl, [], t, rfl, last, c, read⟩
  | case3 c t after read notLast _ ih =>
    rw [readAll_of_more read notLast]
    rcases ih with ⟨noFault, before, last, tokens, isEnd, stop⟩ | met
    · exact .inl ⟨noFault, t :: before, last, by rw [tokens]; rfl, isEnd, stop⟩
    · exact .inr met

/-- The last thing that answering a request does, seen from its answer. -/
theorem answer_last (c : Cursor) (request : Request) :
    (∃ before t, (c.answer request).1 = .ok (before ++ [t]) ∧
      ∃ last : Cursor, last.next = (.ok t, (c.answer request).2)) ∨
    ∃ fault, (c.answer request).1 = .error fault ∧
      ∃ last : Cursor, last.next = (.error fault, (c.answer request).2) := by
  cases request with
  | next =>
    cases read : c.next.1 with
    | ok t => exact .inl ⟨[], t, by rw [answer, read]; rfl, c, by rw [← read]; rfl⟩
    | error fault => exact .inr ⟨fault, by rw [answer, read]; rfl, c, by rw [← read]; rfl⟩
  | all =>
    rcases c.readAll_last with ⟨noFault, before, t, tokens, -, stop⟩ | ⟨fault, met, stop⟩
    · exact .inl ⟨before, t, by rw [answer, noFault, ← tokens], stop⟩
    · exact .inr ⟨fault, by rw [answer, met], stop⟩

/-- Where every request gets the same answer and moves nothing, a whole run
does. -/
theorem answers_of_fixed {a : Except Fault (List Token)}
    (fixed : ∀ request, c.answer request = (a, c)) (requests : List Request) :
    ∀ step ∈ c.answers requests, step = (a, c) := by
  induction requests with
  | nil => simp [answers]
  | cons request others ih =>
    rw [answers, fixed request]
    exact List.forall_mem_cons.2 ⟨rfl, ih⟩

/-- Every step of a run is the answer to some request, and the steps behind it
are the answers to the requests behind that one. -/
theorem answers_split {requests : List Request}
    {before later : List (Except Fault (List Token) × Cursor)}
    {a : Except Fault (List Token)} (h : c.answers requests = before ++ (a, after) :: later) :
    ∃ (prior : Cursor) (request : Request) (others : List Request),
      prior.answer request = (a, after) ∧ later = after.answers others := by
  induction requests generalizing c before with
  | nil => exact absurd h (by simp [answers])
  | cons request others ih =>
    rw [answers] at h
    cases before with
    | nil =>
      obtain ⟨this, rfl⟩ := List.cons.inj h
      exact ⟨c, request, others, this, by rw [this]⟩
    | cons step before => exact ih (List.cons.inj h).2

/-- **Behind the end of the input** every request is answered with that end. -/
theorem answer_fixed_of_end {request : Request} {tokens : List Token} {t : Token}
    (h : c.answer request = (.ok (tokens ++ [t]), after)) (last : t.isEnd) (other : Request) :
    after.answer other = (.ok [t], after) := by
  rcases c.answer_last request with ⟨before, t', same, last', read⟩ | ⟨fault, met, -⟩
  · rw [h] at same read
    obtain ⟨-, rest⟩ := List.append_inj' (Except.ok.inj same) rfl
    obtain rfl := List.singleton_inj.1 rest
    obtain ⟨-, exhausted, end_⟩ := next_isEnd read last
    rw [end_]
    exact answer_of_nil exhausted other
  · rw [h] at met
    exact absurd met (by simp)

/-- A fault in an answer was met at the last token that was asked for. -/
theorem exists_next_of_answer {request : Request} {fault : Fault}
    (h : c.answer request = (.error fault, after)) :
    ∃ last : Cursor, last.next = (.error fault, after) := by
  rcases c.answer_last request with ⟨before, t, same, -⟩ | ⟨fault', met, last, read⟩
  · rw [h] at same
    exact absurd same (by simp)
  · rw [h] at met read
    obtain rfl := Except.error.inj met
    exact ⟨last, read⟩

/-- **Behind an unexpected character** every request is answered with it. -/
theorem answer_fixed_of_unexpected {request : Request} {char : Char} {found : String} {p : Position}
    (h : c.answer request = (.error (.lexical (.unexpected char) found p), after))
    (other : Request) :
    after.answer other = (.error (.lexical (.unexpected char) found p), after) := by
  obtain ⟨last, read⟩ := exists_next_of_answer h
  exact answer_of_error (next_unexpected read) other

/-- **Behind an unclosed string literal** every request is answered with the end
of the text. -/
theorem answer_fixed_of_unterminated {request : Request} {found : String} {p : Position}
    (h : c.answer request = (.error (.lexical .unterminated found p), after)) (other : Request) :
    after.rest = [] ∧ after.answer other = (.ok [.endAt (some after.position)], after) := by
  obtain ⟨last, read⟩ := exists_next_of_answer h
  have exhausted : after.rest = [] := by rw [next_cause read]; rfl
  exact ⟨exhausted, answer_of_nil exhausted other⟩

/-- **A reader is exact over every run.** Whatever it is asked for, every cursor
stands in the text with the line, column and offset of its place, none stands
before an earlier one, and every token and every fault stands at its place.
After the end of the input there is only this end, at the same place; after an
unexpected character only the same fault, with the cursor unmoved; and after a
string literal that is not closed only the end of the text. -/
theorem answers_exact (text : String) (requests : List Request) :
    (∀ step ∈ (ofText text).answers requests,
      Exact text.toList step.1 ∧ ∃ place, step.2.StandsAt text.toList place) ∧
    (0 :: ((ofText text).answers requests).map fun step => step.2.position.offset).Pairwise
      (· ≤ ·) ∧
    ∀ before answer c later, (ofText text).answers requests = before ++ (answer, c) :: later →
      (∀ tokens t, answer = .ok (tokens ++ [t]) → t.isEnd → ∀ step ∈ later, step = (.ok [t], c)) ∧
      (∀ char found p, answer = .error (.lexical (.unexpected char) found p) →
        ∀ step ∈ later, step = (answer, c)) ∧
      ∀ found p, answer = .error (.lexical .unterminated found p) → ∀ step ∈ later,
        step = (.ok [.endAt (some (.inText text.toList text.toList.length))], c) := by
  obtain ⟨steps, order⟩ := (standsAt_ofText text).answers requests
  refine ⟨?_, List.pairwise_cons.2 ⟨?_, order⟩, ?_⟩
  · intro step listed
    obtain ⟨answer, place, -, stands⟩ := steps step listed
    exact ⟨answer, place, stands⟩
  · intro offset listed
    obtain ⟨step, member, rfl⟩ := List.mem_map.1 listed
    obtain ⟨-, place, -, -, -, position⟩ := steps step member
    rw [position]
    exact Int.natCast_nonneg place
  · intro before answer c later split
    obtain ⟨prior, request, others, given, rfl⟩ := answers_split split
    refine ⟨?_, ?_, ?_⟩
    · rintro tokens t rfl last
      exact answers_of_fixed (answer_fixed_of_end given last) others
    · rintro char found p rfl
      exact answers_of_fixed (answer_fixed_of_unexpected given) others
    · rintro found p rfl
      have listed : (.error (.lexical .unterminated found p), c) ∈ (ofText text).answers requests := by
        rw [split]
        exact List.mem_append_right _ List.mem_cons_self
      obtain ⟨-, place, -, stands⟩ := steps _ listed
      have exhausted := (answer_fixed_of_unterminated given .next).1
      rw [← stands.position_of_nil exhausted]
      exact answers_of_fixed (fun other => (answer_fixed_of_unterminated given other).2) others

end PascalFront.Cursor
