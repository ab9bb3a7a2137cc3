import PascalFront.Proofs.Grammar.Local
import PascalFront.Proofs.Grammar.Language
import PascalFront.Proofs.Token.Tiling
/-!
# Tokens on demand

A recognizer asks for tokens only as it needs them. The stream of a text hands
out, at each request, what the reader finds next, and whatever lies further on in
the text is found only if it is asked for (`TokenStream.pull_readBy`).

Reading all tokens first makes a difference only to a text with a lexical fault.
There the recognizer stops at one of the tokens before the fault, and then it has
never asked for more; or it asks for more and meets the lexical fault. The two
are told apart by where the recognizer stops on the tokens alone, with the end of
the input behind them (`Program.ofText_lazy`).
-/

namespace PascalFront

open TokenStream

namespace TokenStream

/-- **The stream of what a reader finds** from a place on, behind tokens that have
been looked at and the one that was taken last, with so many levels of nesting open. -/
def readBy (c : Cursor) (buffer : List Token) (previous : Option Token) (depth : Nat) :
    TokenStream :=
  ⟨c.readAll.tokens, c.readAll.fault, buffer, previous, depth⟩

/-- Before the end has been looked at, the next token is taken from the pending
ones, and behind these the fault is met. -/
theorem pull_of_noEnd {s : TokenStream} (noEnd : ∀ t ∈ s.buffer, t.isEnd = false) :
    Recognizer.pull s =
      match s.pending, s.fault with
      | t :: rest, _ => .ok t { s with pending := rest, buffer := s.buffer ++ [t] }
      | [], some fault => .error fault { s with fault := none }
      | [], none => .ok s.closing { s with buffer := s.buffer ++ [s.closing] } := by
  have notLast : s.buffer.getLast?.filter Token.isEnd = none := by
    cases last : s.buffer.getLast? with
    | none => rfl
    | some t => simp [noEnd t (List.mem_of_getLast? last)]
  unfold Recognizer.pull
  simp only [notLast]
  cases s.pending with
  | cons t rest => rfl
  | nil => cases s.fault <;> rfl

/-- **Each request reads one token.** What is looked at next is what the reader
finds next, and the stream goes on where the reader stopped. Behind the end of
the input and behind a fault nothing is read any more. -/
theorem pull_readBy {c : Cursor} {buffer : List Token} {previous : Option Token} {depth : Nat}
    (noEnd : ∀ t ∈ buffer, t.isEnd = false) :
    Recognizer.pull (readBy c buffer previous depth) =
      match c.next with
      | (.ok t, after) =>
        .ok t (if t.isEnd then ⟨[], none, buffer ++ [t], previous, depth⟩
          else readBy after (buffer ++ [t]) previous depth)
      | (.error fault, _) => .error fault ⟨[], none, buffer, previous, depth⟩ := by
  have pulled := pull_of_noEnd (s := readBy c buffer previous depth) noEnd
  rw [pulled, readBy]
  rcases read : c.next with ⟨found, after⟩
  cases found with
  | error fault => rw [Cursor.readAll_of_error read]
  | ok t =>
    cases last : t.isEnd with
    | true => simp only [Cursor.readAll_of_end read last, last, if_true]
    | false =>
      simp only [Cursor.readAll_of_more read (Bool.eq_false_iff.1 last), last, Bool.false_eq_true,
        if_false, readBy]

end TokenStream

/-- **A fault is located at one of some tokens.** -/
def Fault.IsAt (tokens : List Token) (fault : Fault) : Prop :=
  ∃ t ∈ tokens, fault.place? = some t.span

namespace Recognizer

variable {s s' : TokenStream} {fault : Fault}

/-- **Where the recognizer of programs stops** on a stream that nobody has read
from: at a fault that follows the tokens; at one of these tokens, having looked no
further; or at the end of the input. -/
theorem program_stopped (fresh : s.buffer = []) (start : s.previous = none)
    (run : program s = .error fault s') :
    s.ending = .error fault ∨
      (¬ s'.MetEnd ∧ fault.IsAt s.ahead) ∨
      ∃ t, s.ending = .ok t ∧ fault.place? = some t.span := by
  have settled : s.Settled := by
    rw [Settled, fresh]
    exact Nat.zero_le 1
  have stopped := reads_program s
  rw [run] at stopped
  have stopped : Stopped (Grammar.Starts [.part .program]) s s' fault := stopped
  cases stopped with
  | @limit _ u t _ place took last alone =>
    -- The token was taken, and the buffer is empty behind it.
    refine .inr (.inl ⟨?_, t, ?_, place⟩)
    · rintro ⟨t', listed, -⟩
      simp [alone settled] at listed
    · rw [took.previous, start, Option.or_none] at last
      rw [took.ahead]
      exact List.mem_append_left _ (List.mem_of_getLast? last)
  | ended ending _ => exact .inl ending
  | @refused u t complaint faces _ =>
    cases faces with
    | last _ ending => exact .inr (.inr ⟨t, ending, rfl⟩)
    | token ahead unseen =>
      have listed : t ∈ s.ahead := ahead ▸ List.mem_append_right _ List.mem_cons_self
      refine .inr (.inl ⟨?_, t, listed, rfl⟩)
      rintro ⟨t', last, isEnd⟩
      obtain rfl := Option.some.inj ((unseen settled).1.symm.trans last)
      rw [isEnd_of_mem_ahead listed] at isEnd
      exact absurd isEnd (by decide)

/-- **What the recognizer of programs complains about**: a token ahead or the end of the
input. Otherwise it met the fault that follows the tokens. -/
theorem program_complains (start : s.previous = none) (run : program s = .error fault s') :
    s.ending = .error fault ∨
      ∃ complaint t, fault = .grammatical complaint (some t.span) ∧
        (t ∈ s.ahead ∨ s.ending = .ok t) := by
  have stopped := reads_program s
  rw [run] at stopped
  have stopped : Stopped (Grammar.Starts [.part .program]) s s' fault := stopped
  cases stopped with
  | @limit _ u t limit place took last _ =>
    rw [took.previous, start, Option.or_none] at last
    have listed : t ∈ s.ahead := by
      rw [took.ahead]
      exact List.mem_append_left _ (List.mem_of_getLast? last)
    cases limit with
    | nesting _ | literal _ =>
      obtain rfl := show _ = some t.span from place
      exact .inr ⟨_, t, rfl, .inl listed⟩
  | ended ending _ => exact .inl ending
  | @refused u t complaint faces _ =>
    refine .inr ⟨complaint, t, rfl, ?_⟩
    cases faces with
    | last _ ending => exact .inr ending
    | token ahead _ => exact .inl (ahead ▸ List.mem_append_right _ List.mem_cons_self)

/-- **A recognizer that never met the end stops the same way** whatever would have
come behind its tokens. -/
theorem program_continued {s s' : TokenStream} (run : program s = .error fault s')
    (inside : ¬ s'.MetEnd) (other : Option Fault) :
    s.fault = some fault ∨
      ∃ s'', program (s.continued s.pending other) = .error fault s'' := by
  have depends := local_program s
  unfold LocalAt at depends
  rw [run] at depends
  rcases depends with met | ⟨pulled, pulls, same⟩
  · exact .inl met.1
  · rw [pulls.pending]
    exact .inr ⟨_, same (inside ∘ MadeUp.met) s'.pending other⟩

end Recognizer

namespace Program

variable {text : String}

/-- A text without a fault is recognized as its tokens are. -/
theorem ofText_of_noFault (noFault : (Cursor.ofText text).readAll.fault = none) :
    ofText text = ofTokens (Cursor.ofText text).readAll.tokens := by
  rw [ofText, ofTokens, TokenStream.ofText, TokenStream.ofTokens, noFault]

/-- **What is wrong with a text** is its lexical fault, or a complaint about one of its
tokens. -/
theorem exists_offending {fault : Fault} (refused : ofText text = .error fault) :
    (Cursor.ofText text).readAll.fault = some fault ∨
      ∃ complaint, ∃ t ∈ (Cursor.ofText text).readAll.tokens,
        fault = .grammatical complaint (some t.span) := by
  rcases exists_run text with ⟨p, s', -, result⟩ | ⟨fault', s', run, result⟩
  · exact absurd (result.symm.trans refused) (by simp)
  obtain rfl := Except.error.inj (result.symm.trans refused)
  rcases view_ofText text with ⟨last, ending, -, -, read⟩ | ⟨cause, found, p, ending, met, read⟩
  · rcases Recognizer.program_complains rfl run with same | ⟨complaint, t, rfl, listed⟩
    · exact absurd (ending.symm.trans same) (by simp)
    · refine .inr ⟨complaint, t, ?_, rfl⟩
      rw [read]
      rcases listed with listed | same
      · exact List.mem_append_left _ listed
      · obtain rfl := Except.ok.inj (ending.symm.trans same)
        exact List.mem_append_right _ List.mem_cons_self
  · rcases Recognizer.program_complains rfl run with same | ⟨complaint, t, rfl, listed⟩
    · rw [← Except.error.inj (ending.symm.trans same)]
      exact .inl met
    · refine .inr ⟨complaint, t, ?_, rfl⟩
      rcases listed with listed | same
      · exact read ▸ listed
      · exact absurd (ending.symm.trans same) (by simp)

/-- Tokens without the end of the input are recognized, or the recognizer stops at
one of them, having looked no further, or at the end that is put behind them. -/
theorem ofTokens_stopped {tokens : List Token} {fault : Fault}
    (notEnd : ∀ t ∈ tokens, t.isEnd = false) (refused : ofTokens tokens = .error fault) :
    (∃ s', Recognizer.program (.ofTokens tokens) = .error fault s' ∧ ¬ s'.MetEnd ∧
        fault.IsAt tokens) ∨
      fault.place? = some (Token.endAt (tokens.getLast?.bind Token.stop)).span := by
  have ahead : (TokenStream.ofTokens tokens).ahead = tokens := by
    show tokens.takeWhile (!·.isEnd) = tokens
    exact List.takeWhile_eq_self_iff.2 (by simpa using notEnd)
  have ending : (TokenStream.ofTokens tokens).ending =
      .ok (.endAt (tokens.getLast?.bind Token.stop)) := by
    have noneFound : tokens.find? Token.isEnd = none := by
      simpa [List.find?_eq_none] using notEnd
    simp [TokenStream.ending, TokenStream.ofTokens, noneFound]
  unfold ofTokens ofStream at refused
  cases run : Recognizer.program (.ofTokens tokens) with
  | ok p s' =>
    rw [run] at refused
    exact absurd refused (by simp)
  | error fault' s' =>
    rw [run] at refused
    obtain rfl := Except.error.inj refused
    rcases Recognizer.program_stopped rfl rfl run with met | ⟨inside, t, listed, place⟩ | ⟨t, last, place⟩
    · exact absurd (ending.symm.trans met) (by simp)
    · exact .inl ⟨s', rfl, inside, t, ahead ▸ listed, place⟩
    · obtain rfl := Except.ok.inj (ending.symm.trans last)
      exact .inr place

/-- The end that is put behind the tokens of a text stands where none of them
does. -/
theorem span_endAt_ne {t : Token} (listed : t ∈ (Cursor.ofText text).readAll.tokens)
    (notEnd : t.isEnd = false) (position : Option Position) : (Token.endAt position).span ≠ t.span := by
  obtain ⟨first, last, -, lies⟩ := (Cursor.standsAt_ofText text).exists_liesOn listed notEnd
  have empty : (Token.endAt position).span.start = (Token.endAt position).span.stop := by
    cases position with
    | none => rfl
    | some p =>
      show (Span.between p p).start = (Span.between p p).stop
      unfold Span.between
      split <;> rfl
  intro same
  rw [same, lies.span] at empty
  have offset : (first : Int) = last := congrArg Position.offset empty
  exact lies.notEmpty.ne (Int.ofNat.inj offset)

/-- **A text with a lexical fault is refused** as its tokens are, if these are
refused at one of them, and otherwise with the lexical fault. -/
theorem ofText_of_fault {lexical : Fault} (met : (Cursor.ofText text).readAll.fault = some lexical) :
    (∃ fault, ofTokens (Cursor.ofText text).readAll.tokens = .error fault ∧
      fault.IsAt (Cursor.ofText text).readAll.tokens ∧ ofText text = .error fault) ∨
    ((∀ fault, ofTokens (Cursor.ofText text).readAll.tokens = .error fault →
      ¬ fault.IsAt (Cursor.ofText text).readAll.tokens) ∧ ofText text = .error lexical) := by
  have stream : (TokenStream.ofTokens (Cursor.ofText text).readAll.tokens).continued
      (Cursor.ofText text).readAll.tokens (some lexical) = .ofText text := by
    rw [TokenStream.ofText, met]
    rfl
  obtain ⟨ending, ahead⟩ : (TokenStream.ofText text).ending = .error lexical ∧
      (Cursor.ofText text).readAll.tokens = (TokenStream.ofText text).ahead := by
    rcases view_ofText text with ⟨_, -, -, noFault, -⟩ | ⟨_, _, _, ending, met', ahead⟩
    · exact absurd (noFault.symm.trans met) (by simp)
    · exact ⟨ending.trans (congrArg _ (Option.some.inj (met'.symm.trans met))), ahead⟩
  have notEnd : ∀ t ∈ (Cursor.ofText text).readAll.tokens, t.isEnd = false :=
    fun t listed => isEnd_of_mem_ahead (ahead ▸ listed)
  by_cases located : ∃ fault, ofTokens (Cursor.ofText text).readAll.tokens = .error fault ∧
      fault.IsAt (Cursor.ofText text).readAll.tokens
  · -- The recognizer has not met the end behind the tokens, so it would not have met the fault.
    obtain ⟨fault, refused, t, listed, place⟩ := located
    refine .inl ⟨fault, refused, ⟨t, listed, place⟩, ?_⟩
    rcases ofTokens_stopped notEnd refused with ⟨s', run, inside, -⟩ | last
    · rcases Recognizer.program_continued run inside (some lexical) with none | ⟨s'', again⟩
      · exact absurd none (by simp [TokenStream.ofTokens])
      · have again : Recognizer.program (.ofText text) = .error fault s'' := stream ▸ again
        rw [ofText, ofStream, again]
    · exact absurd (Option.some.inj (last.symm.trans place)) (span_endAt_ne listed (notEnd t listed) _)
  · refine .inr ⟨fun fault refused isAt => located ⟨fault, refused, isAt⟩, ?_⟩
    rcases exists_run text with ⟨p, s', run, -⟩ | ⟨fault, s', run, result⟩
    · obtain ⟨-, -, -, t, last⟩ := Recognizer.exists_yields run
      exact absurd (ending.symm.trans last) (by simp)
    · rcases Recognizer.program_stopped rfl rfl run with last | ⟨inside, isAt⟩ | ⟨t, last, -⟩
      · rw [result, Except.error.inj (ending.symm.trans last)]
      · rcases Recognizer.program_continued run inside none with same | ⟨s'', again⟩
        · rw [result, Option.some.inj (met.symm.trans same)]
        · refine absurd ⟨fault, ?_, ahead ▸ isAt⟩ located
          have again : Recognizer.program (.ofTokens (Cursor.ofText text).readAll.tokens) =
            .error fault s'' := again
          rw [ofTokens, ofStream, again]
      · exact absurd (ending.symm.trans last) (by simp)

/-- **Recognizing while reading agrees with reading first.** The stream of a text
reads one token at each request, from the start of the text on. A text without a
fault is recognized as its tokens are. A text with a fault holds no program: it is
refused as its tokens are if they are refused at one of them, and otherwise, if
they are a program or refused at the end put behind them, with the fault of the
text. -/
theorem ofText_lazy (text : String) :
    TokenStream.ofText text = readBy (.ofText text) [] none 0 ∧
    (∀ (c : Cursor) (buffer : List Token) (previous : Option Token) (depth : Nat),
      (∀ t ∈ buffer, t.isEnd = false) →
      Recognizer.pull (readBy c buffer previous depth) =
        match c.next with
        | (.ok t, after) =>
          .ok t (if t.isEnd then ⟨[], none, buffer ++ [t], previous, depth⟩
            else readBy after (buffer ++ [t]) previous depth)
        | (.error fault, _) => .error fault ⟨[], none, buffer, previous, depth⟩) ∧
    ((Cursor.ofText text).readAll.fault = none →
      ofText text = ofTokens (Cursor.ofText text).readAll.tokens) ∧
    ∀ lexical, (Cursor.ofText text).readAll.fault = some lexical →
      (∀ p, ofText text ≠ .ok p) ∧
      (∀ fault, ofTokens (Cursor.ofText text).readAll.tokens = .error fault →
        fault.IsAt (Cursor.ofText text).readAll.tokens ∨
        fault.place? = some
          (Token.endAt ((Cursor.ofText text).readAll.tokens.getLast?.bind Token.stop)).span) ∧
      (∀ fault, ofTokens (Cursor.ofText text).readAll.tokens = .error fault →
        fault.IsAt (Cursor.ofText text).readAll.tokens → ofText text = .error fault) ∧
      ((∀ fault, ofTokens (Cursor.ofText text).readAll.tokens = .error fault →
        ¬ fault.IsAt (Cursor.ofText text).readAll.tokens) → ofText text = .error lexical) := by
  refine ⟨rfl, fun _ _ _ _ => pull_readBy, ofText_of_noFault, fun lexical met => ?_⟩
  have notEnd : ∀ t ∈ (Cursor.ofText text).readAll.tokens, t.isEnd = false := by
    rcases (Cursor.ofText text).readAll_ends with ⟨noFault, -⟩ | ⟨_, _, _, -, notEnd⟩
    · exact absurd (noFault.symm.trans met) (by simp)
    · exact notEnd
  refine ⟨fun p recognized => ?_, fun fault refused => ?_, fun fault refused isAt => ?_, fun never => ?_⟩
  · rcases ofText_of_fault met with ⟨_, -, -, result⟩ | ⟨-, result⟩
    all_goals exact absurd (result.symm.trans recognized) (by simp)
  · exact (ofTokens_stopped notEnd refused).imp (fun ⟨_, _, _, isAt⟩ => isAt) id
  · rcases ofText_of_fault met with ⟨fault', refused', -, result⟩ | ⟨never, -⟩
    · rw [result, Except.error.inj (refused'.symm.trans refused)]
    · exact absurd isAt (never fault refused)
  · rcases ofText_of_fault met with ⟨fault, refused, isAt, -⟩ | ⟨-, result⟩
    · exact absurd isAt (never fault refused)
    · exact result

/-- A number in the place of a name is refused before the question mark is read; an
unfinished program is not. -/
theorem ofText_lazy_faults :
    (∃ fault, ofTokens (Cursor.ofText "program 1 ?").readAll.tokens = .error fault ∧
      fault.IsAt (Cursor.ofText "program 1 ?").readAll.tokens ∧
      ofText "program 1 ?" = .error fault) ∧
    ∃ lexical, (Cursor.ofText "program p ?").readAll.fault = some lexical ∧
      ofText "program p ?" = .error lexical := by
  have met₁ : (Cursor.ofText "program 1 ?").readAll.fault =
      some (.lexical (.unexpected '?') "?" ⟨1, 11, 10⟩) := by decide +kernel
  have met₂ : (Cursor.ofText "program p ?").readAll.fault =
      some (.lexical (.unexpected '?') "?" ⟨1, 11, 10⟩) := by decide +kernel
  have place₁ : (fault? (ofTokens (Cursor.ofText "program 1 ?").readAll.tokens)).bind
      Fault.place? = some ⟨⟨1, 9, 8⟩, ⟨1, 10, 9⟩⟩ := by decide +kernel
  have place₂ : (fault? (ofTokens (Cursor.ofText "program p ?").readAll.tokens)).bind
      Fault.place? = some ⟨⟨1, 10, 9⟩, ⟨1, 10, 9⟩⟩ := by decide +kernel
  have spans₁ : ⟨⟨1, 9, 8⟩, ⟨1, 10, 9⟩⟩ ∈
      (Cursor.ofText "program 1 ?").readAll.tokens.map Token.span := by decide +kernel
  have spans₂ : ⟨⟨1, 10, 9⟩, ⟨1, 10, 9⟩⟩ ∉
      (Cursor.ofText "program p ?").readAll.tokens.map Token.span := by decide +kernel
  constructor
  · cases refused : ofTokens (Cursor.ofText "program 1 ?").readAll.tokens with
    | ok p => exact absurd (refused ▸ place₁) (by simp [fault?])
    | error fault =>
      rw [refused, fault?, Option.bind_some] at place₁
      obtain ⟨t, listed, span⟩ := List.mem_map.1 spans₁
      have isAt : fault.IsAt (Cursor.ofText "program 1 ?").readAll.tokens :=
        ⟨t, listed, span ▸ place₁⟩
      exact ⟨fault, rfl, isAt, ((ofText_lazy _).2.2.2 _ met₁).2.2.1 fault refused isAt⟩
  · refine ⟨_, met₂, ((ofText_lazy _).2.2.2 _ met₂).2.2.2 fun fault refused isAt => ?_⟩
    rw [refused, fault?, Option.bind_some] at place₂
    obtain ⟨t, listed, place⟩ := isAt
    have span : t.span = ⟨⟨1, 10, 9⟩, ⟨1, 10, 9⟩⟩ := Option.some.inj (place.symm.trans place₂)
    exact spans₂ (span ▸ List.mem_map_of_mem listed)

end Program

end PascalFront
