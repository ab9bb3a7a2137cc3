import PascalFront.Proofs.Grammar.AcceptsProgram
import PascalFront.Proofs.Grammar.Local
import PascalFront.Proofs.Grammar.Nearest
/-!
# The language of programs

Programs are recognized exactly as the grammar describes them
(`Program.ofText_language`), and what is no program is refused at the earliest
token at which that is certain (`Program.ofText_earliest`).

The recognizer stops behind a start of a program, so the tokens before the one
that it refuses can be continued. That no program goes on with the refused token
is shown from what is accepted: on the tokens of such a program the recognizer
would refuse the same token, since it has looked no further.
-/

namespace PascalFront

open Grammar TokenStream

namespace Grammar

/-- **The tokens of a program**, without the end of the input. -/
def IsProgram (tokens : List Token) : Prop :=
  ∃ d : Derivation .program, d.InPlace false none ∧ d.tokens = tokens

/-- No token of a program is the end of the input. -/
theorem IsProgram.notEnd {tokens : List Token} (h : IsProgram tokens) :
    ∀ t ∈ tokens, t.isEnd = false := by
  obtain ⟨d, -, rfl⟩ := h
  exact d.below.notEnd

/-- Tokens that can be continued to those of a program. -/
def Viable (u : List Token) : Prop := ∃ tokens, IsProgram tokens ∧ u <+: tokens

/-- A start of a program can be continued to a program. -/
theorem Starts.viable {u : List Token} (h : Starts [.part .program] u) : Viable u := by
  obtain ⟨forest, place, longer⟩ := h
  cases forest with
  | part rule below nothing =>
    cases nothing
    obtain ⟨mayStand, inner, -⟩ := place
    rw [Forest.tokens, Forest.tokens, List.append_nil] at longer
    exact ⟨below.tokens, ⟨⟨rule, below⟩, ⟨mayStand, inner⟩, rfl⟩, longer⟩

end Grammar

/-! ## Texts as streams -/

/-- Reading all tokens ends with the end of the input, and there is no other; or
with a lexical fault, and there is none. -/
theorem Cursor.readAll_ends (c : Cursor) :
    (c.readAll.fault = none ∧ ∃ before last, c.readAll.tokens = before ++ [last] ∧ last.isEnd ∧
      ∀ t ∈ before, t.isEnd = false) ∨
    ∃ cause found p, c.readAll.fault = some (.lexical cause found p) ∧
      ∀ t ∈ c.readAll.tokens, t.isEnd = false := by
  induction c using readAll.induct with
  | case1 c fault after read =>
    rw [readAll_of_error read]
    obtain ⟨cause, found, p, rfl, -⟩ := exists_cause read
    exact .inr ⟨cause, found, p, rfl, fun _ listed => absurd listed List.not_mem_nil⟩
  | case2 c t after read last =>
    rw [readAll_of_end read last]
    exact .inl ⟨rfl, [], t, rfl, last, fun _ listed => absurd listed List.not_mem_nil⟩
  | case3 c t after read notLast _ ih =>
    rw [readAll_of_more read notLast]
    have notEnd : t.isEnd = false := by simpa using notLast
    rcases ih with ⟨noFault, before, last, tokens, isEnd, others⟩ | ⟨cause, found, p, met, others⟩
    · exact .inl ⟨noFault, t :: before, last, by rw [tokens]; rfl, isEnd,
        List.forall_mem_cons.2 ⟨notEnd, others⟩⟩
    · exact .inr ⟨cause, found, p, met, List.forall_mem_cons.2 ⟨notEnd, others⟩⟩

/-- What the stream of a text shows: its tokens and then the end of the input, or
its tokens and then a lexical fault. -/
theorem TokenStream.view_ofText (text : String) :
    (∃ last, (ofText text).ending = .ok last ∧ last.isEnd ∧
      (Cursor.ofText text).readAll.fault = none ∧
      (Cursor.ofText text).readAll.tokens = (ofText text).ahead ++ [last]) ∨
    ∃ cause found p, (ofText text).ending = .error (.lexical cause found p) ∧
      (Cursor.ofText text).readAll.fault = some (.lexical cause found p) ∧
      (Cursor.ofText text).readAll.tokens = (ofText text).ahead := by
  have ahead : (ofText text).ahead = (Cursor.ofText text).readAll.tokens.takeWhile (!·.isEnd) := rfl
  have all : (ofText text).buffer ++ (ofText text).pending = (Cursor.ofText text).readAll.tokens := rfl
  have fault : (ofText text).fault = (Cursor.ofText text).readAll.fault := rfl
  rw [ahead, ending, all, fault]
  rcases (Cursor.ofText text).readAll_ends with
    ⟨noFault, before, last, tokens, isEnd, notEnd⟩ | ⟨cause, found, p, met, notEnd⟩
  · refine .inl ⟨last, ?_, isEnd, noFault, ?_⟩
    · have noneFound : before.find? Token.isEnd = none := by
        simpa [List.find?_eq_none] using notEnd
      simp [tokens, noneFound, isEnd]
    · rw [tokens, List.takeWhile_append_of_pos (by simpa using notEnd)]
      simp [isEnd]
  · refine .inr ⟨cause, found, p, ?_, met, ?_⟩
    · have noneFound : (Cursor.ofText text).readAll.tokens.find? Token.isEnd = none := by
        simpa [List.find?_eq_none] using notEnd
      rw [noneFound, met]
    · rw [← List.append_nil (Cursor.ofText text).readAll.tokens,
        List.takeWhile_append_of_pos (by simpa using notEnd)]
      rfl

/-- The tokens of a text that is read without a fault stand on its stream. -/
theorem TokenStream.holds_ofText {text : String} {tokens : List Token} {last : Token}
    (noFault : (Cursor.ofText text).readAll.fault = none)
    (read : (Cursor.ofText text).readAll.tokens = tokens ++ [last]) :
    Holds tokens (ofText text) := by
  rcases view_ofText text with ⟨last', ending, -, -, split⟩ | ⟨cause, found, p, -, met, -⟩
  · exact ⟨(List.append_inj' (read.symm.trans split) rfl).1.symm, last', ending⟩
  · exact absurd (noFault.symm.trans met) (by simp)

/-- Tokens with the end of the input behind them stand on their stream. -/
theorem TokenStream.holds_ofTokens {tokens : List Token} (notEnd : ∀ t ∈ tokens, t.isEnd = false) :
    Holds tokens (.ofTokens (tokens ++ [.endAt none])) := by
  have noneFound : tokens.find? Token.isEnd = none := by
    simpa [List.find?_eq_none] using notEnd
  refine ⟨?_, Token.endAt none, ?_⟩
  · show (tokens ++ [Token.endAt none]).takeWhile (!·.isEnd) = tokens
    rw [List.takeWhile_append_of_pos (by simpa using notEnd)]
    simp
  · simp [ending, ofTokens, noneFound]

/-! ## What is recognized -/

namespace Recognizer

/-- **A program that a stream holds is recognized**, or it exceeds a limit. -/
theorem program_of_holds {s : TokenStream} (d : Grammar.Derivation .program) (place : d.InPlace true none)
    (holds : Holds d.tokens s) :
    Outcome (fun _ _ => True) (fun fault _ => Exceeds (maxNesting - s.depth) d.depth d.value? fault)
      (program s) := by
  have holds : Holds (d.below.tokens ++ []) s := by rwa [List.append_nil]
  rw [program_run]
  exact (accepts_programIn _ _ d.rule d.below [] s place.1 ⟨place.2, holds⟩ rfl).mono
    (fun _ _ _ => trivial) fun _ _ => id

/-- A program that a stream holds is not refused. -/
theorem program_isLimit {s s' : TokenStream} {fault : Fault} (h : IsProgram s.ahead)
    (ending : ∃ t, s.ending = .ok t) (run : program s = .error fault s') : fault.IsLimit := by
  obtain ⟨d, place, tokens⟩ := h
  obtain ⟨d', same, place'⟩ := d.exists_nearest place
  have found := program_of_holds d' place' ⟨(same.trans tokens).symm, ending⟩
  rw [run] at found
  cases found with
  | nesting => exact .nesting _
  | literal => exact .literal _

end Recognizer

namespace Program

variable {text : String}

/-- What is not yielded from a text is a fault of the recognizer. -/
theorem exists_run (text : String) :
    (∃ p s', Recognizer.program (.ofText text) = .ok p s' ∧ ofText text = .ok p) ∨
    ∃ fault s', Recognizer.program (.ofText text) = .error fault s' ∧ ofText text = .error fault := by
  unfold ofText ofStream
  cases Recognizer.program (.ofText text) with
  | ok p s' => exact .inl ⟨p, s', rfl, rfl⟩
  | error fault s' => exact .inr ⟨fault, s', rfl, rfl⟩

/-- The program of a valid text. -/
theorem exists_of_isValid {text : String} (valid : isValid text = true) :
    ∃ p, ofText text = .ok p := by
  rw [isValid] at valid
  split at valid
  case h_1 p found => exact ⟨p, found⟩
  case h_2 => exact absurd valid (by simp)

/-- The fault of a text that is refused. -/
def fault? : Except Fault Program → Option Fault
  | .ok _ => none
  | .error fault => some fault

/-- What has a fault is refused with it. -/
theorem eq_error_of_fault? {result : Except Fault Program} {fault : Fault}
    (h : fault? result = some fault) : result = .error fault := by
  cases result with
  | ok p => exact absurd h (by simp [fault?])
  | error fault' => rw [Option.some.inj h]

/-- What has a program is accepted with it. -/
theorem eq_ok_of_toOption {result : Except Fault Program} {p : Program}
    (h : result.toOption = some p) : result = .ok p := by
  cases result with
  | ok p' => rw [Option.some.inj h]
  | error fault => exact absurd h (by simp [Except.toOption])

/-- **A text that is recognized has a derivation** that yields the program, from the tokens of
the text in front of the end of the input. -/
theorem yields_of_ofText {text : String} {p : Program} (recognized : ofText text = .ok p) :
    (Cursor.ofText text).readAll.fault = none ∧
      ∃ (d : Grammar.Derivation .program) (last : Token), last.isEnd ∧
        (Cursor.ofText text).readAll.tokens = d.tokens ++ [last] ∧
        d.Yields Recognizer.maxNesting none p := by
  rcases exists_run text with ⟨p', s', run, found⟩ | ⟨fault, s', -, found⟩
  · obtain rfl := Except.ok.inj (found.symm.trans recognized)
    obtain ⟨d, ahead, yields, t, ending⟩ := Recognizer.exists_yields run
    rcases view_ofText text with ⟨last, -, isEnd, noFault, read⟩ | ⟨cause, found, p, met, -, -⟩
    · exact ⟨noFault, d, last, isEnd, ahead ▸ read, yields⟩
    · exact absurd (met.symm.trans ending) (by simp)
  · exact absurd (found.symm.trans recognized) (by simp)

/-- What is recognized is a program of the grammar with each `else` at the nearest choice, and
what is yielded is what it denotes. -/
theorem derivation_of_ofText {text : String} {p : Program} (recognized : ofText text = .ok p) :
    (Cursor.ofText text).readAll.fault = none ∧
      ∃ (d : Grammar.Derivation .program) (last : Token), last.isEnd ∧
        (Cursor.ofText text).readAll.tokens = d.tokens ++ [last] ∧ d.InPlace true none ∧
        d.value? = some p := by
  obtain ⟨noFault, d, last, isEnd, read, yields⟩ := yields_of_ofText recognized
  exact ⟨noFault, d, last, isEnd, read, yields.place, yields.value⟩

/-- **The language of programs.** What is recognized is a program of the grammar
and what is yielded is what the program denotes, with each `else` at the nearest
choice. Conversely every program of the grammar, however it is derived, is
recognized, or a limit is reached; and no limit is reached if there is none to
reach. -/
theorem ofText_language (text : String) :
    (∀ p, ofText text = .ok p → (Cursor.ofText text).readAll.fault = none ∧
      ∃ (d : Grammar.Derivation .program) (last : Token), last.isEnd ∧
        (Cursor.ofText text).readAll.tokens = d.tokens ++ [last] ∧ d.InPlace true none ∧
        d.value? = some p) ∧
    (∀ (d : Grammar.Derivation .program) (last : Token), (Cursor.ofText text).readAll.fault = none →
      (Cursor.ofText text).readAll.tokens = d.tokens ++ [last] → d.InPlace false none →
      (∃ p, ofText text = .ok p) ∨
      (∃ place, ofText text = .error (.grammatical .nestingTooDeep place)) ∨
      ∃ place, ofText text = .error (.grammatical .literalTooLarge place)) ∧
    ∀ (d : Grammar.Derivation .program) (last : Token), (Cursor.ofText text).readAll.fault = none →
      (Cursor.ofText text).readAll.tokens = d.tokens ++ [last] → d.InPlace true none →
      d.depth ≤ Recognizer.maxNesting → d.value?.isSome → ∃ p, ofText text = .ok p := by
  refine ⟨fun p recognized => derivation_of_ofText recognized, ?_, ?_⟩
  · intro d last noFault read place
    have holds := holds_ofText noFault read
    rcases exists_run text with ⟨p, s', -, found⟩ | ⟨fault, s', run, found⟩
    · exact .inl ⟨p, found⟩
    · have program_ : IsProgram (TokenStream.ofText text).ahead := ⟨d, place, holds.ahead.symm⟩
      cases Recognizer.program_isLimit program_ holds.ending run with
      | nesting place => exact .inr (.inl ⟨place, found⟩)
      | literal place => exact .inr (.inr ⟨place, found⟩)
  · intro d last noFault read place shallow small
    have accepted := Recognizer.program_of_holds d place (holds_ofText noFault read)
    rcases exists_run text with ⟨p, s', -, found⟩ | ⟨fault, s', run, -⟩
    · exact ⟨p, found⟩
    · rw [run] at accepted
      cases accepted with
      | nesting deep => exact absurd shallow (Nat.not_le.2 deep)
      | literal large => exact absurd small (by simp [large])

/-- The `else` of a program with two choices belongs to the inner one. -/
theorem ofText_language_choices :
    ∃ p, ofText "program p; begin if a then if b then x := 1 else y := 2; end." = .ok p ∧
      ∃ (d : Grammar.Derivation .program) (last : Token), last.isEnd ∧
        (Cursor.ofText
          "program p; begin if a then if b then x := 1 else y := 2; end.").readAll.tokens
            = d.tokens ++ [last] ∧
        d.InPlace true none ∧ d.value? = some p := by
  have valid : isValid "program p; begin if a then if b then x := 1 else y := 2; end." = true := by
    decide +kernel
  rcases exists_run "program p; begin if a then if b then x := 1 else y := 2; end." with
    ⟨p, s', -, found⟩ | ⟨fault, s', -, found⟩
  · exact ⟨p, found, ((ofText_language _).1 p found).2⟩
  · rw [isValid, found] at valid
    exact absurd valid (by simp)

/-- **A refused token has been looked at last**, so it would be refused whatever
comes behind it. -/
theorem refused_anyway {u more : List Token} {t : Token} {complaint : Complaint} {s' : TokenStream}
    (run : Recognizer.program (.ofText text) = .error (.grammatical complaint (some t.span)) s')
    (ahead : (TokenStream.ofText text).ahead = u ++ t :: more)
    (seen : s'.buffer.getLast? = some t) (unseen : more = s'.unseen) :
    (Cursor.ofText text).readAll.tokens = u ++ t :: s'.pending ∧ ∀ other, ∃ s'',
      Recognizer.program (.ofTokens (u ++ t :: other)) =
        .error (.grammatical complaint (some t.span)) s'' := by
  have notEnd : t.isEnd = false := isEnd_of_mem_ahead (s := .ofText text) (by simp [ahead])
  have inside : ¬ s'.MetEnd := by
    rintro ⟨t', last, isEnd⟩
    obtain rfl := Option.some.inj (seen.symm.trans last)
    rw [notEnd] at isEnd
    exact absurd isEnd (by decide)
  have depends := Recognizer.local_program (.ofText text)
  unfold Recognizer.LocalAt at depends
  rw [run] at depends
  rcases depends with met | ⟨pulled, pulls, same⟩
  · have met : (Cursor.ofText text).readAll.fault = some (.grammatical complaint (some t.span)) := met.1
    rcases view_ofText text with ⟨_, -, -, noFault, -⟩ | ⟨_, _, _, -, lexical, -⟩
    · exact absurd (noFault.symm.trans met) (by simp)
    · exact absurd (lexical.symm.trans met) (by simp)
  · have split : (TokenStream.ofText text).ahead = pulled ++ s'.unseen := by
      show (TokenStream.ofText text).pending.takeWhile (!·.isEnd) = _
      rw [pulls.pending, List.takeWhile_append_of_pos (by simpa using pulls.notEnd inside)]
      rfl
    have front : pulled = u ++ [t] := by
      refine (List.append_left_inj s'.unseen).1 ?_
      rw [← split, ahead, unseen]
      simp
    subst front
    refine ⟨?_, fun other => ⟨s'.continued other none, ?_⟩⟩
    · have pending : (Cursor.ofText text).readAll.tokens = u ++ [t] ++ s'.pending := pulls.pending
      rw [pending]
      simp
    · have again := same (inside ∘ MadeUp.met) other none
      rw [List.append_assoc] at again
      exact again

/-- **The earliest fault.** A text that is no program, for another reason than a
limit, is refused at one of its tokens: those before can be continued to a
program, but not together with this one, and if it is the end of the input they
are no program. Or there is a lexical fault, and the tokens before can be
continued. -/
theorem ofText_earliest (text : String) (fault : Fault) (refused : ofText text = .error fault)
    (noLimit : ¬ fault.IsLimit) :
    (∃ (complaint : Complaint) (t : Token) (u v : List Token),
      fault = .grammatical complaint (some t.span) ∧
      (Cursor.ofText text).readAll.tokens = u ++ t :: v ∧ Viable u ∧
      (t.isEnd = false → ¬ Viable (u ++ [t])) ∧ (t.isEnd = true → ¬ IsProgram u)) ∨
    ∃ cause found p, fault = .lexical cause found p ∧
      (Cursor.ofText text).readAll.fault = some fault ∧
      Viable (Cursor.ofText text).readAll.tokens := by
  rcases exists_run text with ⟨p, s', -, result⟩ | ⟨fault', s', run, result⟩
  · exact absurd (result.symm.trans refused) (by simp)
  obtain rfl := Except.error.inj (result.symm.trans refused)
  have stopped := Recognizer.reads_program (.ofText text)
  rw [run] at stopped
  have stopped : Stopped (Starts [.part .program]) (.ofText text) s' fault' := stopped
  cases stopped with
  | limit limit => exact absurd limit noLimit
  | ended ending holds =>
    rcases view_ofText text with ⟨last, ending', -, -, -⟩ | ⟨cause, found, p, ending', met, read⟩
    · exact absurd (ending.symm.trans ending') (by simp)
    · obtain rfl := Except.error.inj (ending.symm.trans ending')
      exact .inr ⟨cause, found, p, rfl, met, read ▸ holds.viable⟩
  | @refused u t complaint faces holds =>
    cases faces with
    | token ahead unseen =>
      have fresh : (TokenStream.ofText text).Settled := Nat.zero_le 1
      obtain ⟨seen, rest⟩ := unseen fresh
      obtain ⟨read, anyway⟩ := refused_anyway run ahead seen rest
      have notEnd : t.isEnd = false := isEnd_of_mem_ahead (s := .ofText text) (by simp [ahead])
      refine .inl ⟨complaint, t, u, s'.pending, rfl, read, holds.viable, fun _ viable => ?_, ?_⟩
      · obtain ⟨tokens, isProgram, w, rfl⟩ := viable
        obtain ⟨s'', run'⟩ := anyway (w ++ [.endAt none])
        have holds' := holds_ofTokens isProgram.notEnd
        have same : u ++ [t] ++ w ++ [.endAt none] = u ++ t :: (w ++ [.endAt none]) := by simp
        rw [same] at holds'
        exact noLimit (Recognizer.program_isLimit (holds'.ahead.symm ▸ isProgram) holds'.ending run')
      · intro isEnd
        rw [notEnd] at isEnd
        exact absurd isEnd (by decide)
    | last ahead ending =>
      rcases view_ofText text with ⟨last, ending', isEnd, -, read⟩ | ⟨cause, found, p, ending', -, -⟩
      · obtain rfl := Except.ok.inj (ending.symm.trans ending')
        refine .inl ⟨complaint, t, u, [], rfl, ahead ▸ read, holds.viable, fun notEnd => ?_, fun _ h => ?_⟩
        · rw [isEnd] at notEnd
          exact absurd notEnd (by decide)
        · exact noLimit (Recognizer.program_isLimit (ahead.symm ▸ h) ⟨t, ending⟩ run)
      · exact absurd (ending.symm.trans ending') (by simp)

/-- A comparison of comparisons is refused at the second one. -/
theorem ofText_earliest_chained :
    ∃ fault, ofText "program p; begin x := 1 < 2 < 3; end." = .error fault ∧ ¬ fault.IsLimit ∧
      ((∃ (complaint : Complaint) (t : Token) (u v : List Token),
        fault = .grammatical complaint (some t.span) ∧
        (Cursor.ofText "program p; begin x := 1 < 2 < 3; end.").readAll.tokens = u ++ t :: v ∧
        Viable u ∧ (t.isEnd = false → ¬ Viable (u ++ [t])) ∧ (t.isEnd = true → ¬ IsProgram u)) ∨
      ∃ cause found p, fault = .lexical cause found p ∧
        (Cursor.ofText "program p; begin x := 1 < 2 < 3; end.").readAll.fault = some fault ∧
        Viable (Cursor.ofText "program p; begin x := 1 < 2 < 3; end.").readAll.tokens) := by
  have refused : ofText "program p; begin x := 1 < 2 < 3; end." =
      .error (.grammatical .chainedComparison (some ⟨⟨1, 29, 28⟩, ⟨1, 30, 29⟩⟩)) :=
    eq_error_of_fault? (by decide +kernel)
  have noLimit : ¬ Fault.IsLimit
      (.grammatical .chainedComparison (some ⟨⟨1, 29, 28⟩, ⟨1, 30, 29⟩⟩)) := by
    rintro ⟨⟩
  exact ⟨_, refused, noLimit, ofText_earliest _ _ refused noLimit⟩

end Program

end PascalFront
