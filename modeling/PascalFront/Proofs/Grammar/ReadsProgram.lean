import PascalFront.Grammar.Program
import PascalFront.Proofs.Grammar.ReadsStatement
/-!
# Declarations and programs are read

The last recognizers are gone through, up to that of whole programs. It reads a
derivation of a program with nothing behind it, or stops behind a start of one
(`reads_program`).
-/

namespace PascalFront

open Grammar TokenStream

namespace Recognizer

variable {room : Nat} {s s₁ s' : TokenStream} {t : Token}

/-- The span from a first token that has been looked at to the last that was
taken. -/
theorem spanOver_of_takes {tokens : List Token} (shown : s.upcoming = .ok t)
    (took : Takes tokens s s') (some_ : tokens ≠ []) :
    .between t.startPosition ((s'.previous.map Token.stopPosition).getD .zero)
      = spanOver tokens := by
  obtain ⟨first, more, rfl⟩ := List.exists_cons_of_ne_nil some_
  obtain rfl := Except.ok.inj (shown.symm.trans (upcoming_of_ahead took.ahead))
  have := since_of_takes took
  rw [since_run] at this
  exact (EStateM.Result.ok.inj this).1

/-! ## Names and types -/

/-- The name of a type is read, and then the other items. -/
theorem ReadsRow.typeName {α : Type} {rest : List Item} {next : Token → Recognizer α}
    {Ok : Values (.token .typeName :: rest) → List Token → α → TokenStream → Prop}
    (behind : ∀ t s', Takes [t] s s' →
      ReadsRow rest room (fun values tokens => Ok (t, values) (t :: tokens)) s' (next t s')) :
    ReadsRow (.token .typeName :: rest) room Ok s ((Recognizer.typeName >>= next) s) := by
  refine .token ?_ fun t s' _ => behind t s'
  refine Outcome.bind (peek_spec s) (fun _ _ shown => .of_upcoming shown rfl) fun t s₁ peeked => ?_
  refine (take_or_reject_spec (W := (· = [])) rfl _ peeked fun fits => ?_).mono ?_ fun _ _ => id
  · have fits : Terminal.Fits .typeName t := fits
    exact fits.notEnd
  · rintro t' s' ⟨rfl, fits, took⟩
    exact ⟨fits, took⟩

/-- A name is read. -/
theorem reads_name (complaint : Complaint) : Recognizes .name room (expect .identifier complaint) := by
  intro s
  rw [← bind_pure (expect .identifier complaint)]
  refine .by_rule .name rfl (.expect fun t s' _ _ => .done ?_)
  exact ⟨_, rfl, rfl⟩

/-- Names with commas between them are read. -/
theorem reads_names (wanted : Wanted) :
    Recognizes (.separated (.kind .comma) .name) room (names wanted) :=
  reads_separated (by decide) (reads_name _)

/-! ## Variables and parameters -/

/-- Variables of one type are read. -/
theorem reads_variableGroup : Recognizes .variableGroup room variableGroup := by
  intro s
  refine .by_rule .variableGroup rfl (.part (reads_names _ s) ?_)
  rintro d declared _ s₁ - rfl
  refine .expect fun _ s₂ _ _ => .typeName fun type s₃ _ => .expect fun _ s₄ _ _ => .done ?_
  exact ⟨_, rfl, rfl⟩

/-- Variables of one more type, if a name follows. -/
def moreVariables : Recognizer (Option (List Declaration)) := do
  if ← check .identifier then return some (← variableGroup) else return none

/-- More variables are read if a name follows. -/
theorem reads_moreVariables : RecognizesMore .variableGroup room moreVariables := by
  intro s
  refine Outcome.bind (check_spec .identifier s) (fun _ _ shown => .of_upcoming shown (starts_nil _)) ?_
  rintro yes s₁ ⟨t, peeked, rfl⟩
  cases (!t.isEnd && decide (t.kind = .identifier)) with
  | false => exact .inl ⟨rfl, peeked.toTakes⟩
  | true =>
    have read : Reads .variableGroup room _ s (variableGroup s₁) :=
      (reads_variableGroup s₁).of_takes peeked.toTakes
    refine Outcome.bind read (fun _ _ => id) ?_
    rintro a s' ⟨d, _, takes, yields, rfl⟩
    exact .inr ⟨d, a, rfl, takes, yields, d.tokens_ne_nil rfl⟩

/-- A section of variables is read. -/
theorem reads_variableSection (peeked : Peeked t s s₁) (isVar : t.kind = .varKeyword) :
    Reads .declaration room (fun b a _ => a = b) s (variableSection s₁) := by
  refine .by_rule .variableSection rfl (.advance peeked isVar fun s₂ _ => ?_)
  refine .part (reads_variableGroup s₂) ?_
  rintro d first _ s₃ - rfl
  refine .part (reads_repeated reads_moreVariables s₃) ?_
  rintro e others _ s₄ - rfl
  exact .done ⟨_, rfl, rfl⟩

/-- Parameters of one type are read. -/
theorem reads_parameterGroup : Recognizes .parameterGroup room parameterGroup := by
  intro s
  refine Reads.look (peek_spec s) fun start s₁ peeked => ?_
  refine .of_takes peeked.toTakes (.look (accept_spec .varKeyword s₁) ?_)
  have shown : s₁.upcoming = .ok start := peeked.upcoming.trans peeked.shown
  rintro yes s₂ (⟨rfl, t, isVar, -, took⟩ | ⟨rfl, t, peeked', -⟩)
  · obtain rfl := Except.ok.inj (shown.symm.trans (upcoming_of_ahead took.ahead))
    refine .by_rule .referenceGroup rfl (.cons_token isVar took ?_)
    refine .part (reads_names _ s₂) ?_
    rintro d declared _ s₃ - rfl
    refine .expect fun _ s₄ _ _ => .typeName fun type s₅ _ => .done ?_
    exact ⟨_, rfl, rfl⟩
  · refine .of_takes peeked'.toTakes (.by_rule .valueGroup rfl (.part (reads_names _ s₂) ?_))
    rintro d declared _ s₃ - rfl
    refine .expect fun _ s₄ _ _ => .typeName fun type s₅ _ => .done ?_
    exact ⟨_, rfl, rfl⟩

/-- **Parameters are read**, if there is a parenthesis. -/
theorem reads_parameters : Recognizes .parameters room parameters := by
  intro s
  refine Reads.look (accept_spec .openParen s) ?_
  rintro yes s₁ (⟨rfl, t, isParen, -, took⟩ | ⟨rfl, t, peeked, -⟩)
  · refine Outcome.bind (accept_spec .closeParen s₁) (fun fault s' shown => ?_) ?_
    · refine Stopped.behind took (.of_upcoming shown (W := (· = [])) rfl) ?_
      rintro u - rfl
      exact .rule .emptyParameters trivial (.token isParen (starts_nil _))
    · rintro yes s₂ (⟨rfl, t', closes, -, took'⟩ | ⟨rfl, t', peeked, -⟩)
      · refine Reads.by_rule .emptyParameters rfl
          (.cons_token isParen took (.cons_token closes took' (.done ?_)))
        exact ⟨_, rfl, rfl⟩
      · refine Reads.by_rule .someParameters rfl
          (.cons_token isParen (took.trans peeked.toTakes) ?_)
        refine .part (reads_separated (by decide) reads_parameterGroup s₂) ?_
        rintro d groups _ s₃ - rfl
        refine .expect fun _ s₄ _ _ => .done ?_
        exact ⟨_, rfl, rfl⟩
  · refine .of_takes peeked.toTakes (.by_rule .noParameters rfl (.done ?_))
    exact ⟨_, rfl, rfl⟩

/-! ## Routines -/

/-- **A block is read.** Its statements are those of the tree, and from a given
start on its span is known. -/
theorem reads_block {inner : Recognizer Statement}
    (each : Recognizes (.nested .statement) room inner) (declared : List Declaration)
    (start : Option Position) (s : TokenStream) :
    Reads .block room
      (fun b a s' => a.statements = b ∧ ∀ p, start = some p →
        a = .mk b declared (.between p ((s'.previous.map Token.stopPosition).getD .zero)))
      s (block inner declared start s) := by
  refine .by_rule .block rfl (.expectKeyword (by decide) fun opening s₁ _ => ?_)
  refine .part (reads_statements each s₁) ?_
  rintro d items _ s₂ - rfl
  refine .expectKeyword (by decide) fun stop s₃ _ => ?_
  rw [bind_of_ok (since_run _ s₃)]
  refine .done ⟨_, rfl, rfl, ?_⟩
  rintro p rfl
  rfl

/-- A procedure is read. -/
theorem reads_procedure {body : Recognizer Block}
    (each : Recognizes (.nested .routineBody) room body) (peeked : Peeked t s s₁)
    (isProcedure : t.kind = .procedureKeyword) :
    Reads .declaration room (fun b a _ => [a] = b) s (procedure body s₁) := by
  refine .by_rule .procedure rfl (.advance peeked isProcedure fun s₂ took => ?_)
  refine .expect fun title s₃ _ took₁ => .part (reads_parameters s₃) ?_
  rintro d formal _ s₄ took₂ rfl
  refine .expect fun t₃ s₅ _ took₃ => .part (each s₅) ?_
  rintro e content _ s₆ took₄ rfl
  refine .expect fun t₅ s₇ _ took₅ => ?_
  rw [bind_of_ok (since_of_takes (took.trans (took₁.trans (took₂.trans (took₃.trans
    (took₄.trans took₅))))))]
  exact .done ⟨_, rfl, rfl⟩

/-- A function is read. -/
theorem reads_function {body : Recognizer Block}
    (each : Recognizes (.nested .routineBody) room body) (peeked : Peeked t s s₁)
    (isFunction : t.kind = .functionKeyword) :
    Reads .declaration room (fun b a _ => [a] = b) s (function body s₁) := by
  refine .by_rule .function rfl (.advance peeked isFunction fun s₂ took => ?_)
  refine .expect fun title s₃ _ took₁ => .part (reads_parameters s₃) ?_
  rintro d formal _ s₄ took₂ rfl
  refine .expect fun t₃ s₅ _ took₃ => .typeName fun type s₆ took₄ => ?_
  refine .expect fun t₅ s₇ _ took₅ => .part (each s₇) ?_
  rintro e content _ s₈ took₆ rfl
  refine .expect fun t₇ s₉ _ took₇ => ?_
  rw [bind_of_ok (since_of_takes (took.trans (took₁.trans (took₂.trans (took₃.trans (took₄.trans
    (took₅.trans (took₆.trans took₇))))))))]
  exact .done ⟨_, rfl, rfl⟩

/-- **A declaration is read**, unless none starts here. -/
theorem reads_declarationSection {body : Recognizer Block}
    (each : Recognizes (.nested .routineBody) room body) :
    RecognizesMore .declaration room (declarationSection body) := by
  have found {α : Type} {s s' : TokenStream} {r : Recognizer α} {f : α → List Declaration}
      (read : Reads .declaration room (fun b a _ => f a = b) s (r s')) :
      Outcome
        (fun found s' => (found = none ∧ Takes [] s s') ∨
          ∃ (d : Grammar.Derivation .declaration) (b : List Declaration), found = some b ∧
            Takes d.tokens s s' ∧ d.Yields room s'.ahead.head? b ∧ d.tokens ≠ [])
        (fun fault s' => Stopped (Starts [.part .declaration]) s s' fault)
        ((r >>= fun a => pure (some (f a))) s') := by
    refine Outcome.bind read (fun _ _ => id) ?_
    rintro a s'' ⟨d, _, takes, yields, rfl⟩
    exact .inr ⟨d, f a, rfl, takes, yields, d.tokens_ne_nil rfl⟩
  have look {s s' : TokenStream} (same : Takes [] s s') (fault : Fault) (s'' : TokenStream)
      (shown : s'.upcoming = .error fault) :
      Stopped (Starts [.part .declaration]) s s'' fault :=
    .of_upcoming (same.upcoming.symm.trans shown) (starts_nil _)
  intro s
  refine Outcome.bind (check_spec .varKeyword s) (look (.refl s)) ?_
  rintro yes s₁ ⟨t, peeked, rfl⟩
  cases isVar : (!t.isEnd && decide (t.kind = .varKeyword)) with
  | true =>
    simp only [Bool.and_eq_true, decide_eq_true_eq] at isVar
    exact found (f := id) (reads_variableSection peeked isVar.2)
  | false =>
    refine Outcome.bind (check_spec .procedureKeyword s₁) (look peeked.toTakes) ?_
    rintro yes s₂ ⟨t', peeked', rfl⟩
    have same := peeked.toTakes.trans peeked'.toTakes
    cases isProcedure : (!t'.isEnd && decide (t'.kind = .procedureKeyword)) with
    | true =>
      simp only [Bool.and_eq_true, decide_eq_true_eq] at isProcedure
      exact found ((reads_procedure each peeked' isProcedure.2).of_takes peeked.toTakes)
    | false =>
      refine Outcome.bind (check_spec .functionKeyword s₂) (look same) ?_
      rintro yes s₃ ⟨t'', peeked'', rfl⟩
      cases isFunction : (!t''.isEnd && decide (t''.kind = .functionKeyword)) with
      | true =>
        simp only [Bool.and_eq_true, decide_eq_true_eq] at isFunction
        exact found ((reads_function each peeked'' isFunction.2).of_takes same)
      | false => exact .inl ⟨rfl, same.trans peeked''.toTakes⟩

/-- **Declarations are read** as far as they go. -/
theorem reads_declarations {body : Recognizer Block}
    (each : Recognizes (.nested .routineBody) room body) (s : TokenStream) :
    Reads (.repeated .declaration) room (fun b a _ => a = b.flatten) s (declarations body s) := by
  refine Outcome.bind (reads_repeated (reads_declarationSection each) s) (fun _ _ => id) ?_
  rintro a s' ⟨d, _, takes, yields, rfl⟩
  exact ⟨d, a, takes, yields, rfl⟩

/-- **The body of a routine is read** with any number of levels of nesting to
spare. -/
theorem reads_routineBodyIn (room : Nat) :
    Recognizes (.nested .routineBody) room (routineBodyIn room) := by
  induction room with
  | zero => exact fun s => .rejected _ (.refl s)
  | succ room ih =>
    refine fun s => Reads.nested (Reads.look (peek_spec s) fun start s₁ peeked => ?_)
    refine .of_takes peeked.toTakes (.by_rule .routineBody rfl ?_)
    refine .part (reads_declarations ih s₁) ?_
    rintro d declared _ s₂ took rfl
    rw [← bind_pure (block (statementIn room) declared.flatten (some start.startPosition))]
    refine .part (reads_block (reads_statementIn room) _ _ s₂) ?_
    rintro e items content s₃ took' ⟨-, span⟩
    refine .done ⟨_, rfl, ?_⟩
    have shown : s₁.upcoming = .ok start := peeked.upcoming.trans peeked.shown
    have filled : d.tokens ++ e.tokens ≠ [] := by
      simpa using fun _ => e.tokens_ne_nil rfl
    rw [span _ rfl, spanOver_of_takes shown (took.trans took') filled, List.append_nil]

/-- Where levels are counted there are no more of them than calls. -/
theorem reads_routineBody (calls : Nat) :
    Recognizes (.nested .routineBody) calls (routineBody calls) := by
  intro s
  rw [routineBody_run]
  exact (reads_routineBodyIn _ s).widen (Nat.min_le_left ..)

/-! ## Programs -/

/-- Behind the last token comes the end of the input, or the next token is
refused. -/
theorem reads_nothing (room : Nat) {a : Program} (same : Takes [] s s₁) :
    ReadsRow [] room (fun _ tokens b s' => tokens = [] ∧ b = a ∧ s'.ahead = [] ∧
        ∃ t, s'.ending = .ok t) s
      ((do if !(← atEnd) then reject (.missing .endAfterDot)
           return a : Recognizer Program) s₁) := by
  have refused {α : Type} {Ok : α → TokenStream → Prop} {s' : TokenStream}
      (same : Takes [] s s') : Outcome Ok (fun fault s'' => Stopped (Starts []) s s'' fault)
        (reject (.missing .endAfterDot) s') :=
    (reject_spec (W := Starts []) _ s' (starts_nil _)).mono (fun _ _ => id)
      fun _ _ stopped => stopped.behind same fun _ _ => id
  rw [atEnd, bind_assoc]
  refine Outcome.bind (peek_spec s₁) (fun _ _ shown => ?_) fun t s₂ peeked => ?_
  · exact .of_upcoming (same.upcoming.symm.trans shown) (starts_nil _)
  have same₂ := same.trans peeked.toTakes
  rw [pure_bind]
  cases last : t.isEnd with
  | false =>
    have refused_ : Outcome (fun (_ : Unit) _ => False)
        (fun fault s' => Stopped (Starts []) s s' fault)
        (reject (.missing .endAfterDot) s₂) := refused same₂
    exact refused_.bind (fun _ _ => id) fun _ _ never => never.elim
  | true =>
    rcases upcoming_eq_ok_iff.1 peeked.shown with ⟨more, front⟩ | ⟨front, ending⟩
    · rw [isEnd_of_mem_ahead (front ▸ List.mem_cons_self)] at last
      exact absurd last (by decide)
    · refine ⟨.nil, (), same₂, ⟨rfl, Nat.zero_le _, trivial⟩, rfl, rfl, ?_, t, ?_⟩
      · rw [← front, peeked.ahead, List.nil_append]
      · exact peeked.ending.trans ending

/-- A program is read with any number of levels of nesting to spare, and nothing is read behind
it. -/
theorem reads_programIn (room : Nat) (s : TokenStream) :
    Reads .program room (fun b a s' => a = b ∧ s'.ahead = [] ∧ ∃ t, s'.ending = .ok t) s
      (programIn room s) := by
  refine Reads.look (peek_spec s) fun start s₁ peeked => .of_takes peeked.toTakes ?_
  have shown : s₁.upcoming = .ok start := peeked.upcoming.trans peeked.shown
  refine .by_rule .program rfl (.expectKeyword (by decide) fun t s₂ took => ?_)
  obtain rfl := Except.ok.inj (shown.symm.trans (upcoming_of_ahead took.ahead))
  refine .expect fun title s₃ _ took₁ => .expect fun t₂ s₄ _ took₂ => ?_
  refine .part (reads_declarations (reads_routineBodyIn room) s₄) ?_
  rintro d declared _ s₅ took₃ rfl
  refine .part (reads_block (reads_statementIn room) [] none s₅) ?_
  rintro e items body s₆ took₄ ⟨rfl, -⟩
  refine .expect fun t₅ s₇ _ took₅ => ?_
  rw [bind_of_ok (since_of_takes (took.trans (took₁.trans (took₂.trans (took₃.trans
    (took₄.trans took₅))))))]
  refine (reads_nothing room (.refl s₇)).mono ?_ fun _ _ => id
  rintro a s₈ ⟨forest, values, takes, yields, rest, rfl, ends⟩
  refine ⟨forest, values, takes, yields, _, ?_, rfl, ends⟩
  rw [rest]
  rfl

/-- **A program is read with nothing behind it**; otherwise the recognizer stops
behind a start of a program. -/
theorem reads_program (s : TokenStream) :
    Reads .program (maxNesting - s.depth)
      (fun b a s' => a = b ∧ s'.ahead = [] ∧ ∃ t, s'.ending = .ok t) s (program s) := by
  rw [program_run]
  exact reads_programIn _ s

/-- **A program that is recognized is derived** from all the tokens ahead, and behind
these is the end of the input. -/
theorem exists_yields {p : Program} (run : program s = .ok p s') :
    ∃ d : Grammar.Derivation .program, s.ahead = d.tokens ∧
      d.Yields (maxNesting - s.depth) none p ∧ ∃ t, s.ending = .ok t := by
  have reads := reads_program s
  rw [run] at reads
  obtain ⟨d, _, took, yields, rfl, rest, t, ending⟩ := reads
  have whole := took.ahead
  rw [rest, List.append_nil] at whole
  rw [rest] at yields
  exact ⟨d, whole, yields, t, took.ending.symm.trans ending⟩

end Recognizer

/-- A program that tokens hold is derived from those before the end of the input, with each
`else` at the nearest choice. -/
theorem Program.derivation_of_ofTokens {tokens : List Token} {p : Program}
    (accepted : ofTokens tokens = .ok p) :
    ∃ d : Grammar.Derivation .program, d.tokens = tokens.takeWhile (!·.isEnd) ∧
      d.InPlace true none ∧ d.value? = some p := by
  rw [ofTokens, ofStream] at accepted
  split at accepted
  · next run =>
    obtain rfl := Except.ok.inj accepted
    obtain ⟨d, ahead, yields, -⟩ := Recognizer.exists_yields run
    exact ⟨d, ahead.symm, yields.place, yields.value⟩
  · cases accepted

end PascalFront
