import PascalFront.Proofs.Grammar.AcceptsStatement
import PascalFront.Proofs.Grammar.ReadsProgram
/-!
# Declarations and programs are accepted

A section of variables may be followed by anything but a name, which would be
one more variable, and declarations come before a block. Whole programs are
accepted with nothing behind them (`accepts_programIn`).
-/

namespace PascalFront

open Grammar TokenStream

namespace Recognizer

variable {room : Nat} {s s' : TokenStream} {w : List Token}

/-! ## Names and types -/

/-- The name of a type is found, and then the other items. -/
theorem FindsRow.typeName {α : Type} {rest : List Item} {next : Token → Recognizer α}
    {forest : Forest (.token .typeName :: rest)} (ready : forest.Ready w s)
    (behind : ∀ (t : Token) (others : Forest rest) s', others.Ready w s' →
      FindsRow others room w (next t s')) :
    FindsRow forest room w ((Recognizer.typeName >>= next) s) := by
  cases forest with
  | token t fits others =>
    obtain ⟨t', s₁, run, -, shown, holds⟩ := peek_of_holds ready.holds
    obtain rfl : t = t' := shown t rfl
    obtain ⟨s₂, run', holds'⟩ := advance_of_holds holds
    have named : t.kind.isTypeName ∨ t.kind = .identifier := fits
    have found : Recognizer.typeName s = .ok t s₂ := by
      rw [Recognizer.typeName, bind_of_ok run, if_pos named, run']
    rw [bind_of_ok found]
    exact .cons_token (behind t others s₂ ⟨ready.place, holds'⟩)

/-- A name is accepted. -/
theorem accepts_name (complaint : Complaint) :
    Accepts .name room (fun _ => true) (expect .identifier complaint) := by
  intro items rule below w s _ ready _
  cases rule with
  | name =>
    rw [← bind_pure (expect .identifier complaint)]
    exact .by_rule (.expect ready fun _ others s' ready => .done ready)

/-- Names with commas between them are accepted. -/
theorem accepts_names (wanted : Wanted) :
    Accepts (.separated (.kind .comma) .name) room (fun kind => true && kind ≠ .comma)
      (names wanted) :=
  accepts_separated (reads_name _) (accepts_name _) rfl

/-! ## Variables and parameters -/

/-- Variables of one type are accepted. -/
theorem accepts_variableGroup : Accepts .variableGroup room (fun _ => true) variableGroup := by
  intro items rule below w s _ ready _
  cases rule with
  | variableGroup =>
    refine .by_rule (.part (accepts_names _) ready
      (fun others _ => by rw [others.nextKind_token]; rfl) fun a others s' ready => ?_)
    refine .expect ready fun _ others s' ready => .typeName ready fun _ others s' ready => ?_
    exact .expect ready fun _ others s' ready => .done ready

/-- More variables are accepted. -/
theorem accepts_moreVariables : AcceptsMore .variableGroup room (fun _ => true) moreVariables := by
  intro items rule below w s mayStand ready _
  have isName : nextKind (below.tokens ++ w) = .identifier := by
    simpa using below.nextKind_mem [.identifier] (rule.first rfl) w
  obtain ⟨s₁, run, holds⟩ := check_of_holds .identifier (by decide) ready.holds
  rw [decide_eq_true isName] at run
  rw [moreVariables, bind_of_ok run]
  exact Outcome.bind (accepts_variableGroup _ rule below w s₁ mayStand ⟨ready.place, holds⟩ rfl)
    (fun _ _ => id) fun a s' holds => ⟨rfl, holds⟩

/-- A section of variables ends where no name follows. -/
theorem stops_moreVariables : StopsBefore (· ≠ .identifier) moreVariables := by
  intro w s holds last
  obtain ⟨s', run, holds'⟩ := check_of_holds .identifier (by decide) holds
  rw [decide_eq_false (of_decide_eq_true last)] at run
  exact ⟨s', bind_of_ok run, holds'⟩

/-- A section of variables is accepted. -/
theorem accepts_variableSection {below : Forest [.token (.kind .varKeyword), .part .variableGroup,
    .part (.repeated .variableGroup)]} (ready : below.Ready w s)
    (follow : nextKind w ≠ .identifier) : FindsRow below room w (variableSection s) := by
  refine .advance ready fun _ others s' _ ready => ?_
  refine .part accepts_variableGroup ready (fun _ _ => rfl) fun a others s' ready => ?_
  have more : Accepts (.repeated .variableGroup) room (· ≠ .identifier) (manyOf moreVariables) :=
    accepts_repeated [.identifier] reads_moreVariables accepts_moreVariables stops_moreVariables
      rfl (fun _ _ => rfl) fun _ _ => rfl
  refine .part more ready (fun others _ => ?_) fun a others s' ready => .done ready
  cases others
  exact decide_eq_true follow

/-- Parameters of one type are accepted. -/
theorem accepts_parameterGroup : Accepts .parameterGroup room (fun _ => true) parameterGroup := by
  intro items rule below w s _ ready _
  cases rule with
  | valueGroup =>
    refine .by_rule (.peek ready fun start s' _ ready => .skip (by decide) ready ?_ fun s' ready => ?_)
    · have listed := below.nextKind_mem [.identifier] ⟨_, fun _ => id, rfl⟩ w
      rw [List.mem_singleton.1 listed]
      decide
    refine .part (accepts_names _) ready (fun others _ => by rw [others.nextKind_token]; rfl)
      fun a others s' ready => ?_
    refine .expect ready fun _ others s' ready => ?_
    exact .typeName ready fun _ others s' ready => .done ready
  | referenceGroup =>
    refine .by_rule (.peek ready fun start s' _ ready => .accept ready fun others s' ready => ?_)
    refine .part (accepts_names _) ready (fun others _ => by rw [others.nextKind_token]; rfl)
      fun a others s' ready => ?_
    refine .expect ready fun _ others s' ready => ?_
    exact .typeName ready fun _ others s' ready => .done ready

/-- **Parameters are accepted**, also where there are none. -/
theorem accepts_parameters : Accepts .parameters room (· ≠ .openParen) parameters := by
  intro items rule below w s _ ready follow
  cases rule with
  | noParameters =>
    refine .by_rule (.skip (by decide) ready ?_ fun s' ready => .done ready)
    cases below
    exact of_decide_eq_true follow
  | emptyParameters =>
    refine .by_rule (.accept ready fun others s' ready => ?_)
    exact .accept ready fun others s' ready => .done ready
  | someParameters =>
    refine .by_rule (.accept ready fun others s' ready => .skip (by decide) ready ?_ fun s' ready => ?_)
    · have listed := others.nextKind_mem [.varKeyword, .identifier] ⟨_, fun _ => id, rfl⟩ w
      intro closed
      rw [closed] at listed
      exact absurd listed (by decide)
    refine .part (accepts_separated reads_parameterGroup accepts_parameterGroup rfl) ready
      (fun others _ => by rw [others.nextKind_token]; rfl) fun a others s' ready => ?_
    exact .expect ready fun _ others s' ready => .done ready

/-! ## Routines -/

/-- **A block is accepted.** -/
theorem accepts_block {inner : Recognizer Statement}
    (reads : Recognizes (.nested .statement) room inner)
    (each : Accepts (.nested .statement) room (· ≠ .semicolon) inner) (declared : List Declaration)
    (start : Option Position) : Accepts .block room (fun _ => true) (block inner declared start) := by
  intro items rule below w s _ ready _
  cases rule with
  | block =>
    refine .by_rule (.expectKeyword ready fun _ others s' ready => ?_)
    refine .part (accepts_statements reads each) ready
      (fun others _ => decide_eq_true (others.nextKind_word w)) fun a others s' ready => ?_
    exact .expectKeyword ready fun _ others s' ready => .done ready

section Bodies

variable {body : Recognizer Block}

/-- A procedure is accepted. -/
theorem accepts_procedure (each : Accepts (.nested .routineBody) room (fun _ => true) body)
    {below : Forest [.token (.kind .procedureKeyword), .token (.kind .identifier),
      .part .parameters, .token (.kind .semicolon), .part (.nested .routineBody),
      .token (.kind .semicolon)]} (ready : below.Ready w s) :
    FindsRow below room w (procedure body s) := by
  refine .advance ready fun _ others s' _ ready => .expect ready fun _ others s' ready => ?_
  refine .part accepts_parameters ready (fun others _ => by rw [others.nextKind_token]; rfl)
    fun a others s' ready => ?_
  refine .expect ready fun _ others s' ready => ?_
  refine .part each ready (fun _ _ => rfl) fun a others s' ready => ?_
  exact .expect ready fun _ others s' ready => .done ready

/-- A function is accepted. -/
theorem accepts_function (each : Accepts (.nested .routineBody) room (fun _ => true) body)
    {below : Forest [.token (.kind .functionKeyword), .token (.kind .identifier),
      .part .parameters, .token (.kind .colon), .token .typeName, .token (.kind .semicolon),
      .part (.nested .routineBody), .token (.kind .semicolon)]} (ready : below.Ready w s) :
    FindsRow below room w (function body s) := by
  refine .advance ready fun _ others s' _ ready => .expect ready fun _ others s' ready => ?_
  refine .part accepts_parameters ready (fun others _ => by rw [others.nextKind_token]; rfl)
    fun a others s' ready => ?_
  refine .expect ready fun _ others s' ready => .typeName ready fun _ others s' ready => ?_
  refine .expect ready fun _ others s' ready => ?_
  refine .part each ready (fun _ _ => rfl) fun a others s' ready => ?_
  exact .expect ready fun _ others s' ready => .done ready

/-- A declaration is accepted, if no name follows. -/
theorem accepts_declarationSection (each : Accepts (.nested .routineBody) room (fun _ => true) body) :
    AcceptsMore .declaration room (· ≠ .identifier) (declarationSection body) := by
  intro items rule below w s _ ready follow
  obtain ⟨s₁, run₁, holds₁⟩ := check_of_holds .varKeyword (by decide) ready.holds
  obtain ⟨s₂, run₂, holds₂⟩ := check_of_holds .procedureKeyword (by decide) holds₁
  obtain ⟨s₃, run₃, holds₃⟩ := check_of_holds .functionKeyword (by decide) holds₂
  cases rule with
  | variableSection =>
    rw [below.nextKind_token] at run₁
    rw [declarationSection, bind_of_ok run₁]
    have found : FindsRow below room w (variableSection s₁) :=
      accepts_variableSection ⟨ready.place, holds₁⟩ (of_decide_eq_true follow)
    exact Outcome.bind found (fun _ _ exceeds => exceeds.by_rule) fun a s' holds => ⟨rfl, holds⟩
  | procedure =>
    rw [below.nextKind_token] at run₁ run₂
    rw [declarationSection, bind_of_ok run₁]
    show Outcome _ _ ((check .procedureKeyword >>= _) s₁)
    rw [bind_of_ok run₂]
    have found : FindsRow below room w (procedure body s₂) :=
      accepts_procedure each ⟨ready.place, holds₂⟩
    exact Outcome.bind found (fun _ _ exceeds => exceeds.by_rule) fun a s' holds => ⟨rfl, holds⟩
  | function =>
    rw [below.nextKind_token] at run₁ run₂ run₃
    rw [declarationSection, bind_of_ok run₁]
    show Outcome _ _ ((check .procedureKeyword >>= _) s₁)
    rw [bind_of_ok run₂]
    show Outcome _ _ ((check .functionKeyword >>= _) s₂)
    rw [bind_of_ok run₃]
    have found : FindsRow below room w (function body s₃) :=
      accepts_function each ⟨ready.place, holds₃⟩
    exact Outcome.bind found (fun _ _ exceeds => exceeds.by_rule) fun a s' holds => ⟨rfl, holds⟩

/-- Declarations stop before a block. -/
theorem stops_declarationSection : StopsBefore (· = .beginKeyword) (declarationSection body) := by
  intro w s holds last
  obtain ⟨s₁, run₁, holds₁⟩ := check_of_holds .varKeyword (by decide) holds
  obtain ⟨s₂, run₂, holds₂⟩ := check_of_holds .procedureKeyword (by decide) holds₁
  obtain ⟨s₃, run₃, holds₃⟩ := check_of_holds .functionKeyword (by decide) holds₂
  rw [of_decide_eq_true last] at run₁ run₂ run₃
  refine ⟨s₃, ?_, holds₃⟩
  rw [declarationSection, bind_of_ok run₁]
  show ((check .procedureKeyword >>= _) s₁ : EStateM.Result _ _ _) = _
  rw [bind_of_ok run₂]
  show ((check .functionKeyword >>= _) s₂ : EStateM.Result _ _ _) = _
  rw [bind_of_ok run₃]
  rfl

/-- **Declarations are accepted** before a block. -/
theorem accepts_declarations (reads : Recognizes (.nested .routineBody) room body)
    (each : Accepts (.nested .routineBody) room (fun _ => true) body) :
    Accepts (.repeated .declaration) room (· = .beginKeyword) (declarations body) := by
  have listed : Accepts (.repeated .declaration) room (· = .beginKeyword)
      (manyOf (declarationSection body)) := by
    refine accepts_repeated [.varKeyword, .procedureKeyword, .functionKeyword]
      (reads_declarationSection reads) (accepts_declarationSection each) stops_declarationSection
      rfl (by decide) fun kind last => ?_
    rw [of_decide_eq_true last]
    rfl
  intro items rule below w s mayStand ready follow
  exact Outcome.bind (listed _ rule below w s mayStand ready follow) (fun _ _ => id)
    fun a s' holds => holds

end Bodies

/-- A block begins with `begin`. -/
theorem nextKind_block {rest : List Item} (others : Forest (.part .block :: rest)) :
    nextKind (others.tokens ++ w) = .beginKeyword :=
  List.mem_singleton.1 (others.nextKind_mem _ ⟨_, fun _ => id, rfl⟩ w)

/-- **The body of a routine is accepted** with any number of levels of nesting to
spare. -/
theorem accepts_routineBodyIn (room : Nat) :
    Accepts (.nested .routineBody) room (fun _ => true) (routineBodyIn room) := by
  induction room with
  | zero => exact accepts_nothing
  | succ room ih =>
    refine Accepts.nested ?_
    intro items rule below w s _ ready _
    cases rule with
    | routineBody =>
      refine .by_rule (.peek ready fun start s' _ ready => ?_)
      refine .part (accepts_declarations (reads_routineBodyIn room) ih) ready
        (fun others _ => decide_eq_true (nextKind_block others)) fun a others s' ready => ?_
      exact .single (accepts_block (reads_statementIn room) (accepts_statementIn room) _ _) ready rfl

/-! ## Programs -/

/-- **Programs are accepted** with nothing behind them, with any number of levels of nesting to
spare. -/
theorem accepts_programIn (room : Nat) :
    Accepts .program room (· = .endOfInput) (programIn room) := by
  intro items rule below w s _ ready follow
  cases rule with
  | program =>
    refine .by_rule (.peek ready fun start s' _ ready => ?_)
    refine .expectKeyword ready fun _ others s' ready => .expect ready fun _ others s' ready => ?_
    refine .expect ready fun _ others s' ready => ?_
    refine .part (accepts_declarations (reads_routineBodyIn room)
      (accepts_routineBodyIn room)) ready
      (fun others _ => decide_eq_true (nextKind_block others)) fun declared others s' ready => ?_
    refine .part (accepts_block (reads_statementIn room) (accepts_statementIn room) _ _)
      ready (fun _ _ => rfl) fun items others s' ready => ?_
    refine .expect ready fun _ others s' ready => ?_
    rw [bind_of_ok (since_run _ s')]
    cases others
    obtain ⟨t, s'', run, isKind, -, holds⟩ := peek_of_holds ready.holds
    have last : t.isEnd = true := decide_eq_true (isKind.trans (of_decide_eq_true follow))
    rw [atEnd, bind_assoc, bind_of_ok run, pure_bind, last]
    exact holds

end Recognizer

end PascalFront
