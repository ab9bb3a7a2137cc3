import PascalFront.Proofs.Grammar.First
import PascalFront.Proofs.Grammar.Reads
/-!
# Accepting what the grammar describes

A recognizer accepts a symbol if it takes the tokens of every derivation of the
symbol, whatever comes behind them, or reaches a limit that the derivation
exceeds (`Accepts`). What comes behind must be such that the recognizer does not
go on there: it is asked of the kind of the next token.

As in reading, a recognizer is gone through item by item of the rule that was
used: `FindsRow.expect` and `FindsRow.part` are the steps, and `Finds.by_rule` puts
the rule on top.
-/

namespace PascalFront

open Grammar TokenStream

/-- The kind of the first of some tokens, that of the end if there is none. -/
def nextKind (w : List Token) : Kind := (w.head?.map Token.kind).getD .endOfInput

namespace TokenStream

/-- **A stream holds tokens**: these are ahead, and the end of the input comes
behind them. -/
structure Holds (w : List Token) (s : TokenStream) : Prop where
  /-- The tokens are ahead. -/
  ahead : s.ahead = w
  /-- The end comes behind them. -/
  ending : ∃ t, s.ending = .ok t

variable {s s' : TokenStream} {t : Token} {u w : List Token}

/-- What a stream holds behind tokens that were taken. -/
theorem Holds.behind (h : Holds (u ++ w) s) (took : Takes u s s') : Holds w s' where
  ahead := List.append_cancel_left (took.ahead.symm.trans h.ahead)
  ending := took.ending ▸ h.ending

/-- The next token of what a stream holds. -/
theorem Holds.kind_of_upcoming (h : Holds w s) (shown : s.upcoming = .ok t) :
    t.kind = nextKind w := by
  rcases upcoming_eq_ok_iff.1 shown with ⟨more, front⟩ | ⟨front, last⟩
  · rw [← h.ahead, front]
    rfl
  · rw [← h.ahead, front]
    exact of_decide_eq_true (isEnd_of_ending last)

/-- There is a next token. -/
theorem Holds.upcoming_ne_error (h : Holds w s) (fault : Fault) :
    s.upcoming ≠ .error fault := by
  intro shown
  obtain ⟨t, last⟩ := h.ending
  exact absurd (last.symm.trans (upcoming_eq_error shown).2) (by simp)

end TokenStream

namespace Recognizer

variable {s : TokenStream} {t : Token} {w : List Token} {kind : Kind}

/-! ## Primitive recognizers -/

/-- A look at the next token of a stream shows it. -/
theorem peek_of_holds (h : Holds w s) :
    ∃ t s', peek s = .ok t s' ∧ t.kind = nextKind w ∧ (∀ t' ∈ w.head?, t' = t) ∧ Holds w s' := by
  have spec := peek_spec s
  cases run : peek s with
  | error fault s' =>
    rw [run] at spec
    exact absurd spec (h.upcoming_ne_error fault)
  | ok t s' =>
    rw [run] at spec
    refine ⟨t, s', rfl, h.kind_of_upcoming spec.shown, fun t' front => ?_,
      Holds.behind (u := []) h spec.toTakes⟩
    obtain ⟨more, split⟩ := List.head?_eq_some_iff.1 front
    have shown := upcoming_of_ahead (h.ahead.trans split)
    exact Except.ok.inj (shown.symm.trans spec.shown)

/-- A look at the next two tokens of a stream shows them. -/
theorem peek_two_of_holds {t' : Token} (h : Holds (t :: t' :: w) s) :
    ∃ s₁ s₂, peek s = .ok t s₁ ∧ peekAt 1 s₁ = .ok t' s₂ ∧ Holds (t :: t' :: w) s₂ := by
  have spec := peek_spec s
  obtain ⟨t₁, s₁, run, -, shown, -⟩ := peek_of_holds h
  obtain rfl : t = t₁ := shown t rfl
  rw [run] at spec
  have second := peekAt_one_spec spec (isEnd_of_mem_ahead (h.ahead ▸ List.mem_cons_self))
  refine ⟨s₁, ?_⟩
  cases run' : peekAt 1 s₁ with
  | error fault s₂ =>
    rw [run'] at second
    exact absurd (second.1.symm.trans h.ahead) (by simp)
  | ok t₂ s₂ =>
    rw [run'] at second
    obtain rfl : t₂ = t' := by
      rcases second.shown with ⟨more, front⟩ | ⟨front, -⟩
      · exact (List.cons.inj (List.cons.inj (front.symm.trans h.ahead)).2).1
      · exact absurd (front.symm.trans h.ahead) (by simp)
    refine ⟨s₂, run, rfl, ?_, second.ending ▸ h.ending⟩
    rw [← second.ahead, h.ahead]

/-- A kind is asked for. -/
theorem check_of_holds (kind : Kind) (notEnd : kind ≠ .endOfInput) (h : Holds w s) :
    ∃ s', check kind s = .ok (nextKind w = kind) s' ∧ Holds w s' := by
  obtain ⟨t, s', run, isKind, -, holds⟩ := peek_of_holds h
  refine ⟨s', ?_, holds⟩
  rw [check, bind_of_ok run]
  have same : (!t.isEnd && decide (t.kind = kind)) = decide (nextKind w = kind) := by
    rw [Token.isEnd, isKind]
    by_cases fits : nextKind w = kind
    · simp [fits, notEnd]
    · simp [fits]
  exact congrArg (EStateM.Result.ok · s') same

/-- The next token is taken. -/
theorem advance_of_holds (h : Holds (t :: w) s) :
    ∃ s', advance s = .ok t s' ∧ Holds w s' := by
  have spec := peek_spec s
  have shown := upcoming_of_ahead h.ahead
  cases run : peek s with
  | error fault s' =>
    rw [run] at spec
    exact absurd spec (h.upcoming_ne_error fault)
  | ok t' s' =>
    rw [run] at spec
    obtain rfl := Except.ok.inj (shown.symm.trans spec.shown)
    have notEnd := isEnd_of_mem_ahead (s := s) (h.ahead ▸ List.mem_cons_self)
    obtain ⟨others, waiting⟩ := spec.waiting
    obtain ⟨s'', run', takes⟩ := advance_of_peeked spec notEnd
    have again : peek s' = .ok t s' := peek_of_buffer waiting
    have same : advance s = advance s' := by
      rw [advance_run, advance_run, run, again]
    rw [same]
    exact ⟨s'', run', Holds.behind (u := [t]) h takes⟩

/-- A token that may be there is taken. -/
theorem accept_of_kind (isKind : t.kind = kind) (notEnd : kind ≠ .endOfInput)
    (h : Holds (t :: w) s) : ∃ s', accept kind s = .ok true s' ∧ Holds w s' := by
  obtain ⟨s', run, holds⟩ := check_of_holds kind notEnd h
  obtain ⟨s'', run', holds'⟩ := advance_of_holds holds
  have same : nextKind (t :: w) = kind := isKind
  refine ⟨s'', ?_, holds'⟩
  rw [accept, bind_of_ok run, if_pos (by simpa using same), bind_of_ok run']
  rfl

/-- Where a token may be of a kind and is of another, it stays. -/
theorem accept_of_other (other : nextKind w ≠ kind) (notEnd : kind ≠ .endOfInput)
    (h : Holds w s) : ∃ s', accept kind s = .ok false s' ∧ Holds w s' := by
  obtain ⟨s', run, holds⟩ := check_of_holds kind notEnd h
  refine ⟨s', ?_, holds⟩
  rw [accept, bind_of_ok run, if_neg (by simpa using other)]
  rfl

/-- A keyword is taken. -/
theorem expectKeyword_of_holds {word : String} (isKind : t.kind = kind)
    (spelled : Kind.lowered t.value.toList = word) (h : Holds (t :: w) s) :
    ∃ s', expectKeyword kind word s = .ok t s' ∧ Holds w s' := by
  obtain ⟨t', s', run, -, shown, holds⟩ := peek_of_holds h
  obtain rfl : t = t' := shown t rfl
  obtain ⟨s'', run', holds'⟩ := advance_of_holds holds
  refine ⟨s'', ?_, holds'⟩
  rw [expectKeyword, bind_of_ok run, if_pos ⟨isKind, spelled⟩, run']

/-- A token of a kind is taken. -/
theorem expect_of_holds (complaint : Complaint) (isKind : t.kind = kind)
    (notEnd : kind ≠ .endOfInput) (h : Holds (t :: w) s) :
    ∃ s', expect kind complaint s = .ok t s' ∧ Holds w s' := by
  obtain ⟨s', run, holds⟩ := check_of_holds kind notEnd h
  obtain ⟨s'', run', holds'⟩ := advance_of_holds holds
  have same : nextKind (t :: w) = kind := isKind
  refine ⟨s'', ?_, holds'⟩
  rw [expect, bind_of_ok run, if_pos (by simpa using same), run']

end Recognizer

namespace Grammar

/-- **A limit is exceeded** by something so deeply nested that denotes this, and
this is the fault that tells it. -/
inductive Exceeds {α : Type} (room depth : Nat) (value? : Option α) : Fault → Prop where
  /-- There are not enough levels of nesting. -/
  | nesting (deep : room < depth) (place : Option Span) :
      Exceeds room depth value? (.grammatical .nestingTooDeep place)
  /-- A number denotes nothing. -/
  | literal (large : value? = none) (place : Option Span) :
      Exceeds room depth value? (.grammatical .literalTooLarge place)

/-- What has a part that exceeds a limit exceeds it. -/
theorem Exceeds.mono {α β : Type} {room room' depth depth' : Nat} {value? : Option α}
    {value?' : Option β} {fault : Fault} (h : Exceeds room depth value? fault)
    (deeper : room < depth → room' < depth') (none_ : value? = none → value?' = none) :
    Exceeds room' depth' value?' fault := by
  cases h with
  | nesting deep place => exact .nesting (deeper deep) place
  | literal large place => exact .literal (none_ large) place

variable {symbol : Symbol} {items rest : List Item}

/-- A forest exceeds a limit that what is in front of it exceeds. -/
theorem Exceeds.of_part {rule : Rule symbol items} {below : Forest items} {others : Forest rest}
    {room : Nat} {fault : Fault}
    (h : Exceeds room (Derivation.mk rule below).depth (Derivation.mk rule below).value? fault) :
    Exceeds room (Forest.part rule below others).depth (Forest.part rule below others).values?
      fault := by
  refine h.mono (fun deep => Nat.lt_of_lt_of_le deep (Nat.le_max_left ..)) fun none_ => ?_
  have none_ : (below.values?.bind fun values => rule.denote values below.tokens) = none := none_
  rw [Forest.values?, none_]
  rfl

/-- A forest exceeds a limit that what comes behind its first token exceeds. -/
theorem Exceeds.behind_token {sort : Terminal} {t : Token} {fits : sort.Fits t}
    {others : Forest rest} {room : Nat} {fault : Fault}
    (h : Exceeds room others.depth others.values? fault) :
    Exceeds room (Forest.token t fits others).depth (Forest.token t fits others).values? fault := by
  refine h.mono id fun none_ => ?_
  rw [Forest.values?, none_]
  rfl

/-- A forest exceeds a limit that what comes behind its first symbol exceeds. -/
theorem Exceeds.behind_part {rule : Rule symbol items} {below : Forest items} {others : Forest rest}
    {room : Nat} {fault : Fault} (h : Exceeds room others.depth others.values? fault) :
    Exceeds room (Forest.part rule below others).depth (Forest.part rule below others).values?
      fault := by
  refine h.mono (fun deep => Nat.lt_of_lt_of_le deep (Nat.le_max_right ..)) fun none_ => ?_
  rw [Forest.values?, none_]
  cases below.values?.bind fun values => rule.denote values below.tokens <;> rfl

/-- A derivation exceeds a limit that what is below its rule exceeds. -/
theorem Exceeds.by_rule {rule : Rule symbol items} {below : Forest items} {room : Nat}
    {fault : Fault} (h : Exceeds room below.depth below.values? fault) :
    Exceeds room (Derivation.mk rule below).depth (Derivation.mk rule below).value? fault := by
  refine h.mono (fun deep => Nat.lt_of_lt_of_le deep (Nat.le_add_left ..)) fun none_ => ?_
  rw [Derivation.value?, none_]
  rfl

/-- **A forest stands in front** on a stream, each rule of it in place, and then
come the tokens `w`. -/
structure Forest.Ready (forest : Forest items) (w : List Token) (s : TokenStream) : Prop where
  /-- Each rule is in place and each `else` belongs to the nearest choice. -/
  place : forest.InPlace true w.head?
  /-- The stream holds the tokens. -/
  holds : Holds (forest.tokens ++ w) s

variable {s : TokenStream} {w : List Token}

/-- A symbol in front with the rest of the row behind it. -/
theorem Forest.Ready.part {rule : Rule symbol items} {below : Forest items} {others : Forest rest}
    (ready : (Forest.part rule below others).Ready w s) :
    rule.MayStand true (others.tokens ++ w).head? ∧ below.Ready (others.tokens ++ w) s ∧
      others.InPlace true w.head? := by
  obtain ⟨⟨mayStand, inner, place⟩, holds⟩ := ready
  have same : others.tokens.head?.or w.head? = (others.tokens ++ w).head? :=
    List.head?_append.symm
  rw [same] at mayStand inner
  rw [Forest.tokens, List.append_assoc] at holds
  exact ⟨mayStand, ⟨inner, holds⟩, place⟩

/-- The kind of the token that comes next, where the row begins with some kinds. -/
theorem Forest.nextKind_mem (forest : Forest items) (kinds : List Kind)
    (begins : BeginsWith kinds items) (w : List Token) : nextKind (forest.tokens ++ w) ∈ kinds := by
  obtain ⟨t, more, tokens, listed⟩ := forest.first begins
  rw [tokens]
  exact listed

/-- The kind of the token that comes next, where the row begins with a token of a
kind. -/
theorem Forest.nextKind_token {kind : Kind} {notEnd : kind ≠ .endOfInput}
    (forest : Forest (.token (.kind kind notEnd) :: rest)) (w : List Token) :
    nextKind (forest.tokens ++ w) = kind := by
  cases forest with
  | token t fits others => exact fits

/-- The kind of the token that comes next, where the row begins with a keyword. -/
theorem Forest.nextKind_word {entry : String × Kind} {listed : entry ∈ Kind.keywords}
    (forest : Forest (.token (.word entry listed) :: rest)) (w : List Token) :
    nextKind (forest.tokens ++ w) = entry.2 := by
  cases forest with
  | token t fits others => exact fits.1

end Grammar

namespace Recognizer

variable {α β : Type} {symbol : Symbol} {items rest : List Item} {room : Nat}
  {s s₁ s' : TokenStream} {w : List Token}

/-- **A row of items is found** as the forest has it, and then come the tokens
`w`; or a limit is reached. -/
def FindsRow (forest : Forest items) (room : Nat) (w : List Token)
    (result : EStateM.Result Fault TokenStream α) : Prop :=
  Outcome (fun _ s' => Holds w s')
    (fun fault _ => Exceeds room forest.depth forest.values? fault) result

/-- **A symbol is found** as the derivation has it, and then come the tokens
`w`; or a limit is reached. -/
def Finds (d : Grammar.Derivation symbol) (room : Nat) (w : List Token)
    (result : EStateM.Result Fault TokenStream α) : Prop :=
  Outcome (fun _ s' => Holds w s') (fun fault _ => Exceeds room d.depth d.value? fault) result

/-- **A recognizer accepts a symbol** before the kinds that may follow: it finds
every derivation of it. -/
def Accepts (symbol : Symbol) (room : Nat) (follows : Kind → Bool) (r : Recognizer α) : Prop :=
  ∀ (items : List Item) (rule : Rule symbol items) (below : Forest items) (w : List Token)
    (s : TokenStream), rule.MayStand true w.head? → below.Ready w s → follows (nextKind w) →
    Finds ⟨rule, below⟩ room w (r s)

/-! ## Step by step -/

/-- Behind the last item there is nothing to find. -/
theorem FindsRow.done {forest : Forest []} {a : α} (ready : forest.Ready w s) :
    FindsRow forest room w (.ok a s) := by
  cases forest
  exact ready.holds

/-- Behind a token the other items are found. -/
theorem FindsRow.cons_token {sort : Terminal} {t : Token} {fits : sort.Fits t}
    {others : Forest rest} {result : EStateM.Result Fault TokenStream α}
    (behind : FindsRow others room w result) :
    FindsRow (.token t fits others) room w result :=
  behind.mono (fun _ _ => id) fun _ _ exceeds => exceeds.behind_token

/-- Behind a symbol the other items are found. -/
theorem FindsRow.cons_part {rule : Rule symbol items} {below : Forest items} {others : Forest rest}
    {result : EStateM.Result Fault TokenStream α} (behind : FindsRow others room w result) :
    FindsRow (.part rule below others) room w result :=
  behind.mono (fun _ _ => id) fun _ _ exceeds => exceeds.behind_part

/-- A symbol is found, and then the other items of this forest. -/
theorem FindsRow.bind {rule : Rule symbol items} {below : Forest items} {others : Forest rest}
    {r : Recognizer β} {next : β → Recognizer α} (place : others.InPlace true w.head?)
    (first : Finds ⟨rule, below⟩ room (others.tokens ++ w) (r s))
    (behind : ∀ (a : β) s', others.Ready w s' → FindsRow others room w (next a s')) :
    FindsRow (.part rule below others) room w ((r >>= next) s) := by
  refine Outcome.bind first (fun _ _ exceeds => exceeds.of_part) ?_
  exact fun a s' holds => FindsRow.cons_part (behind a s' ⟨place, holds⟩)

/-- **A symbol is found**, and then the other items. -/
theorem FindsRow.part {r : Recognizer β} {next : β → Recognizer α} {follows : Kind → Bool}
    (accepts : Accepts symbol room follows r) {forest : Forest (.part symbol :: rest)}
    (ready : forest.Ready w s)
    (follow : ∀ others : Forest rest, others.InPlace true w.head? →
      follows (nextKind (others.tokens ++ w)))
    (behind : ∀ (a : β) (others : Forest rest) s', others.Ready w s' →
      FindsRow others room w (next a s')) :
    FindsRow forest room w ((r >>= next) s) := by
  cases forest with
  | part rule below others =>
    obtain ⟨mayStand, inner, place⟩ := ready.part
    exact .bind place (accepts _ rule below _ s mayStand inner (follow others place))
      fun a s' => behind a others s'

/-- A token of a kind is found, and then the other items. -/
theorem FindsRow.expect {kind : Kind} {notEnd : kind ≠ .endOfInput} {complaint : Complaint}
    {next : Token → Recognizer α} {forest : Forest (.token (.kind kind notEnd) :: rest)}
    (ready : forest.Ready w s)
    (behind : ∀ (t : Token) (others : Forest rest) s', others.Ready w s' →
      FindsRow others room w (next t s')) :
    FindsRow forest room w ((Recognizer.expect kind complaint >>= next) s) := by
  cases forest with
  | token t fits others =>
    obtain ⟨s', run, holds⟩ := expect_of_holds complaint fits notEnd ready.holds
    rw [bind_of_ok run]
    exact .cons_token (behind t others s' ⟨ready.place, holds⟩)

/-- A keyword is found, and then the other items. -/
theorem FindsRow.expectKeyword {kind : Kind} {word : String}
    {listed : (word, kind) ∈ Kind.keywords} {next : Token → Recognizer α}
    {forest : Forest (.token (.word (word, kind) listed) :: rest)} (ready : forest.Ready w s)
    (behind : ∀ (t : Token) (others : Forest rest) s', others.Ready w s' →
      FindsRow others room w (next t s')) :
    FindsRow forest room w ((Recognizer.expectKeyword kind word >>= next) s) := by
  cases forest with
  | token t fits others =>
    obtain ⟨s', run, holds⟩ := expectKeyword_of_holds fits.1 fits.2 ready.holds
    rw [bind_of_ok run]
    exact .cons_token (behind t others s' ⟨ready.place, holds⟩)

/-- A token is taken whatever it is, and then the other items are found. -/
theorem FindsRow.advance {sort : Terminal} {next : Token → Recognizer α}
    {forest : Forest (.token sort :: rest)} (ready : forest.Ready w s)
    (behind : ∀ (t : Token) (others : Forest rest) s', sort.Fits t → others.Ready w s' →
      FindsRow others room w (next t s')) :
    FindsRow forest room w ((Recognizer.advance >>= next) s) := by
  cases forest with
  | token t fits others =>
    obtain ⟨s', run, holds⟩ := advance_of_holds ready.holds
    rw [bind_of_ok run]
    exact .cons_token (behind t others s' fits ⟨ready.place, holds⟩)

/-- A token that may be there is found, and then the other items of this
forest. -/
theorem FindsRow.accept_token {kind : Kind} {notEnd : kind ≠ .endOfInput} {t : Token}
    {fits : Terminal.Fits (.kind kind notEnd) t} {others : Forest rest} {next : Bool → Recognizer α}
    (ready : (Forest.token t fits others).Ready w s)
    (behind : ∀ s', others.Ready w s' → FindsRow others room w (next true s')) :
    FindsRow (.token t fits others) room w ((Recognizer.accept kind >>= next) s) := by
  obtain ⟨s', run, holds⟩ := accept_of_kind fits notEnd ready.holds
  rw [bind_of_ok run]
  exact .cons_token (behind s' ⟨ready.place, holds⟩)

/-- A token that may be there is found, and then the other items. -/
theorem FindsRow.accept {kind : Kind} {notEnd : kind ≠ .endOfInput} {next : Bool → Recognizer α}
    {forest : Forest (.token (.kind kind notEnd) :: rest)} (ready : forest.Ready w s)
    (behind : ∀ (others : Forest rest) s', others.Ready w s' →
      FindsRow others room w (next true s')) :
    FindsRow forest room w ((Recognizer.accept kind >>= next) s) := by
  cases forest with
  | token t fits others => exact .accept_token ready (behind others)

/-- A token that may be there is not there, and the items are found. -/
theorem FindsRow.skip {kind : Kind} (notEnd : kind ≠ .endOfInput) {next : Bool → Recognizer α}
    {forest : Forest items} (ready : forest.Ready w s)
    (other : nextKind (forest.tokens ++ w) ≠ kind)
    (behind : ∀ s', forest.Ready w s' → FindsRow forest room w (next false s')) :
    FindsRow forest room w ((Recognizer.accept kind >>= next) s) := by
  obtain ⟨s', run, holds⟩ := accept_of_other other notEnd ready.holds
  rw [bind_of_ok run]
  exact behind s' ⟨ready.place, holds⟩

/-- A kind is asked for, and the items are found. -/
theorem FindsRow.check {kind : Kind} (notEnd : kind ≠ .endOfInput) {next : Bool → Recognizer α}
    {forest : Forest items} (ready : forest.Ready w s)
    (behind : ∀ s', forest.Ready w s' →
      FindsRow forest room w (next (nextKind (forest.tokens ++ w) = kind) s')) :
    FindsRow forest room w ((Recognizer.check kind >>= next) s) := by
  obtain ⟨s', run, holds⟩ := check_of_holds kind notEnd ready.holds
  rw [bind_of_ok run]
  exact behind s' ⟨ready.place, holds⟩

/-- The next token is looked at, and the items are found. -/
theorem FindsRow.peek {next : Token → Recognizer α} {forest : Forest items}
    (ready : forest.Ready w s)
    (behind : ∀ t s', t.kind = nextKind (forest.tokens ++ w) → forest.Ready w s' →
      FindsRow forest room w (next t s')) :
    FindsRow forest room w ((Recognizer.peek >>= next) s) := by
  obtain ⟨t, s', run, isKind, -, holds⟩ := peek_of_holds ready.holds
  rw [bind_of_ok run]
  exact behind t s' isKind ⟨ready.place, holds⟩

/-- A symbol alone is found. -/
theorem FindsRow.single {r : Recognizer α} {follows : Kind → Bool}
    (accepts : Accepts symbol room follows r) {forest : Forest [.part symbol]}
    (ready : forest.Ready w s) (follow : follows (nextKind w)) :
    FindsRow forest room w (r s) := by
  cases forest with
  | part rule below nothing =>
    cases nothing
    obtain ⟨mayStand, inner, -⟩ := ready.part
    exact (accepts _ rule below w s mayStand inner follow).mono (fun _ _ => id)
      fun _ _ exceeds => exceeds.of_part

/-- **A rule is put on top** of the items that were found. -/
theorem Finds.by_rule {rule : Rule symbol items} {forest : Forest items}
    {result : EStateM.Result Fault TokenStream α} (h : FindsRow forest room w result) :
    Finds ⟨rule, forest⟩ room w result :=
  h.mono (fun _ _ => id) fun _ _ exceeds => exceeds.by_rule

/-- **A level of nesting is opened** around a symbol that is accepted. -/
theorem Accepts.nested {follows : Kind → Bool} {r : Recognizer α}
    (accepts : Accepts symbol room follows r) :
    Accepts (.nested symbol) (room + 1) follows r := by
  intro items rule below w s mayStand ready follow
  cases rule with
  | nested =>
    cases below with
    | part rule below nothing =>
      cases nothing
      obtain ⟨mayStand, inner, -⟩ := ready.part
      refine (accepts _ rule below w s mayStand inner follow).mono (fun _ _ => id) ?_
      refine fun fault _ exceeds => exceeds.mono (fun deep => ?_) fun none_ => ?_
      · show room + 1 < 1 + max (symbol.levels + below.depth) 0
        have deep : room < symbol.levels + below.depth := deep
        omega
      · have none_ : (below.values?.bind fun values => rule.denote values below.tokens) = none := none_
        rw [Grammar.Derivation.value?, Forest.values?, none_]
        rfl

/-- Where no level of nesting is left a symbol with a level around it exceeds
that. -/
theorem accepts_nothing {follows : Kind → Bool} :
    Accepts (.nested symbol) 0 follows (reject (α := α) .nestingTooDeep) := by
  intro items rule below w s _ ready _
  obtain ⟨t, s', run, -, -, -⟩ := peek_of_holds ready.holds
  rw [reject, bind_of_ok run]
  exact Exceeds.nesting (Nat.lt_of_lt_of_le Nat.one_pos (Nat.le_add_right ..)) _

/-! ## Loops -/

/-- **A recognizer of one more of a symbol** finds every derivation of it. -/
def AcceptsMore (symbol : Symbol) (room : Nat) (follows : Kind → Bool)
    (item : Recognizer (Option α)) : Prop :=
  ∀ (items : List Item) (rule : Rule symbol items) (below : Forest items) (w : List Token)
    (s : TokenStream), rule.MayStand true w.head? → below.Ready w s → follows (nextKind w) →
    Outcome (fun found s' => found.isSome ∧ Holds w s')
      (fun fault _ => Exceeds room (Grammar.Derivation.mk rule below).depth
        (Grammar.Derivation.mk rule below).value? fault) (item s)

/-- A recognizer of one more of a symbol finds none before the kinds that may
come last. -/
def StopsBefore (last : Kind → Bool) (item : Recognizer (Option α)) : Prop :=
  ∀ (w : List Token) (s : TokenStream), Holds w s → last (nextKind w) →
    ∃ s', item s = .ok none s' ∧ Holds w s'

/-- What comes next before a repeated symbol: what the symbol begins with, or
what comes behind. -/
theorem nextKind_repeated {kinds : List Kind} (first : symbol.first? = some kinds)
    (forest : Forest [.part (.repeated symbol)]) (w : List Token) :
    nextKind (forest.tokens ++ w) ∈ kinds ∨ nextKind (forest.tokens ++ w) = nextKind w := by
  cases forest with
  | part rule below nothing =>
    cases nothing
    rw [Forest.tokens, Forest.tokens, List.append_nil]
    cases rule with
    | empty =>
      cases below
      exact .inr rfl
    | more => exact .inl (below.nextKind_mem kinds ⟨kinds, fun _ => id, first⟩ w)

/-- **A loop accepts a repeated symbol** if each round accepts one. -/
theorem accepts_repeated {item : Recognizer (Option symbol.Value)} {follows last : Kind → Bool}
    (kinds : List Kind) (reads : RecognizesMore symbol room item)
    (accepts : AcceptsMore symbol room follows item) (stops : StopsBefore last item)
    (first : symbol.first? = some kinds) (again : ∀ kind ∈ kinds, follows kind)
    (ends : ∀ kind, last kind → follows kind) :
    Accepts (.repeated symbol) room last (manyOf item) := by
  intro items rule below w s mayStand ready follow
  induction length : below.tokens.length using Nat.strongRecOn generalizing items s with
  | _ _ ih =>
    subst length
    rw [manyOf_eq reads.progress]
    cases rule with
    | empty =>
      cases below
      obtain ⟨s', run, holds⟩ := stops w s ready.holds follow
      rw [bind_of_ok run]
      exact holds
    | more =>
      cases below with
      | part rule below others =>
        have follow' : follows (nextKind (others.tokens ++ w)) := by
          rcases nextKind_repeated first others w with listed | same
          · exact again _ listed
          · exact same ▸ ends _ follow
        obtain ⟨mayStand, inner, place⟩ := ready.part
        have found := accepts _ rule below _ s mayStand inner follow'
        refine .by_rule (Outcome.bind found (fun _ _ exceeds => exceeds.of_part) ?_)
        rintro (_ | a) s' ⟨some_, holds⟩
        · exact absurd some_ (by simp)
        cases others with
        | part rule' below' nothing =>
          cases nothing
          have ready' : (Forest.part rule' below' .nil).Ready w s' := ⟨place, holds⟩
          obtain ⟨mayStand', inner', place'⟩ := ready'.part
          have filled := List.length_pos_iff.2
            ((Grammar.Derivation.mk rule below).tokens_ne_nil (by simp [first]))
          have fewer : below'.tokens.length
              < (Forest.part rule below (.part rule' below' .nil)).tokens.length := by
            simpa [Forest.tokens, Grammar.Derivation.tokens] using filled
          refine FindsRow.cons_part (.bind place' (ih _ fewer _ rule' below' s' mayStand' inner' rfl) ?_)
          exact fun others s'' ready => .done ready

/-- **Items with separators are accepted** if each item is. -/
theorem accepts_separated {separator : Kind} {notEnd : separator ≠ .endOfInput}
    {item : Recognizer symbol.Value} {follows : Kind → Bool}
    (reads : Recognizes symbol room item) (accepts : Accepts symbol room follows item)
    (more : follows separator) :
    Accepts (.separated (.kind separator notEnd) symbol) room
      (fun kind => follows kind && kind ≠ separator) (separated separator item) := by
  have progress (s : TokenStream) (a : symbol.Value) (s' : TokenStream) (run : item s = .ok a s') :
      s'.ahead.length ≤ s.ahead.length := (reads s).length_le run
  intro items rule below w s mayStand ready follow
  have follow_ := Bool.and_eq_true_iff.1 follow
  induction length : below.tokens.length using Nat.strongRecOn generalizing items s with
  | _ _ ih =>
    subst length
    rw [separated_eq progress]
    cases rule with
    | single =>
      refine .by_rule (.part accepts ready (fun others _ => ?_) fun a others s' ready => ?_)
      · cases others
        exact follow_.1
      · refine .skip notEnd ready ?_ fun s'' ready => .done ready
        cases others
        exact of_decide_eq_true follow_.2
    | further =>
      cases below with
      | part rule below others =>
        obtain ⟨mayStand, inner, place⟩ := ready.part
        have front := (others.nextKind_token w).symm ▸ more
        refine .by_rule (.bind place (accepts _ rule below _ s mayStand inner front) ?_)
        intro a s' ready
        cases others with
        | token t fits others =>
          cases others with
          | part rule' below' nothing =>
            cases nothing
            refine .accept_token ready fun s'' ready' => ?_
            obtain ⟨mayStand', inner', place'⟩ := ready'.part
            have fewer : below'.tokens.length
                < (Forest.part rule below (.token t fits (.part rule' below' .nil))).tokens.length := by
              simp only [Forest.tokens, List.append_nil, List.length_append, List.length_cons]
              omega
            refine .bind place' (ih _ fewer _ rule' below' s'' mayStand' inner' rfl) ?_
            exact fun others s₂ ready => .done ready

end Recognizer

end PascalFront
