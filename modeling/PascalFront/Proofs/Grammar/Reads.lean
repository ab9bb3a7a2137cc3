import PascalFront.Proofs.Grammar.Derivation
import PascalFront.Proofs.Grammar.Levels
/-!
# Reading what the grammar describes

A recognizer reads a symbol if it takes the tokens of a derivation and yields
what this derivation denotes, and if it stops with a fault only behind tokens
that are a start of the symbol (`Reads`). It reads a row of items in the same
way (`ReadsRow`).

A recognizer for a symbol is gone through item by item of the rule it follows:
`ReadsRow.token` and `ReadsRow.part` are the steps, `Reads.by_rule` puts the rule
on top. Loops read repeated and separated symbols if their items read one
(`reads_repeated`, `reads_separated`).
-/

namespace PascalFront

open Grammar TokenStream

namespace Grammar

/-- **What a forest yields** with so many levels of nesting to spare and before
some token. -/
structure Forest.Yields {items : List Item} (forest : Forest items) (room : Nat)
    (next : Option Token) (values : Values items) : Prop where
  /-- The items denote something. -/
  value : forest.values? = some values
  /-- There are enough levels. -/
  depth : forest.depth ≤ room
  /-- Each rule is in place and each `else` belongs to the nearest choice. -/
  place : forest.InPlace true next

/-- **What a derivation yields** with so many levels of nesting to spare and before
some token. -/
structure Derivation.Yields {symbol : Symbol} (d : Derivation symbol) (room : Nat)
    (next : Option Token) (value : symbol.Value) : Prop where
  /-- The symbol denotes something. -/
  value : d.value? = some value
  /-- There are enough levels. -/
  depth : d.depth ≤ room
  /-- Each rule is in place and each `else` belongs to the nearest choice. -/
  place : d.InPlace true next

variable {symbol : Symbol} {items rest : List Item} {room : Nat} {next : Option Token}

/-- What a derivation yields it yields in place. -/
theorem Derivation.Yields.loose {d : Derivation symbol} {a : symbol.Value}
    (h : d.Yields room next a) : d.InPlace false next :=
  ⟨⟨h.place.1.1, fun no => absurd no (by decide)⟩, h.place.2.loose⟩

/-- A token in front of a forest. -/
theorem Forest.Yields.token {sort : Terminal} {t : Token} (fits : sort.Fits t)
    {others : Forest rest} {values : Values rest} (h : others.Yields room next values) :
    Forest.Yields (.token t fits others) room next (t, values) where
  value := by rw [Forest.values?, h.value]; rfl
  depth := h.depth
  place := h.place

/-- A derivation in front of a forest. -/
theorem Forest.Yields.cons {d : Derivation symbol} {a : symbol.Value} {others : Forest rest}
    {values : Values rest} (first : d.Yields room (others.tokens.head?.or next) a)
    (h : others.Yields room next values) :
    Forest.Yields (.cons d others) room next (a, values) where
  value := by
    have := first.value
    rw [Derivation.value?, Derivation.tokens] at this
    rw [Forest.cons, Forest.values?, this, h.value]
    rfl
  depth := Nat.max_le.2 ⟨first.depth, h.depth⟩
  place := ⟨first.place.1, first.place.2, h.place⟩

/-- A rule above a forest. -/
theorem Forest.Yields.by_rule {forest : Forest items} {values : Values items} {a : symbol.Value}
    (h : forest.Yields room next values) (rule : Rule symbol items)
    (denotes : rule.denote values forest.tokens = some a) (mayStand : rule.MayStand true next) :
    Derivation.Yields ⟨rule, forest⟩ (symbol.levels + room) next a where
  value := by
    show forest.values?.bind _ = _
    rw [h.value]
    exact denotes
  depth := Nat.add_le_add_left h.depth _
  place := ⟨mayStand, h.place⟩

end Grammar

namespace Recognizer

variable {α β : Type} {symbol : Symbol} {items rest : List Item} {room : Nat}
  {s s₁ s' : TokenStream}

/-- **A row of items is read.** `Ok` is what is known of the values of the items,
their tokens, the result and the state behind them. -/
def ReadsRow (items : List Item) (room : Nat)
    (Ok : Values items → List Token → α → TokenStream → Prop) (s : TokenStream)
    (result : EStateM.Result Fault TokenStream α) : Prop :=
  Outcome
    (fun a s' => ∃ (forest : Forest items) (values : Values items), Takes forest.tokens s s' ∧
      forest.Yields room s'.ahead.head? values ∧ Ok values forest.tokens a s')
    (fun fault s' => Stopped (Starts items) s s' fault) result

/-- **A symbol is read.** `Ok` is what is known of what the symbol denotes, the
result and the state behind it. -/
def Reads (symbol : Symbol) (room : Nat) (Ok : symbol.Value → α → TokenStream → Prop)
    (s : TokenStream) (result : EStateM.Result Fault TokenStream α) : Prop :=
  Outcome
    (fun a s' => ∃ (d : Grammar.Derivation symbol) (b : symbol.Value), Takes d.tokens s s' ∧
      d.Yields room s'.ahead.head? b ∧ Ok b a s')
    (fun fault s' => Stopped (Starts [.part symbol]) s s' fault) result

/-- What is read with some levels of nesting to spare is read with more of them. -/
theorem Reads.widen {Ok : symbol.Value → α → TokenStream → Prop} {more : Nat}
    {result : EStateM.Result Fault TokenStream α} (h : Reads symbol room Ok s result)
    (le : room ≤ more) : Reads symbol more Ok s result := by
  refine Outcome.mono h ?_ fun _ _ => id
  rintro a s' ⟨d, b, took, yields, ok⟩
  exact ⟨d, b, took, ⟨yields.value, Nat.le_trans yields.depth le, yields.place⟩, ok⟩

/-- **A recognizer of a symbol** reads it from every stream and yields what it
denotes. -/
def Recognizes (symbol : Symbol) (room : Nat) (r : Recognizer symbol.Value) : Prop :=
  ∀ s, Reads symbol room (fun b a _ => a = b) s (r s)

/-! ## Step by step -/

/-- Behind the last item there is nothing to read. -/
theorem ReadsRow.done {Ok : Values [] → List Token → α → TokenStream → Prop} {a : α}
    (h : Ok () [] a s) : ReadsRow [] room Ok s (.ok a s) :=
  ⟨.nil, (), .refl s, ⟨rfl, Nat.zero_le _, trivial⟩, h⟩

/-- Behind a token that was taken the other items are read. -/
theorem ReadsRow.cons_token {sort : Terminal} {t : Token}
    {Ok : Values (.token sort :: rest) → List Token → α → TokenStream → Prop}
    {result : EStateM.Result Fault TokenStream α} (fits : sort.Fits t) (took : Takes [t] s s')
    (behind : ReadsRow rest room (fun values tokens => Ok (t, values) (t :: tokens)) s' result) :
    ReadsRow (.token sort :: rest) room Ok s result := by
  refine Outcome.mono behind ?_ ?_
  · rintro a s'' ⟨forest, values, takes, yields, ok⟩
    exact ⟨.token t fits forest, (t, values), took.trans takes, yields.token fits, ok⟩
  · intro fault s'' stopped
    exact stopped.behind took fun u _ starts => .token fits starts

/-- **A token is read**, and then the other items. -/
theorem ReadsRow.token {sort : Terminal} {r : Recognizer Token} {next : Token → Recognizer α}
    {Ok : Values (.token sort :: rest) → List Token → α → TokenStream → Prop}
    (first : Outcome (fun t s' => sort.Fits t ∧ Takes [t] s s')
      (fun fault s' => Stopped (· = []) s s' fault) (r s₁))
    (behind : ∀ t s', sort.Fits t → Takes [t] s s' →
      ReadsRow rest room (fun values tokens => Ok (t, values) (t :: tokens)) s' (next t s')) :
    ReadsRow (.token sort :: rest) room Ok s ((r >>= next) s₁) := by
  refine first.bind (fun fault s' stopped => stopped.mono ?_) ?_
  · rintro u rfl
    exact starts_nil _
  · rintro t s' ⟨fits, took⟩
    exact ReadsRow.cons_token fits took (behind t s' fits took)

/-- A token that has been looked at is taken, and then the other items are
read. -/
theorem ReadsRow.advance {sort : Terminal} {t : Token} {next : Token → Recognizer α}
    {Ok : Values (.token sort :: rest) → List Token → α → TokenStream → Prop}
    (peeked : Peeked t s s₁) (fits : sort.Fits t)
    (behind : ∀ s', Takes [t] s s' →
      ReadsRow rest room (fun values tokens => Ok (t, values) (t :: tokens)) s' (next t s')) :
    ReadsRow (.token sort :: rest) room Ok s ((Recognizer.advance >>= next) s₁) := by
  obtain ⟨s', run, took⟩ := advance_of_peeked peeked fits.notEnd
  rw [bind_of_ok run]
  exact .cons_token fits took (behind s' took)

/-- A token of a kind is read, and then the other items. -/
theorem ReadsRow.expect {kind : Kind} {notEnd : kind ≠ .endOfInput} {complaint : Complaint}
    {next : Token → Recognizer α}
    {Ok : Values (.token (.kind kind notEnd) :: rest) → List Token → α → TokenStream → Prop}
    (behind : ∀ t s', t.kind = kind → Takes [t] s s' →
      ReadsRow rest room (fun values tokens => Ok (t, values) (t :: tokens)) s' (next t s')) :
    ReadsRow (.token (.kind kind notEnd) :: rest) room Ok s
      ((Recognizer.expect kind complaint >>= next) s) :=
  .token ((expect_spec (W := (· = [])) rfl kind complaint s).mono
    (fun _ _ h => ⟨h.1, h.2.2⟩) fun _ _ => id) behind

/-- A keyword is read, and then the other items. -/
theorem ReadsRow.expectKeyword {kind : Kind} {word : String} {listed : (word, kind) ∈ Kind.keywords}
    {next : Token → Recognizer α}
    {Ok : Values (.token (.word (word, kind) listed) :: rest) → List Token → α → TokenStream → Prop}
    (notEnd : kind ≠ .endOfInput)
    (behind : ∀ t s', Takes [t] s s' →
      ReadsRow rest room (fun values tokens => Ok (t, values) (t :: tokens)) s' (next t s')) :
    ReadsRow (.token (.word (word, kind) listed) :: rest) room Ok s
      ((Recognizer.expectKeyword kind word >>= next) s) :=
  .token (expectKeyword_spec (W := (· = [])) rfl notEnd word s) fun t s' _ => behind t s'

/-- Behind a symbol that was read the other items are read. -/
theorem ReadsRow.cons_part {d : Grammar.Derivation symbol} {b : symbol.Value}
    {Ok : Values (.part symbol :: rest) → List Token → α → TokenStream → Prop}
    {result : EStateM.Result Fault TokenStream α} (took : Takes d.tokens s s')
    (yields : d.Yields room s'.ahead.head? b)
    (behind : ReadsRow rest room (fun values tokens => Ok (b, values) (d.tokens ++ tokens)) s'
      result) :
    ReadsRow (.part symbol :: rest) room Ok s result := by
  refine Outcome.mono behind ?_ ?_
  · rintro c s'' ⟨forest, values, takes, others, ok⟩
    refine ⟨.cons d forest, (b, values), took.trans takes, .cons ?_ others, ok⟩
    rwa [takes.ahead, List.head?_append] at yields
  · intro fault s'' stopped
    exact stopped.behind took fun u front starts => .behind yields.loose front starts

/-- **A symbol is read**, and then the other items. -/
theorem ReadsRow.part {r : Recognizer β} {next : β → Recognizer α}
    {Ok₁ : symbol.Value → β → TokenStream → Prop}
    {Ok : Values (.part symbol :: rest) → List Token → α → TokenStream → Prop}
    (first : Reads symbol room Ok₁ s (r s₁))
    (behind : ∀ (d : Grammar.Derivation symbol) (b : symbol.Value) (a : β) s', Takes d.tokens s s' →
      Ok₁ b a s' →
      ReadsRow rest room (fun values tokens => Ok (b, values) (d.tokens ++ tokens)) s' (next a s')) :
    ReadsRow (.part symbol :: rest) room Ok s ((r >>= next) s₁) := by
  refine first.bind (fun fault s' stopped => stopped.mono fun u starts => ?_) ?_
  · exact starts.append (starts_nil rest)
  · rintro a s' ⟨d, b, took, yields, ok⟩
    exact ReadsRow.cons_part took yields (behind d b a s' took ok)

/-- A rule is put on top of the items that were read, if it may be used before
what comes then. -/
theorem Reads.by_rule_before (rule : Rule symbol items) {Ok : symbol.Value → α → TokenStream → Prop}
    {result : EStateM.Result Fault TokenStream α} (allowed : rule.Allowed none)
    (levels : symbol.levels = 0)
    (h : ReadsRow items room (fun values tokens a s' => rule.MayStand true s'.ahead.head? ∧
      ∃ b, rule.denote values tokens = some b ∧ Ok b a s') s result) :
    Reads symbol room Ok s result := by
  refine Outcome.mono h ?_ ?_
  · rintro a s' ⟨forest, values, takes, yields, mayStand, b, denotes, ok⟩
    have := yields.by_rule rule denotes mayStand
    rw [levels, Nat.zero_add] at this
    exact ⟨⟨rule, forest⟩, b, takes, this, ok⟩
  · intro fault s' stopped
    exact stopped.mono fun u starts => .rule rule allowed starts

/-- **A plain rule is put on top** of the items that were read. -/
theorem Reads.by_rule (rule : Rule symbol items) (plain : rule.isPlain = true)
    {Ok : symbol.Value → α → TokenStream → Prop} {result : EStateM.Result Fault TokenStream α}
    (h : ReadsRow items room (fun values tokens a s' =>
      ∃ b, rule.denote values tokens = some b ∧ Ok b a s') s result) :
    Reads symbol room Ok s result := by
  obtain ⟨anywhere, levels⟩ := rule.plain plain
  refine .by_rule_before rule (anywhere none).1 levels (Outcome.mono h ?_ fun _ _ => id)
  rintro a s' ⟨forest, values, takes, yields, denotes⟩
  exact ⟨forest, values, takes, yields, anywhere _, denotes⟩

/-- **A level of nesting is opened** around a symbol that is read. -/
theorem Reads.nested {Ok : symbol.Value → α → TokenStream → Prop}
    {result : EStateM.Result Fault TokenStream α} (h : Reads symbol room Ok s result) :
    Reads (.nested symbol) (room + 1) Ok s result := by
  refine Outcome.mono h ?_ ?_
  · rintro a s' ⟨d, b, takes, yields, ok⟩
    have inner : Forest.Yields (.cons d .nil) room s'.ahead.head? (b, ()) :=
      .cons yields ⟨rfl, Nat.zero_le _, trivial⟩
    have := inner.by_rule (.nested symbol) rfl ⟨trivial, fun _ => trivial⟩
    rw [show symbol.nested.levels = 1 from rfl, Nat.add_comm] at this
    refine ⟨⟨.nested symbol, .cons d .nil⟩, b, ?_, this, ok⟩
    show Takes (d.tokens ++ []) s s'
    rwa [List.append_nil]
  · intro fault s' stopped
    exact stopped.mono fun u starts => .rule (.nested symbol) trivial starts

/-- A symbol that is read is a row of its own. -/
theorem Reads.row {Ok : symbol.Value → α → TokenStream → Prop}
    {result : EStateM.Result Fault TokenStream α} (h : Reads symbol room Ok s result) :
    ReadsRow [.part symbol] room (fun values _ a s' => Ok values.1 a s') s result := by
  refine Outcome.mono h ?_ fun _ _ => id
  rintro a s' ⟨d, b, takes, yields, ok⟩
  refine ⟨.cons d .nil, (b, ()), ?_, .cons yields ⟨rfl, Nat.zero_le _, trivial⟩, ok⟩
  show Takes (d.tokens ++ []) s s'
  rwa [List.append_nil]

/-- **One step and then a symbol.** -/
theorem Reads.bind {r : Recognizer β} {next : β → Recognizer α}
    {Ok : symbol.Value → α → TokenStream → Prop} {Mid : β → TokenStream → Prop}
    {W : List Token → Prop}
    (first : Outcome Mid (fun fault s' => Stopped W s s' fault) (r s₁))
    (starts : ∀ u, W u → Starts [.part symbol] u)
    (behind : ∀ b s', Mid b s' → Reads symbol room Ok s (next b s')) :
    Reads symbol room Ok s ((r >>= next) s₁) :=
  Outcome.bind first (fun _ _ stopped => stopped.mono starts) behind

/-- **A look at the next token and then a symbol.** -/
theorem Reads.look {r : Recognizer β} {next : β → Recognizer α}
    {Ok : symbol.Value → α → TokenStream → Prop} {Mid : β → TokenStream → Prop}
    (first : Outcome Mid (fun fault _ => s.upcoming = .error fault) (r s))
    (behind : ∀ b s', Mid b s' → Reads symbol room Ok s (next b s')) :
    Reads symbol room Ok s ((r >>= next) s) :=
  Outcome.bind first (fun _ _ shown => .of_upcoming shown (starts_nil _)) behind

/-- What is read from a state is read from one with the same view. -/
theorem Reads.of_takes {Ok : symbol.Value → α → TokenStream → Prop}
    {result : EStateM.Result Fault TokenStream α} (same : Takes [] s s₁)
    (h : Reads symbol room Ok s₁ result) : Reads symbol room Ok s result := by
  refine Outcome.mono h ?_ ?_
  · rintro a s' ⟨d, b, takes, yields, ok⟩
    exact ⟨d, b, same.trans takes, yields, ok⟩
  · intro fault s' stopped
    exact stopped.behind same fun u _ starts => starts

/-- Where the next token is refused nothing has been read yet. -/
theorem Reads.rejected {Ok : symbol.Value → α → TokenStream → Prop} (complaint : Complaint)
    (same : Takes [] s s₁) : Reads symbol room Ok s (reject complaint s₁) :=
  (reject_spec (W := Starts [.part symbol]) complaint s₁ (starts_nil _)).mono (fun _ _ => id)
    fun _ _ stopped => stopped.behind same fun _ _ => id

/-- What is known of the result can be weakened. -/
theorem Reads.mono {Ok Ok' : symbol.Value → α → TokenStream → Prop}
    {result : EStateM.Result Fault TokenStream α} (h : Reads symbol room Ok s result)
    (weaker : ∀ b a s', Ok b a s' → Ok' b a s') : Reads symbol room Ok' s result := by
  refine Outcome.mono h ?_ fun _ _ => id
  rintro a s' ⟨d, b, takes, yields, ok⟩
  exact ⟨d, b, takes, yields, weaker b a s' ok⟩

/-- The span from the first token that was taken to the last. -/
theorem since_of_takes {t : Token} {tokens : List Token} (h : Takes (t :: tokens) s s') :
    since t.startPosition s' = .ok (spanOver (t :: tokens)) s' := by
  rw [since_run, h.previous, spanOver]
  cases last : (t :: tokens).getLast? with
  | none => simp at last
  | some t => rfl

/-- What a recognizer of a symbol leaves is no more than there was. -/
theorem Reads.length_le {Ok : symbol.Value → α → TokenStream → Prop} {a : α} {r : Recognizer α}
    (h : Reads symbol room Ok s (r s)) (run : r s = .ok a s') :
    s'.ahead.length ≤ s.ahead.length := by
  rw [run] at h
  obtain ⟨d, b, takes, -⟩ := h
  exact takes.length_le

/-! ## Loops -/

/-- **A recognizer of one more of a symbol** finds that there is none and takes
nothing, or reads one, which has tokens. -/
def RecognizesMore (symbol : Symbol) (room : Nat) (item : Recognizer (Option symbol.Value)) :
    Prop :=
  ∀ s, Outcome
    (fun found s' =>
      (found = none ∧ Takes [] s s') ∨
      ∃ (d : Grammar.Derivation symbol) (b : symbol.Value), found = some b ∧ Takes d.tokens s s' ∧
        d.Yields room s'.ahead.head? b ∧ d.tokens ≠ [])
    (fun fault s' => Stopped (Starts [.part symbol]) s s' fault) (item s)

/-- One more item leaves fewer tokens. -/
theorem RecognizesMore.progress {item : Recognizer (Option symbol.Value)}
    (each : RecognizesMore symbol room item) (s : TokenStream) (a : symbol.Value)
    (s' : TokenStream) (run : item s = .ok (some a) s') : s'.ahead.length < s.ahead.length := by
  have := each s
  rw [run] at this
  rcases this with ⟨nothing, -⟩ | ⟨d, b, -, takes, -, some_⟩
  · exact absurd nothing (by simp)
  · exact takes.length_lt some_

/-- **A loop reads a repeated symbol** if each round reads one. -/
theorem reads_repeated {item : Recognizer (Option symbol.Value)}
    (each : RecognizesMore symbol room item) : Recognizes (.repeated symbol) room (manyOf item) := by
  intro s
  induction length : s.ahead.length using Nat.strongRecOn generalizing s with
  | _ _ ih =>
    subst length
    rw [manyOf_eq each.progress]
    refine Reads.bind (each s) (fun u starts => ?_) ?_
    · exact .rule (.more symbol) trivial (starts.append (starts_nil _))
    · rintro found s' (⟨rfl, takes⟩ | ⟨d, b, rfl, takes, yields, some_⟩)
      · refine .of_takes takes (.by_rule (.empty symbol) rfl ?_)
        exact .done ⟨[], rfl, rfl⟩
      · refine .by_rule (.more symbol) rfl ?_
        refine .cons_part takes yields ?_
        refine .part (ih _ (takes.length_lt some_) s' rfl) ?_
        rintro d' others _ s'' - rfl
        exact .done ⟨_, rfl, rfl⟩

/-- **Items with separators** are a separated symbol if each item is one. -/
theorem reads_separated {separator : Kind} (notEnd : separator ≠ .endOfInput)
    {item : Recognizer symbol.Value} (each : Recognizes symbol room item) :
    Recognizes (.separated (.kind separator notEnd) symbol) room (separated separator item) := by
  have progress (s : TokenStream) (a : symbol.Value) (s' : TokenStream) (run : item s = .ok a s') :
      s'.ahead.length ≤ s.ahead.length := (each s).length_le run
  intro s
  induction length : s.ahead.length using Nat.strongRecOn generalizing s with
  | _ _ ih =>
    subst length
    rw [separated_eq progress]
    refine Reads.bind (each s) (fun u starts => ?_) ?_
    · exact .rule (.single _ symbol) trivial (starts.append (starts_nil _))
    · rintro a s' ⟨d, _, took, yields, rfl⟩
      refine Outcome.bind (accept_spec separator s') (fun fault s'' shown => ?_) ?_
      · refine Stopped.behind took (.of_upcoming shown (W := (· = [])) rfl) ?_
        rintro u front rfl
        exact .rule (.single _ symbol) trivial (.behind yields.loose front (starts_nil _))
      · rintro yes s'' (⟨rfl, t, isSeparator, notEnd', takes⟩ | ⟨rfl, t, peeked, -⟩)
        · refine Reads.by_rule (.further _ symbol) rfl ?_
          refine .cons_part took yields (.cons_token isSeparator takes ?_)
          have fewer := Nat.lt_of_lt_of_le (takes.length_lt (by simp)) took.length_le
          refine .part (ih _ fewer s'' rfl) ?_
          rintro d' others _ s₂ - rfl
          exact .done ⟨_, rfl, rfl⟩
        · refine Reads.by_rule (.single _ symbol) rfl ?_
          have yields' : d.Yields room s''.ahead.head? a := by
            rwa [peeked.ahead] at yields
          have took' : Takes (d.tokens ++ []) s s'' := took.trans peeked.toTakes
          rw [List.append_nil] at took'
          exact .cons_part took' yields' (.done ⟨_, rfl, rfl⟩)

end Recognizer

end PascalFront
