import PascalFront.Grammar.Expression
import PascalFront.Proofs.Grammar.Reads
/-!
# Expressions are read

The recognizer of expressions goes through operators in a loop. The invariant of
the loop is a rank (`reads_climb`): what has been read so far is an expression
of the level of the operator read last, and no tighter operator comes next,
since the right operand would have taken it. So the next operator is not tighter
than the last one and can have all that was read as its left operand, unless
both are comparisons.
-/

namespace PascalFront

open Grammar TokenStream

/-! ## Ranks -/

namespace Kind

/-- The ranks of operators. -/
theorem rank?_bounds {kind : Kind} {rank : Nat} (h : kind.rank? = some rank) :
    1 ≤ rank ∧ rank ≤ 3 := by
  unfold rank? at h
  split at h
  · obtain rfl := Option.some.inj h
    omega
  · split at h
    · obtain rfl := Option.some.inj h
      omega
    · split at h
      · obtain rfl := Option.some.inj h
        omega
      · exact absurd h (by simp)

/-- Comparisons are the operators of the first rank. -/
theorem isComparison_iff {kind : Kind} {rank : Nat} (h : kind.rank? = some rank) :
    kind.isComparison = true ↔ rank = 1 := by
  unfold rank? at h
  split at h
  · rename_i comparison
    obtain rfl := Option.some.inj h
    exact iff_of_true comparison rfl
  · rename_i other
    refine iff_of_false other ?_
    split at h
    · obtain rfl := Option.some.inj h
      decide
    · split at h
      · obtain rfl := Option.some.inj h
        decide
      · exact absurd h (by simp)

end Kind

namespace Grammar

variable {rank least room : Nat} {next : Option Token} {u : List Token}

/-- **An expression of a level is one of each looser level.** -/
theorem exists_looser (looser : least ≤ rank) (isRank : rank ≤ 4) (d : Derivation (.level rank)) :
    ∃ d' : Derivation (.level least), d'.tokens = d.tokens ∧
      ∀ room next e, d.Yields room next e → d'.Yields room next e := by
  obtain ⟨distance, far⟩ := Nat.exists_eq_add_of_le looser
  induction distance generalizing least with
  | zero =>
    obtain rfl : rank = least := far
    exact ⟨d, rfl, fun _ _ _ => id⟩
  | succ distance ih =>
    obtain ⟨d', tokens, yields⟩ := ih (by omega : least + 1 ≤ rank) (by omega)
    have low : least < 4 := by omega
    have tokens' : (Derivation.mk (.tighter low) (.cons d' .nil)).tokens = d'.tokens :=
      List.append_nil _
    refine ⟨⟨.tighter low, .cons d' .nil⟩, tokens'.trans tokens, fun room next e h => ?_⟩
    have row : Forest.Yields (.cons d' .nil) room next (e, ()) :=
      .cons (yields room next e h) ⟨rfl, Nat.zero_le _, trivial⟩
    have := row.by_rule (.tighter low) rfl ⟨trivial, fun _ => trivial⟩
    rwa [show (Symbol.level least).levels = 0 from rfl, Nat.zero_add] at this

/-- A start of an expression of a level is one of each looser level. -/
theorem Starts.looser (looser : least ≤ rank) (isRank : rank ≤ 4)
    (h : Starts [.part (.level rank)] u) : Starts [.part (.level least)] u := by
  obtain ⟨distance, far⟩ := Nat.exists_eq_add_of_le looser
  induction distance generalizing least with
  | zero =>
    obtain rfl : rank = least := far
    exact h
  | succ distance ih =>
    have low : least < 4 := by omega
    exact .rule (.tighter low) trivial (ih (by omega : least + 1 ≤ rank) (by omega))

end Grammar

namespace Recognizer

variable {room : Nat} {s s₀ s₁ s' : TokenStream}

/-- **No operator of a rank or tighter comes next.** -/
def Stops (rank : Nat) (s : TokenStream) : Prop :=
  ∀ t, s.upcoming = .ok t → ∀ k, t.kind.rank? = some k → k < rank

/-- **Recognizers of expressions**: one for each rank, which reads an expression of
that level and takes all operators that it can. -/
def RecognizesExpressions (room : Nat) (inner : Nat → Recognizer Expr) : Prop :=
  ∀ rank ≤ 4, ∀ s, Reads (.nested (.level rank)) room (fun b a s' => a = b ∧ Stops rank s') s
    (inner rank s)

/-! ## Operands -/

/-- The arguments of a call are read. -/
theorem reads_arguments {inner : Recognizer Expr}
    (each : Recognizes .expression room inner) : Recognizes .arguments room (arguments inner) := by
  intro s
  refine Reads.look (accept_spec .closeParen s) ?_
  rintro yes s' (⟨rfl, t, isParen, -, took⟩ | ⟨rfl, t, peeked, -⟩)
  · refine .by_rule .noArguments rfl (.cons_token isParen took ?_)
    exact .done ⟨[], rfl, rfl⟩
  · refine .of_takes peeked.toTakes (.by_rule .someArguments rfl ?_)
    refine .part (reads_separated (by decide) each s') ?_
    rintro d items _ s₁ - rfl
    refine .expect fun t s₂ _ _ => ?_
    exact .done ⟨_, rfl, rfl⟩

/-- An expression without an operator outside of parentheses is an operand. -/
theorem Reads.operand {Ok : Expr → Expr → TokenStream → Prop}
    {result : EStateM.Result Fault TokenStream Expr} (h : Reads .primary room Ok s result) :
    Reads (.level 4) room Ok s result := by
  refine .by_rule (.primary (Nat.le_refl 4)) rfl (h.row.mono ?_ fun _ _ => id)
  rintro a s' ⟨forest, values, takes, yields, ok⟩
  exact ⟨forest, values, takes, yields, _, rfl, ok⟩

/-- A name is a variable, or with a parenthesis behind it a call. -/
theorem reads_variableOrCall {inner : Recognizer Expr} (each : Recognizes .expression room inner)
    {t : Token} (isName : t.kind = .identifier) (peeked : Peeked t s s₁) :
    Reads .primary room (fun b a _ => a = b) s
      ((advance >>= fun _ => variableOrCall inner t) s₁) := by
  obtain ⟨s₂, run, took⟩ := advance_of_peeked peeked (by simp [Token.isEnd, isName])
  rw [bind_of_ok run]
  have variable_ : Starts [.part .primary] [t] :=
    .rule .variableName trivial (.token isName (starts_nil _))
  refine Outcome.bind (accept_spec .openParen s₂) (fun fault s' shown => ?_) ?_
  · refine Stopped.behind took (.of_upcoming shown (W := (· = [])) rfl) ?_
    rintro u - rfl
    exact variable_
  · rintro yes s₃ (⟨rfl, t', isParen, -, takes⟩ | ⟨rfl, t', next, -⟩)
    · refine Reads.by_rule .call rfl (.cons_token isName took (.cons_token isParen takes ?_))
      refine .part (reads_arguments each s₃) ?_
      rintro d items _ s₄ argued rfl
      rw [bind_of_ok (since_of_takes (took.trans (takes.trans (argued.trans (.refl s₄)))))]
      exact .done ⟨_, rfl, rfl⟩
    · refine Reads.by_rule .variableName rfl
        (.cons_token isName (took.trans next.toTakes) ?_)
      exact .done ⟨_, rfl, rfl⟩

/-- A literal without a value stops the recognizer behind it. -/
theorem stopped_numberLiteral {Ok : Expr → TokenStream → Prop} {W : List Token → Prop} {t : Token}
    (peeked : Peeked t s s₁) (isNumber : t.kind = .number)
    (tooLarge : Number.ofLiteral? t.value.toList = none) :
    Outcome Ok (fun fault s' => Stopped W s s' fault)
      ((advance >>= fun _ => numberLiteral t) s₁) := by
  obtain ⟨others, waiting⟩ := peeked.waiting
  obtain ⟨s₂, run, took, behind⟩ := advance_of_buffer waiting (by simp [Token.isEnd, isNumber])
  rw [bind_of_ok run, numberLiteral, tooLarge]
  refine Stopped.limit (.literal _) rfl (peeked.toTakes.trans took) took.previous fun settled => ?_
  rw [behind]
  exact (List.cons.inj (waiting.symm.trans (peeked.alone settled))).2

/-- **An operand is read.** -/
theorem reads_operand {inner : Nat → Recognizer Expr} (each : RecognizesExpressions room inner) :
    Recognizes (.level 4) room (operand inner) := by
  have whole : Recognizes .expression room (inner 0) := fun s =>
    (each 0 (by decide) s).mono fun _ _ _ => And.left
  intro s
  refine Reads.look (peek_spec s) fun t s₁ peeked => ?_
  have sign (isSign : Terminal.Fits .sign t) : Reads (.level 4) room (fun b a _ => a = b) s
      ((advance >>= fun _ => signed (inner Kind.signRank) t) s₁) := by
    refine .by_rule (.signed (Nat.le_refl 4)) rfl (.advance peeked isSign fun s₂ took => ?_)
    refine .part (each Kind.signRank (by decide) s₂) ?_
    rintro d e _ s₃ takes ⟨rfl, -⟩
    rw [bind_of_ok (since_of_takes (took.trans (takes.trans (.refl s₃))))]
    exact .done ⟨_, rfl, rfl⟩
  cases isKind : t.kind
  case plus => exact sign (.inl isKind)
  case minus => exact sign (.inr isKind)
  case number =>
    cases found : Number.ofLiteral? t.value.toList with
    | none => exact stopped_numberLiteral peeked isKind found
    | some value =>
      refine Reads.operand (.by_rule .number rfl (.advance peeked isKind fun s₂ took => ?_))
      rw [numberLiteral, found]
      exact .done ⟨_, by rw [Rule.denote, found]; rfl, rfl⟩
  case text =>
    refine Reads.operand (.by_rule .text rfl (.advance peeked isKind fun s₂ took => ?_))
    exact .done ⟨_, rfl, rfl⟩
  case trueLiteral =>
    refine Reads.operand (.by_rule .trueLiteral rfl (.advance peeked isKind fun s₂ _ => ?_))
    exact .done ⟨_, rfl, rfl⟩
  case falseLiteral =>
    refine Reads.operand (.by_rule .falseLiteral rfl (.advance peeked isKind fun s₂ _ => ?_))
    exact .done ⟨_, rfl, rfl⟩
  case identifier =>
    refine Reads.operand (reads_variableOrCall whole isKind peeked)
  case openParen =>
    refine Reads.operand (.by_rule .parenthesized rfl
      (.advance peeked isKind fun s₂ took => ?_))
    refine .part (whole s₂) ?_
    rintro d e _ s₃ takes rfl
    refine .expect fun t' s₄ _ closing => ?_
    rw [bind_of_ok (since_of_takes (took.trans (takes.trans closing)))]
    exact .done ⟨_, rfl, rfl⟩
  all_goals exact .rejected _ peeked.toTakes

/-! ## Operators -/

/-- An operator that may be taken: it is of rank `least` or tighter, and it is no
comparison behind another one. -/
structure MayTake (least : Nat) (compared : Bool) (t : Token) (rank : Nat) : Prop where
  /-- The rank of the operator. -/
  isRank : t.kind.rank? = some rank
  /-- It is tight enough. -/
  tight : least ≤ rank
  /-- Comparisons are not chained. -/
  single : (t.kind.isComparison && compared) = false

/-- A start of an operator with its right operand. -/
def StartsOperation (least : Nat) (compared : Bool) (u : List Token) : Prop :=
  u = [] ∨ ∃ t rank v, u = t :: v ∧ MayTake least compared t rank ∧
    Starts [.part (.nested (.level (rank + 1)))] v

variable {least : Nat} {compared : Bool}

/-- **An operator and its right operand are read**, or no operator that may be
taken comes next. -/
theorem operation_spec {inner : Nat → Recognizer Expr} (each : RecognizesExpressions room inner)
    (least : Nat) (compared : Bool) (s : TokenStream) :
    Outcome
      (fun found s' =>
        (found = none ∧ Takes [] s s' ∧ Stops least s') ∨
        ∃ (t : Token) (rank : Nat) (d : Grammar.Derivation (.nested (.level (rank + 1)))) (right : Expr)
          (s₁ : TokenStream), found = some ((t.value, right), compared || t.kind.isComparison) ∧
          MayTake least compared t rank ∧ Takes [t] s s₁ ∧ Takes d.tokens s₁ s' ∧
          d.Yields room s'.ahead.head? right ∧ Stops (rank + 1) s')
      (fun fault s' => Stopped (StartsOperation least compared) s s' fault)
      (operation inner least compared s) := by
  refine Outcome.bind (peek_spec s) (fun fault s' shown => .of_upcoming shown (.inl rfl)) ?_
  intro t s₁ peeked
  have shown : s₁.upcoming = .ok t := peeked.upcoming.trans peeked.shown
  cases isRank : t.kind.rank? with
  | none =>
    refine .inl ⟨rfl, peeked.toTakes, fun t' shown' rank isRank' => ?_⟩
    obtain rfl := Except.ok.inj (shown.symm.trans shown')
    rw [isRank] at isRank'
    exact absurd isRank' (by simp)
  | some rank =>
    show Outcome _ _ ((if rank < least then _ else _ : Recognizer _) s₁)
    by_cases loose : rank < least
    · rw [if_pos loose]
      refine .inl ⟨rfl, peeked.toTakes, fun t' shown' rank' isRank' => ?_⟩
      obtain rfl := Except.ok.inj (shown.symm.trans shown')
      obtain rfl := Option.some.inj (isRank.symm.trans isRank')
      exact loose
    · rw [if_neg loose]
      cases chained : t.kind.isComparison && compared with
      | true => exact refuse_spec _ peeked.faces (.inl rfl)
      | false =>
        have mayTake : MayTake least compared t rank := ⟨isRank, Nat.le_of_not_lt loose, chained⟩
        have bounds := Kind.rank?_bounds isRank
        have fits : Terminal.Fits (.operator rank bounds) t := isRank
        obtain ⟨s₂, run, took⟩ := advance_of_peeked peeked fits.notEnd
        show Outcome _ _ ((advance >>= _) s₁)
        rw [bind_of_ok run]
        refine Outcome.bind (each (rank + 1) (by omega) s₂) (fun fault s' stopped => ?_) ?_
        · refine stopped.behind took fun u _ starts => .inr ⟨t, rank, u, rfl, mayTake, starts⟩
        · rintro right s₃ ⟨d, _, takes, yields, rfl, stops⟩
          exact .inr ⟨t, rank, d, right, s₂, rfl, mayTake, took, takes, yields, stops⟩

/-- Each operator makes progress. -/
theorem operation_progresses {inner : Nat → Recognizer Expr}
    (each : RecognizesExpressions room inner) (least : Nat) :
    Progresses (operation inner least) := by
  intro compared s a compared' s' run
  have := operation_spec each least compared s
  rw [run] at this
  rcases this with ⟨nothing, -⟩ | ⟨t, rank, d, right, s₁, -, -, took, takes, -⟩
  · exact absurd nothing (by simp)
  · exact (took.trans takes).length_lt (by simp)

/-- **Operators and right operands behind an operand**, as far as they may be
taken. -/
def climb (inner : Nat → Recognizer Expr) (least : Nat) (left : Expr) (compared : Bool) :
    Recognizer Expr := do
  let others ← many (operation inner least) compared
  return others.foldl (fun left (operator, right) => left.combine operator right) left

/-- An expression is an operand and what comes behind it. -/
theorem expressionBy_eq (inner : Nat → Recognizer Expr) (least : Nat) :
    expressionBy inner least = (do let first ← operand inner; climb inner least first false) :=
  rfl

/-- Behind an operator and its right operand the same goes on with both operands
taken together. -/
theorem climb_eq {inner : Nat → Recognizer Expr} (each : RecognizesExpressions room inner)
    (least : Nat) (left : Expr) (compared : Bool) :
    climb inner least left compared = (do
      match ← operation inner least compared with
      | none => return left
      | some ((operator, right), compared) =>
        climb inner least (left.combine operator right) compared) := by
  rw [climb, many_eq (operation_progresses each least), bind_assoc]
  refine bind_congr fun found => ?_
  cases found with
  | none => rfl
  | some found => simp only [bind_assoc, pure_bind, climb, List.foldl_cons]

/-- **The invariant of the loop.** What has been read between two states is an
expression of the rank of the operator read last, and no tighter operator comes
next. -/
structure Climbed (room rank : Nat) (compared : Bool) (left : Expr) (d : Grammar.Derivation (.level rank))
    (s₀ s : TokenStream) : Prop where
  /-- The rank is one of the levels. -/
  isRank : rank ≤ 4
  /-- The tokens of the expression were taken. -/
  took : Takes d.tokens s₀ s
  /-- The expression denotes what has been put together. -/
  yields : d.Yields room s.ahead.head? left
  /-- A comparison was read last if one was read at all. -/
  comparison : compared = true ↔ rank = 1
  /-- The next operator is not tighter. -/
  stops : Stops (rank + 1) s

/-- **What has been read is the left operand** of the next operator. -/
theorem Climbed.exists_left {rank rank' : Nat} {left : Expr} {d : Grammar.Derivation (.level rank)} {t : Token}
    (h : Climbed room rank compared left d s₀ s) (mayTake : MayTake least compared t rank')
    (shown : s.upcoming = .ok t) :
    ∃ d' : Grammar.Derivation (.level (Symbol.leftRank rank')), d'.tokens = d.tokens ∧
      d'.Yields room s.ahead.head? left := by
  have notTighter := h.stops t shown rank' mayTake.isRank
  have looser : Symbol.leftRank rank' ≤ rank := by
    unfold Symbol.leftRank
    split
    · rename_i first
      have : t.kind.isComparison = true := (Kind.isComparison_iff mayTake.isRank).2 first
      have notCompared : ¬ compared = true := by simpa [this] using mayTake.single
      have := mt h.comparison.2 notCompared
      omega
    · omega
  obtain ⟨d', tokens, yields⟩ := exists_looser looser h.isRank d
  exact ⟨d', tokens, yields _ _ _ h.yields⟩

/-- The next operator makes an expression of its rank of what has been read. -/
theorem Climbed.further {rank rank' : Nat} {left right : Expr} {d : Grammar.Derivation (.level rank)}
    {e : Grammar.Derivation (.nested (.level (rank' + 1)))} {t : Token}
    (h : Climbed room rank compared left d s₀ s) (mayTake : MayTake least compared t rank')
    (took : Takes [t] s s₁) (takes : Takes e.tokens s₁ s')
    (yields : e.Yields room s'.ahead.head? right) (stops : Stops (rank' + 1) s') :
    ∃ d' : Grammar.Derivation (.level rank'),
      Climbed room rank' (compared || t.kind.isComparison) (left.combine t.value right) d' s₀ s' := by
  obtain ⟨left', tokens, yields'⟩ := h.exists_left mayTake (upcoming_of_ahead took.ahead)
  have bounds := Kind.rank?_bounds mayTake.isRank
  have compared' : (compared || t.kind.isComparison) = true ↔ rank' = 1 := by
    rw [Bool.or_eq_true, Kind.isComparison_iff mayTake.isRank]
    refine or_iff_right_of_imp fun comparison => ?_
    have := (h.comparison.1 comparison)
    have := h.stops t (upcoming_of_ahead took.ahead) rank' mayTake.isRank
    omega
  let forest : Forest [.part (.level (Symbol.leftRank rank')), .token (.operator rank' bounds),
      .part (.nested (.level (rank' + 1)))] :=
    .cons left' (.token t mayTake.isRank (.cons e .nil))
  have row : forest.Yields room s'.ahead.head? (left, t, right, ()) := by
    refine .cons ?_ (.token _ (.cons yields ⟨rfl, Nat.zero_le _, trivial⟩))
    rwa [took.ahead] at yields'
  have := row.by_rule (.operation bounds) rfl ⟨trivial, fun _ => trivial⟩
  rw [show (Symbol.level rank').levels = 0 from rfl, Nat.zero_add] at this
  refine ⟨⟨.operation bounds, forest⟩, by omega, ?_, this, compared', stops⟩
  have whole := h.took.trans (took.trans (takes.trans (.refl s')))
  rwa [← tokens] at whole

/-- **The loop reads an expression** of the level that is wanted. -/
theorem reads_climb {inner : Nat → Recognizer Expr} (each : RecognizesExpressions room inner)
    {rank : Nat} {left : Expr} {d : Grammar.Derivation (.level rank)} (looser : least ≤ rank)
    (h : Climbed room rank compared left d s₀ s) :
    Reads (.level least) room (fun b a s' => a = b ∧ Stops least s') s₀
      (climb inner least left compared s) := by
  induction length : s.ahead.length using Nat.strongRecOn generalizing s rank left compared with
  | _ _ ih =>
    subst length
    rw [climb_eq each]
    obtain ⟨whole, tokens, yields⟩ := exists_looser looser h.isRank d
    have yieldsWhole := yields _ _ _ h.yields
    refine Outcome.bind (operation_spec each least compared s) (fun fault s' stopped => ?_) ?_
    · refine stopped.behind h.took fun u front starts => ?_
      rcases starts with rfl | ⟨t, rank', v, rfl, mayTake, starts⟩
      · rw [← tokens, List.append_nil]
        exact .of_derivation yieldsWhole.loose
      · obtain ⟨more, split⟩ := front
        obtain ⟨left', same, yields'⟩ := h.exists_left mayTake (upcoming_of_ahead split.symm)
        have bounds := Kind.rank?_bounds mayTake.isRank
        have fits : Terminal.Fits (.operator rank' bounds) t := mayTake.isRank
        have operation := Starts.behind yields'.loose ⟨more, split⟩ (.token fits starts)
        rw [← same]
        exact .looser mayTake.tight (by omega) (.rule (.operation bounds) trivial operation)
    · rintro found s' (⟨rfl, same, stops⟩ | ⟨t, rank', e, right, s₁, rfl, mayTake, took, takes,
        yields', stops⟩)
      · refine ⟨whole, left, ?_, ?_, rfl, stops⟩
        · rw [tokens, ← List.append_nil d.tokens]
          exact h.took.trans same
        · rwa [same.ahead] at yieldsWhole
      · obtain ⟨d', climbed⟩ := h.further mayTake took takes yields' stops
        exact ih _ ((took.trans takes).length_lt (by simp)) mayTake.tight climbed rfl

/-! ## Expressions -/

/-- An expression is read if the expressions in it are. -/
theorem reads_expressionBy {inner : Nat → Recognizer Expr} (each : RecognizesExpressions room inner)
    (isRank : least ≤ 4) (s : TokenStream) :
    Reads (.level least) room (fun b a s' => a = b ∧ Stops least s') s
      (expressionBy inner least s) := by
  rw [expressionBy_eq]
  refine Reads.bind (reads_operand each s) (fun u => .looser isRank (Nat.le_refl 4)) ?_
  rintro first s' ⟨d, _, took, yields, rfl⟩
  refine reads_climb each isRank (d := d) ?_
  exact
    { isRank := Nat.le_refl 4, took, yields, comparison := by simp
      stops := fun t _ rank isRank =>
        Nat.lt_of_le_of_lt (Kind.rank?_bounds isRank).2 (by decide) }

/-- **Expressions are read** with any number of levels of nesting to spare. -/
theorem reads_expressionIn (room : Nat) : RecognizesExpressions room (expressionIn room) := by
  induction room with
  | zero => exact fun _ _ s => .rejected _ (.refl s)
  | succ room ih => exact fun rank isRank s => (reads_expressionBy ih isRank s).nested

/-- Where levels are counted there are no more of them than calls. -/
theorem reads_expression (calls : Nat) : RecognizesExpressions calls (expression calls) := by
  intro rank isRank s
  rw [expression_run]
  exact (reads_expressionIn _ rank isRank s).widen (Nat.min_le_left ..)

end Recognizer

end PascalFront
