import PascalFront.Proofs.Grammar.Stratified
/-!
# Operators by how tightly they bind

Expressions are recognized in one loop that takes operators from some rank on. It does the
same as the recognizers for the levels of the grammar, one loop for each, unless the
limit on nesting is reached (`expression_stratified`): the same tree and the same tokens
left, or the same complaint at the same token.

The loop looks at the token behind each operand, while a factor ends without a look at
what follows. Looking twice is looking once, so recognizers are compared up to a look at
the next token (`looking`).
-/

namespace PascalFront.Recognizer

open TokenStream Stratified

variable {α β : Type} {s s' : TokenStream} {t : Token}

/-! ## Looking at the next token -/

/-- A recognizer with a look at the token behind it. -/
def looking (r : Recognizer α) : Recognizer α := do
  let a ← r
  let _ ← peek
  return a

/-- **A recognizer looks first** at the next token. -/
def LooksFirst (r : Recognizer α) : Prop := (peek >>= fun _ => r) = r

/-- What begins with a look looks first. -/
theorem looksFirst_peek (next : Token → Recognizer α) : LooksFirst (peek >>= next) := by
  funext s
  exact bind_congr_next fun t s' run => bind_of_ok (peek_again run)

/-- What begins with what looks first looks first. -/
theorem LooksFirst.bind {r : Recognizer β} (h : LooksFirst r) (next : β → Recognizer α) :
    LooksFirst (r >>= next) := by
  rw [LooksFirst, ← bind_assoc, h]

/-- So does a recognizer with a look behind it. -/
theorem LooksFirst.looking {r : Recognizer α} (h : LooksFirst r) : LooksFirst (looking r) :=
  h.bind _

/-- Nothing but a look looks first. -/
theorem looksFirst_pure (a : α) : LooksFirst (looking (pure a)) := by
  rw [Recognizer.looking, pure_bind]
  exact looksFirst_peek _

/-- What looks first does the same where the next token has been looked at. -/
theorem LooksFirst.of_peek {r : Recognizer α} (h : LooksFirst r) (run : peek s = .ok t s') :
    r s = r s' :=
  (congrFun h s).symm.trans (bind_of_ok run)

/-- What looks first meets the fault in the place of the next token. -/
theorem LooksFirst.of_fault {r : Recognizer α} (h : LooksFirst r) {fault : Fault}
    (run : peek s = .error fault s') : r s = .error fault s' :=
  (congrFun h s).symm.trans (bind_of_error run)

/-- **Two recognizers that look first** meet the fault in the place of the next token, or go on
behind a look at it. -/
theorem LooksFirst.looked {r r' : Recognizer α} (first : LooksFirst r) (second : LooksFirst r')
    (s : TokenStream) :
    r s = r' s ∨ ∃ t s', Peeked t s s' ∧ peek s' = .ok t s' ∧ r s = r s' ∧ r' s = r' s' := by
  have peeked := peek_spec s
  cases run : peek s with
  | error fault s' => exact .inl ((first.of_fault run).trans (second.of_fault run).symm)
  | ok t s' =>
    rw [run] at peeked
    exact .inr ⟨t, s', peeked, peek_again run, first.of_peek run, second.of_peek run⟩

/-- A look makes no difference before what looks first. -/
theorem looking_bind (r : Recognizer β) {next : β → Recognizer α}
    (h : ∀ b, LooksFirst (next b)) : looking r >>= next = r >>= next := by
  rw [looking, bind_assoc]
  exact bind_congr fun b => by rw [bind_assoc]; exact h b

/-- One step after the other, with a look at the end. -/
theorem looking_bind_eq (r : Recognizer β) (next : β → Recognizer α) :
    looking (r >>= next) = r >>= fun b => looking (next b) := by
  rw [looking, bind_assoc]
  rfl

/-- What does the same does so with a look at the end. -/
theorem looking_congr_run {r r' : Recognizer α} (same : r s = r' s) : looking r s = looking r' s :=
  bind_congr_run same

/-- The next token has been looked at already. -/
theorem looking_of_ok {r : Recognizer α} {a : α} (run : r s = .ok a s')
    (shown : peek s' = .ok t s') : looking r s = .ok a s' := by
  rw [looking, bind_of_ok run, bind_of_ok shown]
  rfl

/-! ## Kinds of operators -/

/-- The ranks of operators are those of products, of sums and of comparisons. -/
theorem rank?_product {kind : Kind} : kind.rank? = some 3 ↔ kind ∈ [.times, .divide] := by
  cases kind <;> decide

theorem rank?_sum {kind : Kind} : kind.rank? = some 2 ↔ kind ∈ [.plus, .minus] := by
  cases kind <;> decide

theorem rank?_comparison {kind : Kind} : kind.rank? = some 1 ↔
    kind ∈ [.equal, .notEqual, .less, .greater, .lessEqual, .greaterEqual] := by
  cases kind <;> decide

/-- Other operators are no comparisons. -/
theorem isComparison_of_rank? {kind : Kind} {rank : Nat} (isRank : kind.rank? = some rank)
    (other : rank ≠ 1) : kind.isComparison = false := by
  refine decide_eq_false fun listed => other ?_
  exact Option.some.inj (isRank.symm.trans (rank?_comparison.2 listed))

/-! ## The loop of the recognizer -/

section Climb

variable {room : Nat} {inner : Nat → Recognizer Expr} (each : RecognizesExpressions room inner)
  (least : Nat) (left : Expr) (compared : Bool)

include each

/-- The loop looks at the next token first. -/
theorem looksFirst_climb : LooksFirst (climb inner least left compared) := by
  rw [climb_eq each, operation, bind_assoc]
  exact looksFirst_peek _

variable {least left compared}

/-- It ends before what is no operator of the rank or a tighter one. -/
theorem climb_stop (shown : peek s = .ok t s)
    (stop : ∀ rank, t.kind.rank? = some rank → rank < least) :
    climb inner least left compared s = .ok left s := by
  rw [climb_eq each, operation, bind_assoc, bind_of_ok shown]
  cases isRank : t.kind.rank? with
  | none => rfl
  | some rank =>
    simp only [if_pos (stop rank isRank)]
    rfl

/-- It refuses a comparison behind another one. -/
theorem climb_refuse (shown : peek s = .ok t s) (isRank : t.kind.rank? = some 1)
    (loose : least ≤ 1) : climb inner least left true s = refuse .chainedComparison t s := by
  have isComparison : t.kind.isComparison = true := decide_eq_true (rank?_comparison.1 isRank)
  rw [climb_eq each, operation, bind_assoc, bind_of_ok shown]
  simp only [isRank, if_neg (Nat.not_lt.2 loose), isComparison, Bool.true_and, if_true]
  rfl

/-- It takes an operator and its right operand, and goes on. -/
theorem climb_further {rank : Nat} (shown : peek s = .ok t s) (isRank : t.kind.rank? = some rank)
    (tight : least ≤ rank) (single : (t.kind.isComparison && compared) = false) :
    climb inner least left compared s = (do
      let _ ← advance
      let right ← inner (rank + 1)
      climb inner least (left.combine t.value right) (compared || t.kind.isComparison) :
        Recognizer Expr) s := by
  rw [climb_eq each, operation, bind_assoc, bind_of_ok shown]
  simp only [isRank, if_neg (Nat.not_lt.2 tight), single, Bool.false_eq_true, if_false, bind_assoc,
    pure_bind]

end Climb

/-! ## The loops of the levels -/

namespace Stratified

/-- The rest of an expression behind its first sum, if it takes operators of some rank or
tighter ones. -/
def behindSum (least : Nat) (left : Expr) : Recognizer Expr :=
  if least ≤ 1 then comparisonFrom factor left else return left

/-- The rest of an expression behind its first product. -/
def behindProduct (least : Nat) (left : Expr) : Recognizer Expr := do
  if least ≤ 2 then behindSum least (← rowFrom [.plus, .minus] (product factor) left)
  else return left

/-- The rest of an expression behind its first factor. -/
def behindFactor (least : Nat) (left : Expr) : Recognizer Expr := do
  if least ≤ 3 then behindProduct least (← rowFrom [.times, .divide] factor left) else return left

/-- **The expressions that take operators of some rank or tighter ones.** -/
def level (least : Nat) : Recognizer Expr := do
  behindFactor least (← factor)

/-- The levels are those of the grammar. -/
theorem level_zero : level 0 = comparison factor := by
  simp [level, behindFactor, behindProduct, behindSum, comparison, sum, product, bind_assoc]

theorem level_two : level 2 = sum factor := by
  simp [level, behindFactor, behindProduct, behindSum, sum, product, bind_assoc]

theorem level_three : level 3 = product factor := by
  simp [level, behindFactor, behindProduct, product]

theorem level_four : level 4 = factor := by
  simp [level, behindFactor]

/-- Products go forward. -/
theorem forward_product : Forward (product factor) :=
  have same : SameWithin (fun _ => False) 0 factor factor := .refl forward_factor
  same.product.forward

variable {least : Nat} (left : Expr)

/-- The rest of an expression looks first. -/
theorem looksFirst_behindFactor (least : Nat) (left : Expr) :
    LooksFirst (looking (behindFactor least left)) := by
  unfold behindFactor
  split
  · rw [rowFrom_eq forward_factor (by decide), bind_assoc]
    exact (looksFirst_peek _).looking
  · exact looksFirst_pure left

/-- So does the rest behind a product. -/
theorem looksFirst_behindProduct (least : Nat) (left : Expr) :
    LooksFirst (looking (behindProduct least left)) := by
  unfold behindProduct
  split
  · rw [rowFrom_eq forward_product (by decide), bind_assoc]
    exact (looksFirst_peek _).looking
  · exact looksFirst_pure left

section Stop

variable (shown : peek s = .ok t s)

include shown

/-- There is no comparison before what is no operator of the rank or a tighter one. -/
theorem behindSum_stop (stop : ∀ rank, t.kind.rank? = some rank → rank < least) :
    behindSum least left s = .ok left s := by
  unfold behindSum
  split
  case isTrue loose =>
    have other : t.kind ∉ [.equal, .notEqual, .less, .greater, .lessEqual, .greaterEqual] :=
      fun listed => absurd (stop 1 (rank?_comparison.2 listed)) (Nat.not_lt.2 loose)
    rw [comparisonFrom, bind_of_ok shown, if_neg other]
    rfl
  case isFalse => rfl

/-- A sum ends before what is no operator of sums and none of products. -/
theorem behindProduct_eq (stop : ∀ rank, t.kind.rank? = some rank → rank < 2)
    (loose : least ≤ 2) : behindProduct least left s = behindSum least left s := by
  have other : t.kind ∉ [.plus, .minus] :=
    fun listed => absurd (stop 2 (rank?_sum.2 listed)) (Nat.lt_irrefl 2)
  have row := rowFrom_stop forward_product (by decide) left shown other
  rw [behindProduct, if_pos loose, bind_of_ok row]

/-- A product ends before what is no operator of products. -/
theorem behindFactor_eq (stop : ∀ rank, t.kind.rank? = some rank → rank < 3)
    (loose : least ≤ 3) : behindFactor least left s = behindProduct least left s := by
  have other : t.kind ∉ [.times, .divide] :=
    fun listed => absurd (stop 3 (rank?_product.2 listed)) (Nat.lt_irrefl 3)
  have row := rowFrom_stop forward_factor (by decide) left shown other
  rw [behindFactor, if_pos loose, bind_of_ok row]

/-- An expression ends before what is no operator of its rank or a tighter one. -/
theorem behindFactor_stop (stop : ∀ rank, t.kind.rank? = some rank → rank < least) :
    behindFactor least left s = .ok left s := by
  have below {limit : Nat} (loose : least ≤ limit) (rank : Nat) (isRank : t.kind.rank? = some rank) :
      rank < limit := Nat.lt_of_lt_of_le (stop rank isRank) loose
  by_cases loose : least ≤ 3
  · rw [behindFactor_eq left shown (below loose) loose]
    by_cases looser : least ≤ 2
    · rw [behindProduct_eq left shown (below looser) looser]
      exact behindSum_stop left shown stop
    · rw [behindProduct, if_neg looser]
      rfl
  · rw [behindFactor, if_neg loose]
    rfl

/-- A product goes on behind its operators. -/
theorem behindFactor_further (isRank : t.kind.rank? = some 3) (loose : least ≤ 3) :
    behindFactor least left s = (do
      let _ ← advance
      let right ← factor
      behindFactor least (left.combine t.value right) : Recognizer Expr) s := by
  have row := rowFrom_further forward_factor (by decide) left shown (rank?_product.1 isRank)
  simp only [behindFactor, if_pos loose]
  rw [bind_congr_run row]
  simp only [bind_assoc]

/-- A sum goes on behind its operators. -/
theorem behindProduct_further (isRank : t.kind.rank? = some 2) (loose : least ≤ 2) :
    behindProduct least left s = (do
      let _ ← advance
      let right ← product factor
      behindProduct least (left.combine t.value right) : Recognizer Expr) s := by
  have row := rowFrom_further forward_product (by decide) left shown (rank?_sum.1 isRank)
  simp only [behindProduct, if_pos loose]
  rw [bind_congr_run row]
  simp only [bind_assoc]

/-- A comparison has another sum behind its operator, and ends. -/
theorem behindSum_further (isRank : t.kind.rank? = some 1) (loose : least ≤ 1) :
    behindSum least left s = (do
      let _ ← advance
      let right ← sum factor
      endComparison (left.combine t.value right) : Recognizer Expr) s := by
  rw [behindSum, if_pos loose, comparisonFrom, bind_of_ok shown, if_pos (rank?_comparison.1 isRank)]

end Stop

/-- Where no operator of products comes next no product goes on. -/
theorem looking_behindFactor (stops : Stops 3 s) (loose : least ≤ 3) :
    looking (behindFactor least left) s = looking (behindProduct least left) s := by
  have first := looksFirst_behindFactor least left
  have second := looksFirst_behindProduct least left
  obtain equal | ⟨t, s₁, peeked, shown, firstEq, secondEq⟩ := first.looked second s
  · exact equal
  · rw [firstEq, secondEq]
    exact looking_congr_run (behindFactor_eq left shown (stops t peeked.shown) loose)

end Stratified

/-! ## The loop does what the levels do -/

/-- A complaint about the nesting. -/
def TooDeep (fault : Fault) : Prop := ∃ place, fault = .grammatical .nestingTooDeep place

section Same

variable {room : Nat} {inner : Nat → Recognizer Expr} (each : RecognizesExpressions room inner)

include each

/-- **An operator is taken**, and a right operand that no tighter operator follows, where a
level goes on in the same way. -/
theorem climb_operator {least rank : Nat} {left : Expr} {r operand : Recognizer Expr}
    {next : Expr → Recognizer Expr} (shown : peek s = .ok t s) (isRank : t.kind.rank? = some rank)
    (tight : least ≤ rank) (right : ∀ s, SameUnless TooDeep (inner (rank + 1)) (looking operand) s)
    (further : r s = (do
      let _ ← advance
      let right ← operand
      next right : Recognizer Expr) s)
    (first : ∀ e, LooksFirst (looking (next e)))
    (behind : ∀ e s', s'.ahead.length < s.ahead.length → Stops (rank + 1) s' →
      SameUnless TooDeep (climb inner least (left.combine t.value e) t.kind.isComparison)
        (looking (next e)) s') :
    SameUnless TooDeep (climb inner least left false) (looking r) s := by
  have peeked := peek_spec s
  rw [shown] at peeked
  have bounds := Kind.rank?_bounds isRank
  have fits : Grammar.Terminal.Fits (.operator rank bounds) t := isRank
  obtain ⟨s₁, taken, took⟩ := advance_of_peeked peeked fits.notEnd
  rw [SameUnless, climb_further each shown isRank tight (Bool.and_false _), looking_congr_run further,
    looking_bind_eq]
  simp only [looking_bind_eq operand]
  rw [← looking_bind operand first]
  refine (SameUnless.refl advance).bind fun _ s' run => (right s').bind fun e s₂ run₂ => ?_
  obtain ⟨-, rfl⟩ := EStateM.Result.ok.inj (taken.symm.trans run)
  have read := each (rank + 1) (by omega) s₁
  rw [run₂] at read
  obtain ⟨d, b, takes, -, -, stops⟩ := read
  exact behind e s₂ ((took.trans takes).length_lt (by simp)) stops

/-- **Behind a comparison** of two sums the loop ends, or a further comparison is refused. -/
theorem climb_compared {least : Nat} (loose : least ≤ 1) (left : Expr) (stops : Stops 2 s) :
    climb inner least left true s = looking (endComparison left) s := by
  have first := looksFirst_climb each least left true
  have second : LooksFirst (looking (endComparison left)) := (looksFirst_peek _).looking
  obtain equal | ⟨t, s₁, peeked, shown, firstEq, secondEq⟩ := first.looked second s
  · exact equal
  · rw [firstEq, secondEq]
    have ends : endComparison left s₁ = _ := bind_of_ok shown
    cases isRank : t.kind.rank? with
    | none =>
      refine (climb_stop each shown (by simp [isRank])).trans (looking_of_ok ?_ shown).symm
      rw [ends, if_neg]
      · rfl
      · intro listed
        rw [rank?_comparison.2 listed] at isRank
        cases isRank
    | some rank =>
      have fewer := stops t peeked.shown rank isRank
      have bounds := Kind.rank?_bounds isRank
      obtain rfl : rank = 1 := by omega
      rw [if_pos (rank?_comparison.1 isRank)] at ends
      rw [climb_refuse each shown isRank loose]
      exact (bind_of_error (ends.trans rfl)).symm

/-- **The loop does what is left of the levels** if the right operands are those of the levels. -/
theorem climb_same (levels : ∀ rank s, SameUnless TooDeep (inner rank) (looking (level rank)) s)
    (least : Nat) (left : Expr) (s : TokenStream) :
    SameUnless TooDeep (climb inner least left false) (looking (behindFactor least left)) s := by
  induction length : s.ahead.length using Nat.strongRecOn generalizing left s with
  | _ _ ih =>
    subst length
    have first := looksFirst_climb each least left false
    have second := looksFirst_behindFactor least left
    obtain equal | ⟨t, s₁, peeked, shown, firstEq, secondEq⟩ := first.looked second s
    · exact .inr equal
    have same : s₁.ahead.length = s.ahead.length := congrArg List.length peeked.ahead.symm
    refine SameUnless.of_eq ?_ firstEq secondEq
    by_cases stop : ∀ rank, t.kind.rank? = some rank → rank < least
    · refine .inr ((climb_stop each shown stop).trans ?_)
      exact (looking_of_ok (behindFactor_stop left shown stop) shown).symm
    obtain ⟨rank, isRank, tight⟩ : ∃ rank, t.kind.rank? = some rank ∧ least ≤ rank := by
      simpa using stop
    have bounds := Kind.rank?_bounds isRank
    have looser (limit : Nat) (fewer : rank < limit) (rank' : Nat)
        (isRank' : t.kind.rank? = some rank') : rank' < limit :=
      Option.some.inj (isRank.symm.trans isRank') ▸ fewer
    -- The ranks of operators are those of comparisons, sums and products.
    obtain rfl | rfl | rfl : rank = 1 ∨ rank = 2 ∨ rank = 3 := by omega
    · have isComparison : t.kind.isComparison = true :=
        decide_eq_true (rank?_comparison.1 isRank)
      have right := levels 2
      rw [level_two] at right
      have further := (behindFactor_eq left shown (looser 3 (by decide)) (by omega)).trans
        ((behindProduct_eq left shown (looser 2 (by decide)) (by omega)).trans
          (behindSum_further left shown isRank tight))
      refine climb_operator each shown isRank tight right further
        (fun e => (looksFirst_peek _).looking) fun e s' _ stops => ?_
      rw [isComparison]
      exact .inr (climb_compared each tight _ stops)
    · have right := levels 3
      rw [level_three] at right
      have further := (behindFactor_eq left shown (looser 3 (by decide)) (by omega)).trans
        (behindProduct_further left shown isRank tight)
      refine climb_operator each shown isRank tight right further
        (fun e => looksFirst_behindProduct _ _) fun e s' fewer stops => ?_
      rw [isComparison_of_rank? isRank (by decide)]
      have rest := ih _ (same ▸ fewer) (left.combine t.value e) s' rfl
      exact rest.of_eq rfl (looking_behindFactor _ stops (by omega)).symm
    · have right := levels 4
      rw [level_four] at right
      have further := behindFactor_further left shown isRank tight
      refine climb_operator each shown isRank tight right further
        (fun e => looksFirst_behindFactor _ _) fun e s' fewer _ => ?_
      rw [isComparison_of_rank? isRank (by decide)]
      exact ih _ (same ▸ fewer) _ s' rfl

end Same

/-! ## Looks that make no difference -/

/-- A span up to the token taken last is the same behind a look. -/
theorem looksFirst_since (start : Position) (f : Span → α) :
    LooksFirst (looking (do return f (← since start))) := by
  funext s
  have later : looking (do return f (← since start)) s = (peek >>= fun _ =>
      pure (f (.between start ((s.previous.map Token.stopPosition).getD .zero)))) s := rfl
  rw [later]
  refine bind_congr_next fun t s' run => ?_
  have peeked := peek_spec s
  rw [run] at peeked
  refine (looking_of_ok rfl (peek_again run)).trans ?_
  rw [peeked.previous]
  rfl

/-- A look behind the operand of a sign can wait. -/
theorem looking_signed (r : Recognizer Expr) (t : Token) :
    looking (signed (looking r) t) = looking (signed r t) := by
  rw [signed, signed, looking_bind_eq, looking_bind_eq]
  exact looking_bind r fun e => looksFirst_since _ _

/-- The end of a comparison has looked at what follows. -/
theorem looking_endComparison (e : Expr) : looking (endComparison e) = endComparison e := by
  funext s
  rw [endComparison, looking_bind_eq]
  refine bind_congr_next fun t s' run => ?_
  by_cases chained : t.kind ∈ [.equal, .notEqual, .less, .greater, .lessEqual, .greaterEqual]
  · simp only [if_pos chained]
    rfl
  · simp only [if_neg chained]
    exact looking_of_ok rfl (peek_again run)

/-- So has a comparison. -/
theorem looking_comparison : looking (comparison factor) = comparison factor := by
  rw [comparison, looking_bind_eq]
  refine bind_congr fun left => ?_
  funext s
  rw [comparisonFrom, looking_bind_eq]
  refine bind_congr_next fun t s' run => ?_
  by_cases compared : t.kind ∈ [.equal, .notEqual, .less, .greater, .lessEqual, .greaterEqual]
  · simp only [if_pos compared, looking_bind_eq, looking_endComparison]
  · simp only [if_neg compared]
    exact looking_of_ok rfl (peek_again run)

/-! ## Expressions -/

/-- What a factor holds, with a look behind the operand of a sign. -/
def insideLooking : (rank : Nat) → Recognizer Expr
  | 0 => comparison factor
  | _ + 1 => looking factor

/-- Up to a look behind it, a factor is an operand that holds these. -/
theorem looking_factor : looking factor = looking (operand insideLooking) := by
  rw [factor_eq, factorBy_eq, operand, operand, looking_bind_eq, looking_bind_eq]
  refine bind_congr fun t => ?_
  cases t.kind
  case plus | minus =>
    simp only [looking_bind_eq advance]
    exact bind_congr fun _ => (looking_signed factor t).symm
  all_goals rfl

/-- A level is an operand and what is left of it. -/
theorem looking_level (rank : Nat) :
    looking (level rank) = operand insideLooking >>= fun left => looking (behindFactor rank left) := by
  rw [level, looking_bind_eq, ← looking_bind factor fun left => looksFirst_behindFactor rank left,
    looking_factor, looking_bind _ fun left => looksFirst_behindFactor rank left]

/-- **Expressions of each rank** are recognized as their level is. -/
theorem expression_same (room rank : Nat) (s : TokenStream) :
    SameUnless TooDeep (Recognizer.expressionIn room rank) (looking (level rank)) s := by
  induction room generalizing rank s with
  | zero =>
    have first : LooksFirst (looking (level rank)) := by
      rw [looking_level, operand, bind_assoc]
      exact looksFirst_peek _
    cases run : peek s with
    | error fault s₁ => exact .inr ((bind_of_error run).trans (first.of_fault run).symm)
    | ok t s₁ => exact .inl ⟨_, s₁, bind_of_ok run, some t.span, rfl⟩
  | succ room ih =>
    have forward (rank : Nat) : Forward (Recognizer.expressionIn room rank) :=
      keptBySteps_forward.expressionIn room rank
    have whole : SameWithin TooDeep s.ahead.length (Recognizer.expressionIn room 0)
        (insideLooking 0) := by
      refine ⟨forward 0, fun s _ => ?_⟩
      have same := ih 0 s
      rwa [level_zero, looking_comparison] at same
    have sign : SameWithin TooDeep s.ahead.length (Recognizer.expressionIn room Kind.signRank)
        (insideLooking Kind.signRank) := by
      refine ⟨forward _, fun s _ => ?_⟩
      have same : SameUnless TooDeep _ (looking (level 4)) s := ih Kind.signRank s
      rwa [level_four] at same
    rw [looking_level]
    refine ((whole.operand sign).same s (Nat.lt_succ_self _)).bind fun left s' _ => ?_
    exact climb_same (reads_expressionIn room) ih rank left s'

/-- **The loop agrees with the levels.** Expressions, as deep as they may be nested, are
recognized as the grammar has them level by level, where a factor is a sign and a factor
or a primary: with the same tree and the same tokens left, or the same complaint at the
same token. -/
theorem expression_stratified :
    Stratified.factor = factorBy Stratified.factor ∧
      ∀ calls s, (∃ place s',
          Recognizer.expression calls 0 s = .error (.grammatical .nestingTooDeep place) s') ∨
        Recognizer.expression calls 0 s = Stratified.expression s := by
  refine ⟨factor_eq, fun calls s => ?_⟩
  have same := expression_same (levelsLeft calls s.depth) 0 s
  rw [level_zero, looking_comparison] at same
  rw [expression_run]
  rcases same with ⟨_, s', run, place, rfl⟩ | equal
  · exact .inl ⟨place, s', run⟩
  · exact .inr equal

end PascalFront.Recognizer
