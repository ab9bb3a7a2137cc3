import PascalFront.Proofs.Grammar.Steps
/-!
# Expressions level by level

The grammar of expressions read off directly, one recognizer for each level: an
expression is a sum, or a comparison of two; a sum is a row of products, a product a row
of factors, and a factor is a sign and a factor or a primary. Rows are grouped to the
left, and what follows a comparison may not be another one.

Factors hold expressions and expressions are made of factors. `factor` goes as deep as
there are tokens, which is deep enough: it is what it is made of (`factor_eq`).
-/

namespace PascalFront.Recognizer

open TokenStream

variable {α β σ : Type} {excused : Fault → Prop} {bound : Nat} {s : TokenStream} {t : Token}

/-! ## Doing the same -/

/-- **Two recognizers do the same** from a state on, unless the first one stops with a
fault that is excused. -/
def SameUnless (excused : Fault → Prop) (r r' : Recognizer α) (s : TokenStream) : Prop :=
  (∃ fault s', r s = .error fault s' ∧ excused fault) ∨ r s = r' s

theorem SameUnless.refl (r : Recognizer α) : SameUnless excused r r s := .inr rfl

/-- One step after the other. -/
theorem SameUnless.bind {r r' : Recognizer β} {next next' : β → Recognizer α}
    (first : SameUnless excused r r' s)
    (behind : ∀ b s', r s = .ok b s' → SameUnless excused (next b) (next' b) s') :
    SameUnless excused (r >>= next) (r' >>= next') s := by
  rcases first with ⟨fault, s', stopped, excuse⟩ | same
  · exact .inl ⟨fault, s', bind_of_error stopped, excuse⟩
  · rw [SameUnless, ← bind_congr_run same]
    cases run : r s with
    | error fault s' => exact .inr (by rw [bind_of_error run, bind_of_error run])
    | ok b s' =>
      rw [bind_of_ok run, bind_of_ok run]
      exact behind b s' run

/-- Doing the same depends on the two results only. -/
theorem SameUnless.of_eq {r r' r₁ r₁' : Recognizer α} {s₁ : TokenStream}
    (h : SameUnless excused r r' s) (first : r₁ s₁ = r s) (second : r₁' s₁ = r' s) :
    SameUnless excused r₁ r₁' s₁ := by
  rwa [SameUnless, first, second]

/-- **Two recognizers do the same within a bound**, where fewer tokens are ahead. The first
one goes forward, so that it stays within the bound. -/
structure SameWithin (excused : Fault → Prop) (bound : Nat) (r r' : Recognizer α) : Prop where
  /-- The first one leaves no more tokens ahead. -/
  forward : Forward r
  /-- They do the same where fewer tokens are ahead. -/
  same : ∀ s, s.ahead.length < bound → SameUnless excused r r' s

namespace SameWithin

/-- What goes forward does the same as itself. -/
theorem refl {r : Recognizer α} (forward : Forward r) : SameWithin excused bound r r :=
  ⟨forward, fun _ _ => .refl r⟩

theorem pure (a : α) : SameWithin excused bound (Pure.pure a) (Pure.pure a) :=
  .refl (keptBySteps_forward.pure a)

/-- **One step after the other.** -/
theorem bind {r r' : Recognizer β} {next next' : β → Recognizer α}
    (first : SameWithin excused bound r r')
    (behind : ∀ b, SameWithin excused bound (next b) (next' b)) :
    SameWithin excused bound (r >>= next) (r' >>= next') where
  forward := keptBySteps_forward.bind first.forward fun b => (behind b).forward
  same s short := (first.same s short).bind fun b s' run =>
    (behind b).same s' (Nat.lt_of_le_of_lt (first.forward s b s' run) short)

/-- The same choice. -/
theorem ite {c : Prop} [Decidable c] {x x' y y' : Recognizer α}
    (yes : SameWithin excused bound x x') (no : SameWithin excused bound y y') :
    SameWithin excused bound (if c then x else y) (if c then x' else y') := by
  split
  · exact yes
  · exact no

/-- **What is put together from steps does the same** if its parts do. -/
theorem relatedBySteps : RelatedBySteps fun _ => SameWithin excused bound where
  pure := .pure
  bind := .bind
  peekAt count near := .refl (keptBySteps_forward.peekAt count near)
  advance := .refl forward_advance
  since start := .refl (keptBySteps_forward.since start)
  refuse complaint t := .refl (keptBySteps_forward.refuse complaint t)
  many each state := by
    have got : Forward (get : Recognizer TokenStream) := fun _ _ _ run => by
      cases run
      exact Nat.le_refl _
    have rounds (limit : Nat) := related_collect (P := fun _ => SameWithin excused bound) .pure .bind
      each limit state
    exact (refl got).bind fun _ => rounds _

/-- Behind a token that is taken there is one token less. -/
theorem taken {s₀ : TokenStream} {r r' : Recognizer α} (behind : SameWithin excused bound r r')
    (peeked : Peeked t s₀ s) (notEnd : t.isEnd = false) (short : s₀.ahead.length < bound + 1) :
    SameUnless excused (Recognizer.advance >>= fun _ => r) (Recognizer.advance >>= fun _ => r') s := by
  obtain ⟨s', run, took⟩ := advance_of_peeked peeked notEnd
  rw [SameUnless, bind_of_ok run, bind_of_ok run]
  have := took.length_lt (by simp)
  exact behind.same s' (by omega)

/-- **Operands** do the same if the expressions in them do, which have a token less ahead. -/
theorem operand {inner inner' : Nat → Recognizer Expr}
    (whole : SameWithin excused bound (inner 0) (inner' 0))
    (sign : SameWithin excused bound (inner Kind.signRank) (inner' Kind.signRank)) :
    SameWithin excused (bound + 1) (operand inner) (Recognizer.operand inner') where
  forward := keptBySteps_forward.operand whole.forward whole.forward sign.forward
  same s short := by
    refine (SameUnless.refl Recognizer.peek).bind fun t s' run => ?_
    have peeked := peek_spec s
    rw [run] at peeked
    have peeked : Peeked t s s' := peeked
    have notEnd {kind : Kind} (isKind : t.kind = kind) (other : kind ≠ .endOfInput) :
        t.isEnd = false := by simp [Token.isEnd, isKind, other]
    split
    case h_1 isKind | h_2 isKind =>
      exact taken (relatedBySteps.signed sign t) peeked (notEnd isKind (by decide)) short
    case h_7 isKind =>
      exact taken (relatedBySteps.variableOrCall whole t) peeked (notEnd isKind (by decide)) short
    case h_8 isKind =>
      exact taken (relatedBySteps.parenthesized whole t) peeked (notEnd isKind (by decide)) short
    all_goals exact .refl _

end SameWithin

/-! ## The levels -/

namespace Stratified

section Levels

variable (kinds : List Kind) (item factor : Recognizer Expr)

/-- An operator of some kinds and the operand to its right. -/
def further : Recognizer (Option (String × Expr)) := do
  let t ← peek
  if t.kind ∈ kinds then
    let _ ← advance
    return some (t.value, ← item)
  else return none

/-- Operators and operands behind the first operand, grouped to the left. -/
def rowFrom (left : Expr) : Recognizer Expr := do
  let others ← manyOf (further kinds item)
  return others.foldl (fun left (operator, right) => left.combine operator right) left

/-- A product is a row of factors. -/
def product : Recognizer Expr := do
  rowFrom [.times, .divide] factor (← factor)

/-- A sum is a row of products. -/
def sum : Recognizer Expr := do
  rowFrom [.plus, .minus] (product factor) (← product factor)

/-- The end of a comparison, which is not followed by another one. -/
def endComparison (e : Expr) : Recognizer Expr := do
  let next ← peek
  if next.kind ∈ [.equal, .notEqual, .less, .greater, .lessEqual, .greaterEqual] then
    refuse .chainedComparison next
  return e

/-- A comparison with another sum, if there is one. -/
def comparisonFrom (left : Expr) : Recognizer Expr := do
  let t ← peek
  if t.kind ∈ [.equal, .notEqual, .less, .greater, .lessEqual, .greaterEqual] then
    let _ ← advance
    let right ← sum factor
    endComparison (left.combine t.value right)
  else return left

/-- A comparison is of two sums; a sum alone will do. -/
def comparison : Recognizer Expr := do
  comparisonFrom factor (← sum factor)

/-- **A factor** is a sign and a factor, or a primary: what `operand` recognizes without a
sign. -/
def factorBy : Recognizer Expr := do
  let t ← peek
  match t.kind with
  | .plus | .minus => do
    let _ ← advance
    signed factor t
  | _ => operand fun _ => comparison factor

end Levels

/-- Factors that hold others at most so deep. -/
def factorWithin : (depth : Nat) → Recognizer Expr
  | 0 => reject .nestingTooDeep
  | depth + 1 => factorBy (factorWithin depth)

/-- **A factor**, however deep. A factor in another one is behind a token of that, so none
is deeper than there are tokens. -/
def factor : Recognizer Expr := do
  factorWithin ((← get).size + 1)

/-- **An expression** is a comparison. -/
def expression : Recognizer Expr := comparison factor

end Stratified

namespace SameWithin

open Stratified

variable {kinds : List Kind} {item item' factor factor' : Recognizer Expr}

theorem further (each : SameWithin excused bound item item') :
    SameWithin excused bound (further kinds item) (Stratified.further kinds item') :=
  relatedBySteps.peek.bind fun _ =>
    .ite (relatedBySteps.advance.bind fun _ => each.bind fun _ => .pure _) (.pure none)

theorem rowFrom (each : SameWithin excused bound item item') (left : Expr) :
    SameWithin excused bound (rowFrom kinds item left) (Stratified.rowFrom kinds item' left) :=
  (relatedBySteps.manyOf (further each)).bind fun _ => .pure _

theorem product (each : SameWithin excused bound factor factor') :
    SameWithin excused bound (product factor) (Stratified.product factor') :=
  each.bind fun left => rowFrom each left

theorem sum (each : SameWithin excused bound factor factor') :
    SameWithin excused bound (sum factor) (Stratified.sum factor') :=
  (product each).bind fun left => rowFrom (product each) left

theorem comparisonFrom (each : SameWithin excused bound factor factor') (left : Expr) :
    SameWithin excused bound (comparisonFrom factor left) (Stratified.comparisonFrom factor' left) := by
  have steps : RelatedBySteps fun _ => SameWithin excused bound := relatedBySteps
  refine steps.peek.bind fun _ => .ite ?_ (.pure left)
  refine steps.advance.bind fun _ => (sum each).bind fun _ => steps.peek.bind fun t => ?_
  exact .ite ((steps.refuse _ t).bind fun _ => .pure _) (.pure _)

/-- **Expressions** do the same if the factors in them do. -/
theorem comparison (each : SameWithin excused bound factor factor') :
    SameWithin excused bound (comparison factor) (Stratified.comparison factor') :=
  (sum each).bind fun left => comparisonFrom each left

end SameWithin

namespace Stratified

/-- What a factor holds: a factor behind a sign, and otherwise whole expressions. -/
def inside (factor : Recognizer Expr) : (rank : Nat) → Recognizer Expr
  | 0 => comparison factor
  | _ + 1 => factor

/-- A factor is an operand with factors behind signs. -/
theorem factorBy_eq (factor : Recognizer Expr) : factorBy factor = operand (inside factor) := by
  funext s
  refine bind_congr_next fun t s' run => ?_
  have again (next : Token → Recognizer Expr) : (peek >>= next) s' = next t s' :=
    bind_of_ok (peek_again run)
  cases isKind : t.kind
  case plus | minus => rfl
  case identifier | openParen =>
    refine (again _).trans ?_
    rw [isKind]
    rfl
  all_goals exact (again _).trans (by rw [isKind])

/-- Factors do the same if those in them do, which have a token less ahead. -/
theorem same_factorBy {factor factor' : Recognizer Expr}
    (same : SameWithin excused bound factor factor') :
    SameWithin excused (bound + 1) (factorBy factor) (factorBy factor') := by
  rw [factorBy_eq, factorBy_eq]
  exact SameWithin.operand same.comparison same

/-- Factors go forward. -/
theorem forward_factorWithin (depth : Nat) : Forward (factorWithin depth) := by
  induction depth with
  | zero => exact keptBySteps_forward.reject _
  | succ depth ih =>
    have same : SameWithin (fun _ => False) 0 (factorWithin depth) (factorWithin depth) := .refl ih
    exact (same_factorBy same).forward

/-- **The depth makes no difference** where fewer tokens are ahead. -/
theorem factorWithin_same {depth depth' : Nat} (deep : bound ≤ depth) (deep' : bound ≤ depth') :
    SameWithin (fun _ => False) bound (factorWithin depth) (factorWithin depth') := by
  induction bound generalizing depth depth' with
  | zero => exact ⟨forward_factorWithin depth, fun s short => absurd short (Nat.not_lt_zero _)⟩
  | succ bound ih =>
    obtain ⟨depth, rfl⟩ := Nat.exists_eq_add_one_of_ne_zero (Nat.ne_zero_of_lt deep)
    obtain ⟨depth', rfl⟩ := Nat.exists_eq_add_one_of_ne_zero (Nat.ne_zero_of_lt deep')
    exact same_factorBy (ih (Nat.le_of_succ_le_succ deep) (Nat.le_of_succ_le_succ deep'))

/-- **Factors are made of factors**: a factor is a sign and a factor, or a primary. -/
theorem factor_eq : factor = factorBy factor := by
  funext s
  have same : SameWithin (fun _ => False) s.ahead.length (factorWithin s.size) factor := by
    refine ⟨forward_factorWithin _, fun s₁ fewer => ?_⟩
    have enough := s.length_ahead_le
    have enough' := s₁.length_ahead_le
    exact (factorWithin_same (Nat.le_trans fewer enough) (by omega)).same s₁ (Nat.lt_succ_self _)
  rcases (same_factorBy same).same s (Nat.lt_succ_self _) with ⟨_, _, -, excuse⟩ | equal
  · exact excuse.elim
  · exact equal

/-- Factors go forward. -/
theorem forward_factor : Forward factor :=
  fun s a s' run => forward_factorWithin (s.size + 1) s a s' run

/-! ## Rows -/

section Rows

variable {kinds : List Kind} {item : Recognizer Expr} (forward : Forward item)
  (noEnd : .endOfInput ∉ kinds) (left : Expr)

include forward noEnd

/-- An operator and an operand make progress. -/
theorem further_progresses (s : TokenStream) (a : String × Expr) (s' : TokenStream)
    (run : further kinds item s = .ok (some a) s') : s'.ahead.length < s.ahead.length := by
  have peeked := peek_spec s
  cases shown : peek s with
  | error fault s₁ =>
    rw [further, bind_of_error shown] at run
    cases run
  | ok t s₁ =>
    rw [shown] at peeked
    rw [further, bind_of_ok shown] at run
    by_cases listed : t.kind ∈ kinds
    · have notEnd : t.isEnd = false := decide_eq_false fun last => noEnd (last ▸ listed)
      obtain ⟨s₂, taken, took⟩ := advance_of_peeked peeked notEnd
      rw [if_pos listed, bind_of_ok taken] at run
      cases operand : item s₂ with
      | error fault s₃ =>
        rw [bind_of_error operand] at run
        cases run
      | ok right s₃ =>
        rw [bind_of_ok operand] at run
        obtain ⟨-, rfl⟩ := EStateM.Result.ok.inj run
        exact Nat.lt_of_le_of_lt (forward s₂ right s₃ operand) (took.length_lt (by simp))
    · rw [if_neg listed] at run
      cases run

/-- **A row** takes an operator and an operand and goes on, if there is an operator. -/
theorem rowFrom_eq : rowFrom kinds item left = (do
    let t ← peek
    if t.kind ∈ kinds then
      let _ ← advance
      let right ← item
      rowFrom kinds item (left.combine t.value right)
    else return left) := by
  rw [rowFrom, manyOf_eq (further_progresses forward noEnd), further, bind_assoc]
  simp only [bind_assoc]
  refine bind_congr fun t => ?_
  by_cases listed : t.kind ∈ kinds
  · simp only [if_pos listed, bind_assoc, pure_bind, rowFrom, List.foldl_cons]
    rfl
  · simp only [if_neg listed, pure_bind]
    rfl

/-- A row ends before what is none of its operators. -/
theorem rowFrom_stop (shown : peek s = .ok t s) (other : t.kind ∉ kinds) :
    rowFrom kinds item left s = .ok left s := by
  rw [rowFrom_eq forward noEnd, bind_of_ok shown, if_neg other]
  rfl

/-- A row goes on behind an operator. -/
theorem rowFrom_further (shown : peek s = .ok t s) (listed : t.kind ∈ kinds) :
    rowFrom kinds item left s = (do
      let _ ← advance
      let right ← item
      rowFrom kinds item (left.combine t.value right) : Recognizer Expr) s := by
  rw [rowFrom_eq forward noEnd, bind_of_ok shown, if_pos listed]

end Rows

end Stratified

end PascalFront.Recognizer
