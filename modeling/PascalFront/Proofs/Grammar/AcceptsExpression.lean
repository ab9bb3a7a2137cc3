import PascalFront.Proofs.Grammar.Accepts
import PascalFront.Proofs.Grammar.ReadsExpression
/-!
# Expressions are accepted

The loop that goes through operators takes an expression of a level as soon as
all its operators are tight enough (`reaches_climb`): behind the tokens of such an
expression it stands where it would also stand behind an operand, and a
comparison has been read only if the expression is one. This is shown by
induction on the derivation, which goes down to the left as the operators group.
-/

namespace PascalFront

open Grammar TokenStream

/-- Whether a token of a kind may follow an expression of a level: it is no
parenthesis, which would make a call of a name, and no operator that could be
taken as well. -/
def Kind.mayFollow (rank : Nat) (kind : Kind) : Bool :=
  kind ≠ .openParen && kind.rank?.all (· < rank)

/-- What may follow an expression may follow one of a tighter level. -/
theorem Kind.mayFollow_mono {rank rank' : Nat} {kind : Kind} (h : kind.mayFollow rank)
    (tighter : rank ≤ rank') : kind.mayFollow rank' := by
  obtain ⟨other, looser⟩ := Bool.and_eq_true_iff.1 h
  refine Bool.and_eq_true_iff.2 ⟨other, ?_⟩
  cases isRank : kind.rank? with
  | none => rfl
  | some rank'' =>
    rw [isRank] at looser
    exact decide_eq_true (Nat.lt_of_lt_of_le (of_decide_eq_true looser) tighter)

/-- An operator may follow an expression that is not of a looser level. -/
theorem Kind.mayFollow_of_rank {rank rank' : Nat} {kind : Kind} (isRank : kind.rank? = some rank)
    (looser : rank < rank') : kind.mayFollow rank' := by
  refine Bool.and_eq_true_iff.2 ⟨decide_eq_true ?_, ?_⟩
  · rintro rfl
    exact absurd isRank (by simp [rank?, isComparison])
  · rw [isRank]
    exact decide_eq_true looser

/-- Behind the operand of a sign every operator may follow. -/
theorem Kind.mayFollow_signRank {kind : Kind} (other : kind ≠ .openParen) :
    kind.mayFollow Kind.signRank := by
  refine Bool.and_eq_true_iff.2 ⟨decide_eq_true other, ?_⟩
  cases isRank : kind.rank? with
  | none => rfl
  | some rank => exact decide_eq_true (Nat.lt_of_le_of_lt (rank?_bounds isRank).2 (by decide))

namespace Recognizer

variable {room : Nat} {s s' : TokenStream} {w : List Token}

/-- **Recognizers of expressions**: one for each rank, which accepts the
expressions of that level. -/
def AcceptsExpressions (room : Nat) (inner : Nat → Recognizer Expr) : Prop :=
  ∀ rank ≤ 4, Accepts (.nested (.level rank)) room (Kind.mayFollow rank) (inner rank)

/-! ## Operands -/

/-- The arguments of a call are accepted. -/
theorem accepts_arguments {inner : Recognizer Expr} (reads : Recognizes .expression room inner)
    (accepts : Accepts .expression room (Kind.mayFollow 0) inner) :
    Accepts .arguments room (fun _ => true) (arguments inner) := by
  intro items rule below w s _ ready _
  cases rule with
  | noArguments => exact .by_rule (.accept ready fun others s' ready => .done ready)
  | someArguments =>
    refine .by_rule (.skip (by decide) ready (fun closed => ?_) fun s' ready => ?_)
    · have listed := below.nextKind_mem expressionKinds ⟨_, fun _ => id, rfl⟩ w
      rw [closed] at listed
      exact absurd listed (by decide)
    · refine .part (accepts_separated reads accepts rfl) ready
        (fun others _ => by rw [others.nextKind_token]; rfl) fun a others s' ready => ?_
      exact .expect ready fun t others s' ready => .done ready

/-- An expression without an operator outside of parentheses is accepted. -/
theorem accepts_primary {inner : Nat → Recognizer Expr} (reads : RecognizesExpressions room inner)
    (accepts : AcceptsExpressions room inner) :
    Accepts .primary room (· ≠ .openParen) (operand inner) := by
  have readsWhole : Recognizes .expression room (inner 0) := fun s =>
    (reads 0 (by decide) s).mono fun _ _ _ => And.left
  have whole : Accepts .expression room (Kind.mayFollow 0) (inner 0) := accepts 0 (by decide)
  intro items rule below w s _ ready follow
  cases rule with
  | number =>
    cases below with
    | token t fits others =>
      cases others
      obtain ⟨t', s', run, isKind, shown, holds⟩ := peek_of_holds ready.holds
      obtain rfl : t = t' := shown t rfl
      obtain ⟨s'', run', holds'⟩ := advance_of_holds holds
      have isKind : t.kind = .number := fits
      rw [operand, bind_of_ok run, isKind]
      dsimp only
      rw [bind_of_ok run', numberLiteral]
      cases found : Number.ofLiteral? t.value.toList with
      | some value => exact holds'
      | none =>
        refine Exceeds.literal ?_ _
        rw [Grammar.Derivation.value?, Forest.values?, Forest.values?]
        simp [Rule.denote, found]
  | text | trueLiteral | falseLiteral =>
    refine .by_rule (.peek ready fun t s' isKind ready => ?_)
    rw [isKind.trans (below.nextKind_token w)]
    exact .advance ready fun _ others s' _ ready => .done ready
  | variableName =>
    refine .by_rule (.peek ready fun t s' isKind ready => ?_)
    rw [isKind.trans (below.nextKind_token w)]
    refine .advance ready fun _ others s' _ ready => ?_
    refine .skip (by decide) ready ?_ fun s'' ready => .done ready
    cases others
    exact of_decide_eq_true follow
  | call =>
    refine .by_rule (.peek ready fun t s' isKind ready => ?_)
    rw [isKind.trans (below.nextKind_token w)]
    refine .advance ready fun _ others s' _ ready => .accept ready fun others s' ready => ?_
    refine .part (accepts_arguments readsWhole whole) ready (fun _ _ => rfl)
      fun a others s' ready => ?_
    exact .done ready
  | parenthesized =>
    refine .by_rule (.peek ready fun t s' isKind ready => ?_)
    rw [isKind.trans (below.nextKind_token w)]
    refine .advance ready fun _ others s' _ ready => ?_
    refine .part whole ready (fun others _ => by rw [others.nextKind_token]; rfl)
      fun a others s' ready => ?_
    exact .expect ready fun _ others s' ready => .done ready

/-- **An operand is accepted.** -/
theorem accepts_operand {inner : Nat → Recognizer Expr} (reads : RecognizesExpressions room inner)
    (accepts : AcceptsExpressions room inner) :
    Accepts (.level 4) room (· ≠ .openParen) (operand inner) := by
  intro items rule below w s _ ready follow
  cases rule with
  | tighter isRank => exact absurd isRank (by decide)
  | operation isRank => exact absurd isRank.2 (by decide)
  | signed isRank =>
    refine .by_rule (.peek ready fun t s' isKind ready => ?_)
    have follow' : ∀ others : Forest [], others.InPlace true w.head? →
        (nextKind (others.tokens ++ w)).mayFollow Kind.signRank := by
      intro others _
      cases others
      exact Kind.mayFollow_signRank (of_decide_eq_true follow)
    cases below with
    | token t' fits others =>
      have isKind : t.kind = t'.kind := isKind
      rcases fits with fits | fits
      all_goals
        rw [isKind.trans fits]
        refine .advance ready fun _ others s' _ ready => ?_
        exact .part (accepts 4 (by decide)) ready follow' fun a others s' ready => .done ready
  | primary => exact .by_rule (.single (accepts_primary reads accepts) ready follow)

/-! ## Operators -/

section Operators

variable {inner : Nat → Recognizer Expr} {least rank : Nat} {compared : Bool} {t : Token}

/-- No operator is found where what comes next may follow. -/
theorem operation_of_mayFollow (inner : Nat → Recognizer Expr) (compared : Bool)
    (holds : Holds w s) (follow : (nextKind w).mayFollow least) :
    ∃ s', operation inner least compared s = .ok none s' ∧ Holds w s' := by
  obtain ⟨t, s', run, isKind, -, holds'⟩ := peek_of_holds holds
  refine ⟨s', ?_, holds'⟩
  rw [operation, bind_of_ok run, isKind]
  have looser := (Bool.and_eq_true_iff.1 follow).2
  cases isRank : (nextKind w).rank? with
  | none => rfl
  | some rank =>
    rw [isRank] at looser
    have looser : rank < least := of_decide_eq_true looser
    dsimp only
    rw [if_pos looser]
    rfl

/-- **An operator is found** with its right operand, if it is tight enough and
nothing has been compared before. -/
theorem finds_operation (accepts : AcceptsExpressions room inner)
    (isRank : t.kind.rank? = some rank) (tight : least ≤ rank) {items : List Item}
    {rule : Rule (.nested (.level (rank + 1))) items} {below : Forest items}
    (mayStand : rule.MayStand true w.head?) (place : below.InPlace true w.head?)
    (holds : Holds (t :: (below.tokens ++ w)) s) (follow : (nextKind w).mayFollow (rank + 1)) :
    Outcome (fun found s' => ∃ a, found = some (a, t.kind.isComparison) ∧ Holds w s')
      (fun fault _ => Exceeds room (Grammar.Derivation.mk rule below).depth
        (Grammar.Derivation.mk rule below).value? fault)
      (operation inner least false s) := by
  obtain ⟨t', s₁, run, -, shown, holds₁⟩ := peek_of_holds holds
  obtain rfl : t = t' := shown t rfl
  obtain ⟨s₂, run', holds₂⟩ := advance_of_holds holds₁
  have bounds := Kind.rank?_bounds isRank
  rw [operation, bind_of_ok run, isRank]
  dsimp only
  rw [if_neg (Nat.not_lt.2 tight), Bool.and_false]
  show Outcome _ _ ((advance >>= _) s₁)
  rw [bind_of_ok run']
  refine Outcome.bind (accepts (rank + 1) (by omega) _ rule below w s₂ mayStand ⟨place, holds₂⟩ follow)
    (fun _ _ => id) fun a s₃ holds₃ => ?_
  exact ⟨_, by rw [Bool.false_or], holds₃⟩

/-- **The loop is reached behind an expression** of a level: the recognizer stands there as it
would behind an operand, and if a comparison has been read the level is that of comparisons. Or a
limit is reached. -/
inductive Reaches (inner : Nat → Recognizer Expr) (room least : Nat)
    (d : Grammar.Derivation (.level rank)) (w : List Token) (s : TokenStream) : Prop where
  /-- The expression exceeds a limit. -/
  | limit {fault : Fault} {s' : TokenStream} (run : expressionBy inner least s = .error fault s')
      (exceeds : Exceeds room d.depth d.value? fault) : Reaches inner room least d w s
  /-- The loop goes on behind the tokens of the expression. -/
  | loop {left : Expr} {compared : Bool} {s' : TokenStream}
      (run : expressionBy inner least s = climb inner least left compared s') (holds : Holds w s')
      (comparison : compared = true → rank ≤ 1) : Reaches inner room least d w s

/-- The loop is reached behind an operand. -/
theorem reaches_operand (reads : RecognizesExpressions room inner)
    (accepts : AcceptsExpressions room inner) {items : List Item} (rule : Rule (.level 4) items)
    {below : Forest items} (mayStand : rule.MayStand true w.head?) (ready : below.Ready w s)
    (other : nextKind w ≠ .openParen) : Reaches inner room least ⟨rule, below⟩ w s := by
  have found := accepts_operand reads accepts _ rule below w s mayStand ready (decide_eq_true other)
  cases run : operand inner s with
  | error fault s' =>
    rw [run] at found
    exact .limit (by rw [expressionBy_eq, bind_of_error run]) found
  | ok left s' =>
    rw [run] at found
    exact .loop (by rw [expressionBy_eq, bind_of_ok run]) found (by simp)

/-- Behind an expression of a tighter level it is reached as well. -/
theorem Reaches.tighter {d : Grammar.Derivation (.level (rank + 1))} {low : rank < 4}
    (h : Reaches inner room least d w s) :
    Reaches inner room least ⟨.tighter low, .cons d .nil⟩ w s := by
  cases h with
  | limit run exceeds => exact .limit run exceeds.of_part.by_rule
  | loop run holds comparison => exact .loop run holds fun h => Nat.le_of_succ_le (comparison h)

/-- **It is reached again behind an operator** with its right operand. -/
theorem Reaches.operator (reads : RecognizesExpressions room inner)
    (accepts : AcceptsExpressions room inner) {bounds : 1 ≤ rank ∧ rank ≤ 3}
    {left : Grammar.Derivation (.level (Symbol.leftRank rank))}
    {fits : Terminal.Fits (.operator rank bounds) t}
    {right : Grammar.Derivation (.nested (.level (rank + 1)))}
    (h : Reaches inner room least left (t :: (right.tokens ++ w)) s) (tight : least ≤ rank)
    (place : right.InPlace true w.head?) (follow : (nextKind w).mayFollow (rank + 1)) :
    Reaches inner room least
      ⟨.operation bounds, .cons left (.token t fits (.cons right .nil))⟩ w s := by
  cases h with
  | limit run exceeds => exact .limit run exceeds.of_part.by_rule
  | @loop _ compared s' run holds comparison =>
    -- the left operand is no comparison, so the operator may be one
    obtain rfl : compared = false := Bool.eq_false_iff.2 fun isTrue =>
      Nat.not_le.2 (Symbol.one_lt_leftRank bounds.1) (comparison isTrue)
    have isOperator : t.kind.rank? = some rank := fits
    have found := finds_operation accepts isOperator tight place.1 place.2 holds follow
    rw [climb_eq reads] at run
    cases run' : operation inner least false s' with
    | error fault s'' =>
      rw [run'] at found
      exact .limit (run.trans (bind_of_error run')) found.of_part.behind_token.behind_part.by_rule
    | ok found_ s'' =>
      rw [run'] at found
      obtain ⟨⟨operator, right⟩, rfl, holds'⟩ := found
      refine .loop (run.trans (bind_of_ok run')) holds' fun isTrue => ?_
      exact Nat.le_of_eq ((Kind.isComparison_iff isOperator).1 isTrue)

/-- **The invariant of the loop**: it is reached behind every expression of a level. -/
theorem reaches_climb (reads : RecognizesExpressions room inner)
    (accepts : AcceptsExpressions room inner) {items : List Item} (rule : Rule (.level rank) items)
    (below : Forest items) (w : List Token) (s : TokenStream) (mayStand : rule.MayStand true w.head?)
    (ready : below.Ready w s) (follow : (nextKind w).mayFollow (rank + 1)) (tight : least ≤ rank)
    (isRank : rank ≤ 4) : Reaches inner room least ⟨rule, below⟩ w s := by
  -- the left operand is a part of the derivation, and the loop goes on behind it
  induction size : sizeOf below using Nat.strongRecOn generalizing items rank w s with
  | _ _ ih =>
    subst size
    cases rule with
    | signed four | primary four =>
      obtain rfl : rank = 4 := Nat.le_antisymm isRank four
      exact reaches_operand reads accepts _ mayStand ready
        (of_decide_eq_true (Bool.and_eq_true_iff.1 follow).1)
    | tighter low =>
      cases below with
      | part rule below nothing =>
        cases nothing
        obtain ⟨mayStand, inner, -⟩ := ready.part
        have tighter := Kind.mayFollow_mono follow (Nat.le_succ (rank + 1))
        exact (ih _ (below.sizeOf_below_lt rule .nil) rule below w s mayStand inner tighter
          (by omega) (by omega) rfl).tighter
    | operation bounds =>
      cases below with
      | part leftRule leftBelow others =>
      cases others with
      | token t fits others =>
      cases others with
      | part rightRule rightBelow nothing =>
        cases nothing
        obtain ⟨leftMayStand, leftReady, rightMayStand, rightPlace, -⟩ := ready.part
        have isOperator : t.kind.rank? = some rank := fits
        have leftTight := Symbol.le_leftRank rank
        have front := Kind.mayFollow_of_rank isOperator (Nat.lt_succ_of_le leftTight)
        have reached := ih _ (leftBelow.sizeOf_below_lt leftRule _) leftRule leftBelow _ s
          leftMayStand leftReady front (Nat.le_trans tight leftTight) (Symbol.leftRank_le isRank) rfl
        rw [Forest.tokens, Forest.tokens, Forest.tokens, List.append_nil] at reached
        have place : (Grammar.Derivation.mk rightRule rightBelow).InPlace true w.head? :=
          ⟨rightMayStand, rightPlace⟩
        exact reached.operator reads accepts tight place follow

/-- An expression is accepted if the expressions in it are. -/
theorem accepts_expressionBy (reads : RecognizesExpressions room inner)
    (accepts : AcceptsExpressions room inner) (isRank : least ≤ 4) :
    Accepts (.level least) room (Kind.mayFollow least) (expressionBy inner least) := by
  intro items rule below w s mayStand ready follow
  have looser := Kind.mayFollow_mono follow (Nat.le_succ least)
  cases reaches_climb reads accepts rule below w s mayStand ready looser (Nat.le_refl least) isRank with
  | limit run exceeds =>
    rw [run]
    exact exceeds
  | @loop left compared s' run holds =>
    obtain ⟨s'', run', holds'⟩ := operation_of_mayFollow inner compared holds follow
    rw [run, climb_eq reads, bind_of_ok run']
    exact holds'

end Operators

/-- **Expressions are accepted** with any number of levels of nesting to spare. -/
theorem accepts_expressionIn (room : Nat) : AcceptsExpressions room (expressionIn room) := by
  induction room with
  | zero => exact fun _ _ => accepts_nothing
  | succ room ih =>
    exact fun rank isRank => (accepts_expressionBy (reads_expressionIn room) ih isRank).nested

end Recognizer

end PascalFront
