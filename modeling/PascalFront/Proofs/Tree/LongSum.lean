import PascalFront.Proofs.Tree.Height
/-!
# Long sums

A sum of many summands is read by going round a loop, and each round makes what was
read so far the left operand of the next operator. So the sum is nested no deeper than
one of two summands, and its tree is as high as the sum is long. Trees of accepted
programs are therefore of any height (`Program.not_exists_height`), although on every way
down only the steps to left operands are many (`Program.steps_le`).
-/

namespace PascalFront

open Grammar TokenStream

namespace Expr

/-- How many operators an expression has each as the left operand of the one before. -/
def leftLength : Expr → Nat
  | binary _ left _ _ => left.leftLength + 1
  | _ => 0

/-- Spans make no difference to that. -/
theorem leftLength_erased (e : Expr) : e.erased.leftLength = e.leftLength := by
  fun_induction leftLength e with
  | case1 operator left right span ih => rw [erased, leftLength, ih]
  | case2 e noOperator =>
    cases e with
    | binary operator left right span => exact (noOperator operator left right span rfl).elim
    | _ => simp only [erased, leftLength]

/-- There is a way down all these left operands. -/
theorem exists_way (e : Expr) : ∃ n, Node.Way (.expression e) e.leftLength 0 n := by
  fun_induction leftLength e with
  | case1 operator left right span ih =>
    obtain ⟨n, way⟩ := ih
    exact ⟨n, .left way⟩
  | case2 e _ => exact ⟨_, .here _⟩

end Expr

namespace LongSum

/-- A name that is added again and again. -/
def summand : Token := ⟨.identifier, "a", none, none⟩

/-- The sign between two summands. -/
def plus : Token := ⟨.plus, "+", none, none⟩

/-- The summand as an operand of sums. -/
def operand : Derivation (.level 3) :=
  ⟨.tighter (by decide), .part (.primary (by decide))
    (.part .variableName (.token summand rfl .nil) .nil) .nil⟩

/-- **A sum** with so many signs. -/
def sum : Nat → Derivation (.level 2)
  | 0 => ⟨.tighter (by decide), .cons operand .nil⟩
  | count + 1 => ⟨.operation (by decide), .cons (sum count)
    (.token plus rfl (.part (.nested (.level 3)) (.cons operand .nil) .nil))⟩

/-- What the summand denotes. -/
def leaf : Expr := .name ⟨"a", summand.span⟩

/-- What a sum denotes. -/
def value : Nat → Expr
  | 0 => leaf
  | count + 1 => (value count).combine "+" leaf

/-- How a sum is written. -/
def text : Nat → List Char
  | 0 => ['a']
  | count + 1 => text count ++ ['+', 'a']

theorem value?_sum (count : Nat) : (sum count).value? = some (value count) := by
  induction count with
  | zero => rfl
  | succ count ih =>
    have same : (sum (count + 1)).value? = (sum count).value?.map (·.combine "+" leaf) := by
      show (((sum count).value?.bind _).bind _) = _
      cases (sum count).value? <;> rfl
    rw [same, ih, value, Option.map_some]

/-- All signs but the last are in the left operand. -/
theorem leftLength_value (count : Nat) : (value count).leftLength = count := by
  induction count with
  | zero => rfl
  | succ count ih => rw [value, Expr.combine, Expr.leftLength, ih]

/-- **A sum is nested no deeper than one of two summands.** -/
theorem depth_sum (count : Nat) : (sum count).depth ≤ 1 := by
  induction count with
  | zero => decide
  | succ count ih =>
    have ih : 0 + (sum count).below.depth ≤ 1 := ih
    show 0 + max (0 + (sum count).below.depth) _ ≤ 1
    rw [Nat.zero_add, Nat.max_le]
    exact ⟨ih, by decide⟩

/-- The tokens of a longer sum. -/
theorem tokens_sum (count : Nat) : (sum (count + 1)).tokens = (sum count).tokens ++ [plus, summand] :=
  rfl

/-- Nothing but summands and signs is written. -/
theorem mem_text {count : Nat} {c : Char} (listed : c ∈ text count) : c = 'a' ∨ c = '+' := by
  induction count with
  | zero => exact .inl (List.mem_singleton.1 listed)
  | succ count ih =>
    rcases List.mem_append.1 listed with front | behind
    · exact ih front
    · simpa [or_comm] using behind

/-- No comment is opened in a sum. -/
theorem noComment_text (count : Nat) : '{' ∉ text count ∧ '(' ∉ text count :=
  ⟨fun listed => absurd (mem_text listed) (by decide), fun listed => absurd (mem_text listed) (by decide)⟩

/-- **A sum is laid out as it is written.** -/
theorem laidOut_text (count : Nat) : LaidOut ((sum count).tokens.map Token.content) (text count) := by
  induction count with
  | zero =>
    have one := @laidOut_of_read "a" [(.identifier, "a")] (by decide +kernel) (by decide +kernel)
    rwa [show "a".toList = text 0 by decide +kernel] at one
  | succ count ih =>
    have one := @laidOut_of_read "+a" [(.plus, "+"), (.identifier, "a")] (by decide +kernel)
      (by decide +kernel)
    rw [show "+a".toList = ['+', 'a'] by decide +kernel] at one
    rw [tokens_sum, List.map_append]
    refine ih.append one (noComment_text count) fun c first => ?_
    obtain rfl := Option.some.inj first
    exact ⟨by decide +kernel, by decide⟩

end LongSum

namespace Program

/-- **There are ways down of any length.** A sum that is assigned is accepted, and each
of its signs is a step to a left operand. -/
theorem exists_longer_way (count : Nat) :
    ∃ text p n, ofText text = .ok p ∧ Node.Way (.program p) count 2 n := by
  obtain ⟨d, tokens, value, depth⟩ := (LongSum.sum count).exists_loosest
  have laidOut := (LongSum.laidOut_text count).append Assigned.laidOut_back
    (LongSum.noComment_text count) Assigned.breaks_back
  rw [← tokens] at laidOut
  have shallow : d.depth ≤ 1 := depth ▸ LongSum.depth_sum count
  obtain ⟨p, target, e, span, accepted, statements, same⟩ := Assigned.ofText_of_laidOut laidOut
    fun u w said follow => d.findsValue (value.trans (LongSum.value?_sum count))
      (shallow.trans (by decide)) said follow
  have long : e.leftLength = count := by
    rw [← Expr.leftLength_erased, same, Expr.leftLength_erased, LongSum.leftLength_value]
  obtain ⟨n, way⟩ := e.exists_way
  rw [long] at way
  refine ⟨_, p, n, accepted, .child nofun (c := .statement (.assignment target e span)) ?_
    (.child nofun (c := .expression e) ?_ way)⟩
  · simp [Node.children, Node.parts, statements]
  · simp [Node.children, Node.declared, Node.parts]

/-- **No limit bounds the height of the tree** of an accepted program. -/
theorem not_exists_height :
    ¬ ∃ bound : Nat, ∀ (text : String) (p : Program) (left others : Nat) (n : Node),
      ofText text = .ok p → Node.Way (.program p) left others n → left + others ≤ bound := by
  rintro ⟨bound, bounded⟩
  obtain ⟨text, p, n, accepted, way⟩ := exists_longer_way bound
  have := bounded text p _ _ n accepted way
  omega

end Program

end PascalFront
