/-!
# Binary floating-point numbers

Real literals denote numbers of the 64-bit binary format. Only two things are
ever done with one: it is read from a decimal, rounded to the nearest number
of the format, and it is written back. Neither needs arithmetic, so a number is
kept by its parts, and rounding is exact arithmetic on natural numbers.

The finite numbers are whole multiples of a least one, `2 ^ -1074`. A magnitude
has a mantissa of 53 bits and a scale, which says how often the mantissa is
doubled to count the least magnitude; below the scale zero there is nothing, so
that only there the mantissa may have fewer bits. With these rules each number
has one form.
-/

namespace PascalFront

/-- **The magnitude of a finite number**: `mantissa · 2 ^ (scale - 1074)`. -/
structure Magnitude where
  /-- The leading bits. -/
  mantissa : Nat
  /-- The power of two, counted from the least one. -/
  scale : Nat
  /-- A mantissa has at most 53 bits. -/
  mantissa_lt : mantissa < Nat.pow 2 53
  /-- The scale of the greatest finite numbers. -/
  scale_le : scale ≤ 2045
  /-- A mantissa has all its bits unless the scale is the least one. -/
  normal : scale = 0 ∨ Nat.pow 2 52 ≤ mantissa
  deriving DecidableEq, Repr

/-- **A binary floating-point number** of 64 bits. -/
inductive Binary64 where
  /-- A finite number. -/
  | finite (negative : Bool) (magnitude : Magnitude)
  /-- One of the two infinities. -/
  | infinite (negative : Bool)
  /-- No number. -/
  | nan
  deriving DecidableEq, Repr

/-- The whole number nearest to a quotient; a tie goes to the even one. -/
def roundDiv (num den : Nat) : Nat :=
  let whole := num / den
  let twice := 2 * (num % den)
  if twice > den ∨ (twice = den ∧ whole % 2 = 1) then whole + 1 else whole

/-- Rounding goes down to the whole part, or one up from it. -/
theorem roundDiv_bounds (num den : Nat) :
    num / den ≤ roundDiv num den ∧ roundDiv num den ≤ num / den + 1 := by
  unfold roundDiv
  dsimp only
  split <;> omega

namespace Magnitude

/-- The magnitude zero. -/
def zero : Magnitude := ⟨0, 0, by decide, by decide, .inl rfl⟩

/-- The scale at which a whole number has 53 bits, or zero if it has fewer. -/
def scaleOf (n : Nat) : Nat := n.log2 - 52

/-- At its scale a number has at most 53 bits. -/
theorem div_scaleOf_lt (n : Nat) : n / Nat.pow 2 (scaleOf n) < Nat.pow 2 53 := by
  apply Nat.div_lt_of_lt_mul
  rw [Nat.pow_eq, Nat.pow_eq, ← Nat.pow_add]
  exact Nat.lt_of_lt_of_le Nat.lt_log2_self
    (Nat.pow_le_pow_right (by decide) (by unfold scaleOf; omega))

/-- At a scale above zero a number has at least 53 bits. -/
theorem le_div_scaleOf {n : Nat} (h : scaleOf n ≠ 0) : Nat.pow 2 52 ≤ n / Nat.pow 2 (scaleOf n) := by
  have large : 52 < n.log2 := by unfold scaleOf at h; omega
  have notZero : n ≠ 0 := by rintro rfl; simp at large
  rw [Nat.pow_eq, Nat.pow_eq, Nat.le_div_iff_mul_le (Nat.two_pow_pos _), ← Nat.pow_add]
  exact Nat.le_trans (Nat.pow_le_pow_right (by decide) (by unfold scaleOf; omega))
    (Nat.log2_self_le notZero)

/-- The magnitude with a mantissa of at most `2 ^ 53`, which is halved at the
next scale; none if that scale is too great. -/
def ofRounded? (mantissa scale : Nat) (bound : mantissa ≤ Nat.pow 2 53)
    (normal : scale = 0 ∨ Nat.pow 2 52 ≤ mantissa) : Option Magnitude :=
  if full : mantissa = Nat.pow 2 53 then
    if h : scale + 1 ≤ 2045 then some ⟨Nat.pow 2 52, scale + 1, by decide, h, .inr (Nat.le_refl _)⟩
    else none
  else if h : scale ≤ 2045 then some ⟨mantissa, scale, by omega, h, normal⟩
  else none

/-- **The magnitude nearest to a quotient**; a tie goes to the even mantissa.
None if the quotient rounds beyond the greatest magnitude. -/
def ofQuotient? (num den : Nat) : Option Magnitude :=
  let units := num * Nat.pow 2 1074
  let scale := scaleOf (units / den)
  let step := den * Nat.pow 2 scale
  have whole : units / step = units / den / Nat.pow 2 scale := (Nat.div_div_eq_div_mul ..).symm
  have bounds := roundDiv_bounds units step
  ofRounded? (roundDiv units step) scale
    (by
      have upper : units / den / Nat.pow 2 scale < Nat.pow 2 53 := div_scaleOf_lt _
      omega)
    (by
      by_cases h : scale = 0
      · exact .inl h
      · have lower : Nat.pow 2 52 ≤ units / den / Nat.pow 2 scale := le_div_scaleOf h
        exact .inr (by omega))

end Magnitude

namespace Binary64

/-- **The number nearest to a quotient**, with a sign. What is too great is
infinite. -/
def ofQuotient (negative : Bool) (num den : Nat) : Binary64 :=
  match Magnitude.ofQuotient? num den with
  | some magnitude => .finite negative magnitude
  | none => .infinite negative

/-- The number nearest to `± digits · 10 ^ exponent`, where `digits` has at most
`count` digits. A decimal beyond `10 ^ 310` or below `10 ^ -330` needs no power
of ten to be decided. -/
def ofDecimal (negative : Bool) (digits count : Nat) (exponent : Int) : Binary64 :=
  if digits = 0 then .finite negative .zero
  else if exponent > 310 then .infinite negative
  else if exponent + count < -330 then .finite negative .zero
  else ofQuotient negative (digits * Nat.pow 10 exponent.toNat) (Nat.pow 10 (-exponent).toNat)

end Binary64

end PascalFront
