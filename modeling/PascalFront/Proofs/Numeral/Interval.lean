import Mathlib.Algebra.Order.Field.Power
import Mathlib.Data.Rat.Cast.Order
import Mathlib.Tactic
import PascalFront.Numeral.Shortest
/-!
# Decimals that stand for one magnitude only

Around each magnitude there is the interval of the numbers that are nearer to it than to any
other. The intervals of two magnitudes have no number in common: where they meet, the common
end belongs to neither or to one of them only, since of two neighbours one has an odd mantissa
(`Magnitude.eq_of_holds`).

The decimal that is found for a magnitude lies in its interval
(`Magnitude.holds_search_around`). For a grid of decimals that is finer than the interval has a
point in it, and with seventeen digits the grid is fine enough: an interval is longer than the
`10 ^ 16`th part of its magnitude.
-/

namespace PascalFront

namespace Binary64

namespace Interval

/-- **A number lies in an interval.** -/
def Holds (i : Interval) (x : ℚ) : Prop :=
  if i.closed then (i.low : ℚ) ≤ x * i.den ∧ x * i.den ≤ i.high
  else (i.low : ℚ) < x * i.den ∧ x * i.den < i.high

variable {i : Interval} {x : ℚ}

theorem Holds.bounds (h : i.Holds x) : (i.low : ℚ) ≤ x * i.den ∧ x * i.den ≤ i.high := by
  unfold Holds at h
  split at h
  · exact h
  · exact ⟨h.1.le, h.2.le⟩

/-- Whether a quotient lies in an interval is decided without dividing. -/
theorem contains_iff {num den : Nat} (positive : 0 < den) :
    i.contains num den = true ↔ i.Holds (num / den) := by
  have den_pos : (0 : ℚ) < den := by exact_mod_cast positive
  have scaled : (num : ℚ) / den * i.den = num * i.den / den := by ring
  unfold contains Holds
  split
  · rw [Bool.and_eq_true, decide_eq_true_iff, decide_eq_true_iff, scaled, le_div_iff₀ den_pos,
      div_le_iff₀ den_pos]
    norm_cast
  · rw [Bool.and_eq_true, decide_eq_true_iff, decide_eq_true_iff, scaled, lt_div_iff₀ den_pos,
      div_lt_iff₀ den_pos]
    norm_cast

/-! ## Grids of decimals -/

/-- The step of a grid as a quotient. -/
theorem ten_zpow (exponent : ℤ) :
    (10 : ℚ) ^ exponent = (10 ^ exponent.toNat : ℕ) / (10 ^ (-exponent).toNat : ℕ) := by
  rcases le_total 0 exponent with up | down
  · obtain ⟨n, rfl⟩ := Int.eq_ofNat_of_zero_le up
    simp
  · obtain ⟨n, negative⟩ := Int.eq_ofNat_of_zero_le (Int.neg_nonneg_of_nonpos down)
    obtain rfl : exponent = -(n : ℤ) := by omega
    simp

/-- **A grid point that is found lies in the interval.** -/
theorem holds_of_onGrid? {exponent : ℤ} {digits : Nat} (found : i.onGrid? exponent = some digits) :
    i.Holds (digits * 10 ^ exponent) := by
  have value : (digits : ℚ) * 10 ^ exponent =
      (digits * 10 ^ exponent.toNat : ℕ) / (10 ^ (-exponent).toNat : ℕ) := by
    rw [ten_zpow]
    push_cast
    ring
  rw [value, ← contains_iff (Nat.pow_pos (by decide))]
  unfold onGrid? at found
  have nearest := roundDiv_bounds (i.value * Nat.pow 10 (-exponent).toNat)
    (i.den * Nat.pow 10 exponent.toNat)
  dsimp only at found
  split at found
  · rename_i below above
    obtain rfl := Option.some.inj found
    obtain same | same : _ = _ ∨ _ = _ := by
      have := nearest.2
      exact (Nat.eq_or_lt_of_le nearest.1).imp Eq.symm fun less => Nat.le_antisymm this less
    · rw [same]
      exact below
    · rw [same]
      exact above
  · rename_i below _
    obtain rfl := Option.some.inj found
    exact below
  · rename_i _ above
    obtain rfl := Option.some.inj found
    exact above
  · exact absurd found (by simp)

/-- **A grid that is finer than the interval has a point in it**, next to what lies between the
ends. -/
theorem isSome_onGrid? {exponent : ℤ} (positive : 0 < i.den) (low : i.low < i.value)
    (high : i.value < i.high) (fine : i.den * (10 : ℚ) ^ exponent < i.high - i.low) :
    (i.onGrid? exponent).isSome := by
  unfold onGrid?
  dsimp only [Nat.pow_eq]
  set up := 10 ^ exponent.toNat
  set down := 10 ^ (-exponent).toNat with down_eq
  have down_pos : 0 < down := Nat.pow_pos (by decide)
  have step_pos : 0 < i.den * up := Nat.mul_pos positive (Nat.pow_pos (by decide))
  have narrow : i.den * up + i.low * down < i.high * down := by
    have down_pos' : (0 : ℚ) < down := by exact_mod_cast down_pos
    rw [ten_zpow, ← mul_div_assoc, div_lt_iff₀ down_pos', sub_mul] at fine
    have := add_lt_of_lt_sub_right fine
    exact_mod_cast this
  set below := i.value * down / (i.den * up)
  have below_le : below * up * i.den ≤ i.value * down := by
    rw [Nat.mul_assoc, Nat.mul_comm up]
    exact Nat.div_mul_le_self ..
  have lt_above : i.value * down < (below + 1) * up * i.den := by
    rw [Nat.mul_assoc, Nat.mul_comm up, Nat.mul_comm (below + 1)]
    exact Nat.lt_mul_div_succ _ step_pos
  have low' : i.low * down < i.value * down := Nat.mul_lt_mul_of_pos_right low down_pos
  have high' : i.value * down < i.high * down := Nat.mul_lt_mul_of_pos_right high down_pos
  have inside (point : Nat) (above : i.low * down < point * i.den)
      (under : point * i.den < i.high * down) : i.contains point down = true := by
    unfold contains
    split <;> rw [Bool.and_eq_true, decide_eq_true_iff, decide_eq_true_iff] <;> omega
  -- If the point below is not above the lower end, the next one is not beyond the upper end.
  by_cases enough : i.low * down < below * up * i.den
  · rw [inside (below * up) enough (by omega)]
    split <;> simp_all
  · have next : (below + 1) * up * i.den = below * up * i.den + i.den * up := by ring
    rw [inside ((below + 1) * up) (by omega) (by omega)]
    split <;> simp_all

/-- A number is at least the power of ten that has as many digits. -/
theorem ten_pow_le {n : Nat} (notZero : 0 < n) : 10 ^ ((decimalDigits n).length - 1) ≤ n := by
  by_cases single : (decimalDigits n).length - 1 = 0
  · rw [single]
    exact notZero
  · refine Nat.le_of_not_lt fun less => ?_
    have := (Nat.length_toDigits_le_iff (n := n) (by decide) (Nat.pos_of_ne_zero single)).2 less
    unfold decimalDigits at *
    omega

/-- A number is less than the power of ten that has one digit more. -/
theorem lt_ten_pow (n : Nat) : n < 10 ^ (decimalDigits n).length :=
  (Nat.length_toDigits_le_iff (by decide) Nat.length_toDigits_pos).1 le_rfl

/-- **The leading digit of a number does not count more than the number.** -/
theorem ten_zpow_leading_le (positive : 0 < i.den) (value : 0 < i.value) :
    i.den * (10 : ℚ) ^ i.leading ≤ i.value := by
  unfold leading
  split
  · rename_i whole
    have enough := ten_pow_le (Nat.div_pos whole positive)
    have some_digit := Nat.length_toDigits_pos (b := 10) (n := i.value / i.den)
    set count := (decimalDigits (i.value / i.den)).length
    obtain ⟨n, count_eq⟩ : ∃ n, count = n + 1 := Nat.exists_eq_succ_of_ne_zero some_digit.ne'
    rw [count_eq] at enough ⊢
    have : 10 ^ n * i.den ≤ i.value := (Nat.le_div_iff_mul_le positive).1 enough
    rw [Nat.cast_succ, add_sub_cancel_right, zpow_natCast, mul_comm]
    exact_mod_cast this
  · dsimp only
    set count := (decimalDigits (i.den / i.value)).length
    split
    · rename_i enough
      have some_digit := Nat.length_toDigits_pos (b := 10) (n := i.den / i.value)
      obtain ⟨n, count_eq⟩ : ∃ n, count = n + 1 := Nat.exists_eq_succ_of_ne_zero some_digit.ne'
      rw [count_eq] at enough ⊢
      rw [show (1 : ℤ) - (n + 1 : ℕ) = -(n : ℤ) by omega, zpow_neg, zpow_natCast,
        ← div_eq_mul_inv, div_le_iff₀ (by positivity)]
      exact_mod_cast enough
    · have less : i.den < 10 ^ count * i.value :=
        (Nat.div_lt_iff_lt_mul value).1 (lt_ten_pow _)
      rw [zpow_neg, zpow_natCast, ← div_eq_mul_inv, div_le_iff₀ (by positivity), mul_comm]
      exact_mod_cast less.le

/-- What a search finds lies in the interval, provided that one of the grids it tries is fine
enough. -/
theorem holds_search {leading : ℤ} (step : Nat) {tries count : Nat} (from_count : count ≤ step)
    (within : step < count + tries) (found : (i.onGrid? (leading - step)).isSome) :
    i.Holds ((i.search leading tries count).1 * 10 ^ (i.search leading tries count).2) := by
  induction tries generalizing count with
  | zero => omega
  | succ tries ih =>
    unfold search
    dsimp only
    split
    · rename_i digits on_grid
      exact holds_of_onGrid? on_grid
    · rename_i off_grid
      refine ih ?_ (by omega)
      -- The grid that has a point is not the one that was tried.
      have : step ≠ count := by
        rintro rfl
        rw [off_grid] at found
        exact absurd found (by simp)
      omega

end Interval

end Binary64

/-! ## The intervals around magnitudes

The ends of all intervals are whole multiples of a quarter of the least magnitude. -/

namespace Magnitude

open Binary64 Interval

/-- How many binary places behind the point a quarter of the least magnitude has. -/
@[irreducible] def places : Nat := 1076

/-- The lower end of the interval around a magnitude, in quarters of the least one. -/
def lower (m : Magnitude) : Nat :=
  (4 * m.mantissa - if m.mantissa = Nat.pow 2 52 ∧ m.scale ≠ 0 then 1 else 2) * 2 ^ m.scale

/-- The upper end of the interval around a magnitude, in quarters of the least one. -/
def upper (m : Magnitude) : Nat := (4 * m.mantissa + 2) * 2 ^ m.scale

variable (m n : Magnitude)

theorem around_den_pos : 0 < (around m).den := Nat.two_pow_pos _

/-- What the ends of an interval are counted in, brought to the same for all. -/
theorem quarter_mul_two_pow :
    Nat.pow 2 (m.scale - 1076) * 2 ^ places = 2 ^ m.scale * (around m).den := by
  have den : (around m).den = 2 ^ (1076 - m.scale) := by simp only [around, Nat.pow_eq]
  have exponents : m.scale - 1076 + places = m.scale + (1076 - m.scale) := by
    unfold places
    omega
  rw [den, Nat.pow_eq, ← pow_add, ← pow_add, exponents]

theorem low_mul_two_pow : (around m).low * 2 ^ places = m.lower * (around m).den := by
  rw [lower, Nat.mul_assoc, ← quarter_mul_two_pow, ← Nat.mul_assoc]
  simp only [around]

theorem high_mul_two_pow : (around m).high * 2 ^ places = m.upper * (around m).den := by
  rw [upper, Nat.mul_assoc, ← quarter_mul_two_pow, ← Nat.mul_assoc]
  simp only [around]

variable {m n} {x : ℚ}

/-- **The numbers in the interval around a magnitude**, in quarters of the least one. -/
theorem holds_around :
    (around m).Holds x ↔
      if m.mantissa % 2 = 0 then m.lower ≤ x * 2 ^ places ∧ x * 2 ^ places ≤ m.upper
      else m.lower < x * 2 ^ places ∧ x * 2 ^ places < m.upper := by
  have ratio_pos : (0 : ℚ) < (around m).den / 2 ^ places :=
    div_pos (by exact_mod_cast around_den_pos m) (by positivity)
  have low : ((around m).low : ℚ) = m.lower * ((around m).den / 2 ^ places) := by
    rw [← mul_div_assoc, eq_div_iff (by positivity)]
    exact_mod_cast low_mul_two_pow m
  have high : ((around m).high : ℚ) = m.upper * ((around m).den / 2 ^ places) := by
    rw [← mul_div_assoc, eq_div_iff (by positivity)]
    exact_mod_cast high_mul_two_pow m
  have point : x * (around m).den = x * 2 ^ places * ((around m).den / 2 ^ places) := by
    rw [mul_assoc, mul_div_cancel₀ _ (by positivity)]
  have closed : ((around m).closed = true) = (m.mantissa % 2 = 0) := decide_eq_true_eq
  simp only [Holds, closed, low, high, point, mul_le_mul_iff_left₀ ratio_pos,
    mul_lt_mul_iff_left₀ ratio_pos]

/-- Of two magnitudes of the same scale the interval around the less lies below the other, and
where the two meet one of the mantissas is odd. -/
theorem upper_le_lower_of_mantissa (same : m.scale = n.scale) (less : m.mantissa < n.mantissa) :
    m.upper ≤ n.lower ∧
      (m.upper = n.lower → m.mantissa % 2 = 1 ∨ n.mantissa % 2 = 1) := by
  unfold upper lower
  rw [same]
  have step_pos : 0 < 2 ^ n.scale := Nat.two_pow_pos _
  refine ⟨Nat.mul_le_mul_right _ (by split <;> omega), fun meet => ?_⟩
  have := Nat.eq_of_mul_eq_mul_right step_pos meet
  split at this <;> omega

/-- The interval around a magnitude lies below that around one of a greater scale, and where
the two meet the mantissa of the first is odd. -/
theorem upper_le_lower_of_scale (less : m.scale < n.scale) :
    m.upper ≤ n.lower ∧ (m.upper = n.lower → m.mantissa % 2 = 1) := by
  have full : 2 ^ 52 ≤ n.mantissa := n.normal.resolve_left (by omega)
  have bounded : m.mantissa < 2 ^ 53 := m.mantissa_lt
  have step_pos : 0 < 2 ^ m.scale := Nat.two_pow_pos _
  have doubled : 2 * 2 ^ m.scale ≤ 2 ^ n.scale := by
    rw [← Nat.pow_succ']
    exact Nat.pow_le_pow_right (by decide) less
  -- The lower end is nearest to the other magnitude where that is a power of two.
  have lower_ge : (2 ^ 54 - 1) * (2 * 2 ^ m.scale) ≤ n.lower :=
    Nat.mul_le_mul (by rw [Nat.pow_eq]; split <;> omega) doubled
  have upper_le : m.upper ≤ (2 ^ 54 - 1) * (2 * 2 ^ m.scale) := by
    rw [← Nat.mul_assoc]
    exact Nat.mul_le_mul_right _ (by omega)
  refine ⟨upper_le.trans lower_ge, fun meet => ?_⟩
  have greatest : (4 * m.mantissa + 2) * 2 ^ m.scale =
      (2 ^ 54 - 1) * 2 * 2 ^ m.scale := by
    rw [Nat.mul_assoc (2 ^ 54 - 1)]
    exact le_antisymm upper_le (lower_ge.trans meet.ge)
  have := Nat.eq_of_mul_eq_mul_right step_pos greatest
  omega

/-- **No number lies in the intervals around two magnitudes.** -/
theorem eq_of_holds (inFirst : (around m).Holds x) (inSecond : (around n).Holds x) : m = n := by
  -- Of two magnitudes one comes before the other, and a common number can only be the common end.
  have apart {m n : Magnitude} (inFirst : (around m).Holds x) (inSecond : (around n).Holds x)
      (ends : m.upper ≤ n.lower ∧
        (m.upper = n.lower → m.mantissa % 2 = 1 ∨ n.mantissa % 2 = 1)) : False := by
    obtain ⟨below, odd⟩ := ends
    have below' : (m.upper : ℚ) ≤ n.lower := by exact_mod_cast below
    rw [holds_around] at inFirst inSecond
    have meet : m.upper = n.lower := by
      refine le_antisymm below ?_
      have : (n.lower : ℚ) ≤ m.upper := by split at inFirst <;> split at inSecond <;> linarith
      exact_mod_cast this
    rw [meet] at inFirst
    rcases odd meet with odd | odd
    · rw [if_neg (by omega)] at inFirst
      split at inSecond <;> linarith
    · rw [if_neg (by omega)] at inSecond
      split at inFirst <;> linarith
  rcases lt_trichotomy m.scale n.scale with less | same | greater
  · have ends := upper_le_lower_of_scale less
    exact (apart inFirst inSecond ⟨ends.1, fun meet => .inl (ends.2 meet)⟩).elim
  · rcases lt_trichotomy m.mantissa n.mantissa with less | equal | greater
    · exact (apart inFirst inSecond (upper_le_lower_of_mantissa same less)).elim
    · cases m
      cases n
      simp_all
    · exact (apart inSecond inFirst (upper_le_lower_of_mantissa same.symm greater)).elim
  · have ends := upper_le_lower_of_scale greater
    exact (apart inSecond inFirst ⟨ends.1, fun meet => .inl (ends.2 meet)⟩).elim

/-! ## Seventeen digits suffice -/

/-- A magnitude lies inside its interval, which is longer than its `10 ^ 16`th part. -/
theorem around_bounds (notZero : m.mantissa ≠ 0) :
    (around m).low < (around m).value ∧ (around m).value < (around m).high ∧
      (around m).value + 10 ^ 16 * (around m).low < 10 ^ 16 * (around m).high := by
  have bounded : m.mantissa < 2 ^ 53 := m.mantissa_lt
  have quarter_pos : 0 < Nat.pow 2 (m.scale - 1076) := Nat.two_pow_pos _
  simp only [around]
  rw [← Nat.mul_assoc, ← Nat.mul_assoc, ← Nat.add_mul]
  refine ⟨Nat.mul_lt_mul_of_pos_right ?_ quarter_pos, Nat.mul_lt_mul_of_pos_right ?_ quarter_pos,
    Nat.mul_lt_mul_of_pos_right ?_ quarter_pos⟩
  · split <;> omega
  · omega
  · rw [(Nat.pow_eq : Nat.pow 2 52 = 2 ^ 52)]
    split <;> omega

/-- **The shortest decimal of a magnitude lies in its interval.** -/
theorem holds_search_around (notZero : m.mantissa ≠ 0) :
    (around m).Holds (((around m).search (around m).leading 17 0).1 *
      10 ^ ((around m).search (around m).leading 17 0).2) := by
  obtain ⟨low, high, long⟩ := around_bounds notZero
  have leading_le := ten_zpow_leading_le (around_den_pos m) (Nat.zero_lt_of_lt low)
  refine holds_search 16 (Nat.zero_le _) (by decide)
    (isSome_onGrid? (around_den_pos m) low high ?_)
  have long' : ((around m).value : ℚ) + 10 ^ 16 * (around m).low < 10 ^ 16 * (around m).high := by
    exact_mod_cast long
  rw [zpow_sub₀ (by norm_num), ← mul_div_assoc, zpow_natCast, div_lt_iff₀ (by norm_num)]
  linarith

end Magnitude

end PascalFront
