/-
# UltraFabric.Proofs.Rounding — a number read back from its tenths

A number of single precision is rounded twice: to the grid of such numbers when it is read, and to whole
tenths when it is written.  The two roundings undo each other in one direction: the tenths of a number
that can be read are, read again, a number with the same tenths (`Single.exists_ofDecimal_tenths`).

The reason does not depend on how fine the grid is.  The number itself is on the grid, and reading takes
the nearest one there is (`Single.IsReading`), so that what is read again is at least as near to the tenths
as the number was; and a number nearer to a whole than one that is rounded to it is rounded to it as well
(`IsNearest.of_nearer`).  The grid matters only for the numbers that are too large: those that can be read
are whole where the grid is wide, and a whole number cannot leave the range by less than one.
-/
import Mathlib.Algebra.Order.Field.Power
import Mathlib.Algebra.Order.Ring.Rat
import Mathlib.Data.Rat.Cast.Order
import Mathlib.Tactic.FieldSimp
import Mathlib.Tactic.Linarith
import Mathlib.Tactic.Positivity
import Mathlib.Tactic.Ring
import UltraFabric.Number.Single

namespace UltraFabric.Number

set_option autoImplicit false

/-! ### The nearest whole number -/

/-- A whole number with no nearer one; of two that are as near, the even one. -/
def IsNearest (value : ℚ) (whole : ℕ) : Prop :=
  |value - whole| ≤ 1 / 2 ∧ (|value - whole| = 1 / 2 → Even whole)

theorem IsNearest.of_lt {value : ℚ} {whole : ℕ} (near : |value - whole| < 1 / 2) :
    IsNearest value whole :=
  ⟨near.le, fun tie => absurd tie near.ne⟩

theorem IsNearest.of_tie {value : ℚ} {whole : ℕ} (tie : |value - whole| = 1 / 2)
    (even : Even whole) : IsNearest value whole :=
  ⟨tie.le, fun _ => even⟩

/-- A number nearer to a whole than one that is rounded to it. -/
theorem IsNearest.of_nearer {value other : ℚ} {whole : ℕ} (nearest : IsNearest value whole)
    (nearer : |other - whole| ≤ |value - whole|) : IsNearest other whole :=
  ⟨nearer.trans nearest.1, fun tie => nearest.2 (le_antisymm nearest.1 (tie ▸ nearer))⟩

/-- No whole number is nearer. -/
theorem IsNearest.le_of_int {value : ℚ} {whole : ℕ} (nearest : IsNearest value whole) (other : ℤ) :
    |value - whole| ≤ |value - other| := by
  by_cases same : other = whole
  · simp [same]
  · have apart : (1 : ℚ) ≤ |(other : ℚ) - whole| := by
      have : (1 : ℤ) ≤ |other - whole| := Int.one_le_abs (sub_ne_zero.2 same)
      exact_mod_cast this
    have between := abs_sub_le (other : ℚ) value whole
    rw [abs_sub_comm (other : ℚ) value] at between
    linarith [nearest.1]

theorem IsNearest.unique {value : ℚ} {one other : ℕ} (nearest : IsNearest value one)
    (nearest' : IsNearest value other) : one = other := by
  by_contra different
  wlog less : one < other
  · exact this nearest' nearest (Ne.symm different) (by omega)
  have apart : (one : ℚ) + 1 ≤ other := by exact_mod_cast less
  obtain ⟨-, above⟩ := abs_le.1 nearest.1
  obtain ⟨below, -⟩ := abs_le.1 nearest'.1
  -- The two are neighbours and the number is half way between them, so that both are even.
  have next : (other : ℚ) = one + 1 := by linarith
  have half : value - one = 1 / 2 := by linarith
  have even : Even one := nearest.2 (by rw [half]; norm_num)
  have even' : Even other := nearest'.2 (by
    rw [show value - other = -(1 / 2) by linarith]
    norm_num)
  obtain rfl : other = one + 1 := by exact_mod_cast next
  rw [Nat.even_add_one] at even'
  exact even' even

/-- What `roundDiv` rounds to. -/
theorem isNearest_roundDiv (numerator : ℕ) {denominator : ℕ} (positive : 0 < denominator) :
    IsNearest ((numerator : ℚ) / denominator) (roundDiv numerator denominator) := by
  have unit : (0 : ℚ) < denominator := by exact_mod_cast positive
  have small := Nat.mod_lt numerator positive
  have whole : (numerator : ℚ) / denominator = ((numerator / denominator : ℕ) : ℚ) +
      ((numerator % denominator : ℕ) : ℚ) / denominator := by
    rw [eq_comm, eq_div_iff unit.ne', add_mul, div_mul_cancel₀ _ unit.ne', mul_comm]
    exact_mod_cast Nat.div_add_mod numerator denominator
  rw [whole, roundDiv]
  generalize numerator / denominator = quotient
  generalize numerator % denominator = rest at small
  obtain ⟨part, partIs⟩ : ∃ part : ℚ, part = (rest : ℚ) / denominator := ⟨_, rfl⟩
  rw [← partIs]
  have nonneg : 0 ≤ part := by
    rw [partIs]
    positivity
  have one : part < 1 := by
    rw [partIs, div_lt_one unit]
    exact_mod_cast small
  split
  · rename_i below
    have below : part < 1 / 2 := by
      rw [partIs, div_lt_div_iff₀ unit two_pos]
      have : (2 * rest : ℚ) < denominator := by exact_mod_cast below
      linarith
    refine IsNearest.of_lt ?_
    rw [abs_lt]
    constructor <;> linarith
  split
  · rename_i above
    have above : 1 / 2 < part := by
      rw [partIs, div_lt_div_iff₀ two_pos unit]
      have : (denominator : ℚ) < 2 * rest := by exact_mod_cast above
      linarith
    refine IsNearest.of_lt ?_
    rw [abs_lt]
    push_cast
    constructor <;> linarith
  · have half : part = 1 / 2 := by
      rw [partIs, div_eq_div_iff unit.ne' two_ne_zero]
      have : 2 * rest = denominator := by omega
      rw [← this]
      push_cast
      ring
    rw [half]
    rcases Nat.mod_two_eq_zero_or_one quotient with even | odd
    · rw [even, add_zero]
      refine IsNearest.of_tie ?_ (Nat.even_iff.2 even)
      rw [add_sub_cancel_left]
      norm_num
    · rw [odd]
      refine IsNearest.of_tie ?_ (Nat.even_iff.2 (by omega))
      push_cast
      rw [show (quotient : ℚ) + 1 / 2 - (quotient + 1) = -(1 / 2) by ring]
      norm_num

namespace Single

/-! ### The grid -/

/-- Scaling is by a power of two. -/
theorem scale_spec (numerator : ℕ) {denominator : ℕ} (positive : 0 < denominator) (shift : ℤ) :
    0 < (scale numerator denominator shift).2 ∧
      ((scale numerator denominator shift).1 : ℚ) / (scale numerator denominator shift).2 =
        (numerator : ℚ) / denominator * 2 ^ shift := by
  unfold scale
  split
  · rename_i up
    refine ⟨positive, ?_⟩
    obtain ⟨count, rfl⟩ := Int.eq_ofNat_of_zero_le up
    simp only [Int.toNat_natCast, Nat.shiftLeft_eq, zpow_natCast]
    push_cast
    ring
  · rename_i down
    obtain ⟨count, countIs⟩ := Int.eq_ofNat_of_zero_le (show 0 ≤ -shift by omega)
    obtain rfl : shift = -count := by omega
    simp only [neg_neg, Int.toNat_natCast, Nat.shiftLeft_eq, zpow_neg, zpow_natCast]
    refine ⟨by positivity, ?_⟩
    push_cast
    rw [div_mul_eq_div_div, ← div_eq_mul_inv]

/-- A logarithm between those of the two powers around the number. -/
theorem two_pow_log2_le {number : ℕ} (above : 0 < number) :
    (2 : ℚ) ^ (number.log2 : ℤ) ≤ number ∧ (number : ℚ) < 2 ^ ((number.log2 : ℤ) + 1) := by
  constructor
  · exact_mod_cast Nat.log2_self_le above.ne'
  · exact_mod_cast Nat.lt_log2_self

theorem floorLog2_spec {numerator denominator : ℕ} (above : 0 < numerator)
    (positive : 0 < denominator) :
    (2 : ℚ) ^ floorLog2 numerator denominator ≤ (numerator : ℚ) / denominator ∧
      (numerator : ℚ) / denominator < 2 ^ (floorLog2 numerator denominator + 1) := by
  have unit : (0 : ℚ) < denominator := by exact_mod_cast positive
  obtain ⟨topLow, topHigh⟩ := two_pow_log2_le above
  obtain ⟨bottomLow, bottomHigh⟩ := two_pow_log2_le positive
  unfold floorLog2
  obtain ⟨guess, guessIs⟩ : ∃ guess : ℤ, guess = numerator.log2 - denominator.log2 := ⟨_, rfl⟩
  rw [← guessIs]
  obtain ⟨scaledPositive, scaledIs⟩ := scale_spec numerator positive (-guess)
  -- The guess is too large by one at most, and never too small.
  have low : (2 : ℚ) ^ (guess - 1) ≤ (numerator : ℚ) / denominator := by
    rw [le_div_iff₀ unit]
    calc (2 : ℚ) ^ (guess - 1) * denominator
        ≤ 2 ^ (guess - 1) * 2 ^ ((denominator.log2 : ℤ) + 1) := by gcongr
      _ = 2 ^ (numerator.log2 : ℤ) := by
          rw [← zpow_add₀ two_ne_zero]
          congr 1
          omega
      _ ≤ numerator := topLow
  have high : (numerator : ℚ) / denominator < 2 ^ (guess + 1) := by
    rw [div_lt_iff₀ unit]
    calc (numerator : ℚ) < 2 ^ ((numerator.log2 : ℤ) + 1) := topHigh
      _ = 2 ^ (guess + 1) * 2 ^ (denominator.log2 : ℤ) := by
          rw [← zpow_add₀ two_ne_zero]
          congr 1
          omega
      _ ≤ 2 ^ (guess + 1) * denominator := by gcongr
  have compared : (scale numerator denominator (-guess)).2 ≤ (scale numerator denominator (-guess)).1 ↔
      (2 : ℚ) ^ guess ≤ (numerator : ℚ) / denominator := by
    have unit' : (0 : ℚ) < (scale numerator denominator (-guess)).2 := by
      exact_mod_cast scaledPositive
    rw [← Nat.cast_le (α := ℚ), ← one_le_div₀ unit', scaledIs, zpow_neg, ← div_eq_mul_inv,
      one_le_div₀ (by positivity)]
  simp only [compared]
  split
  · rename_i reached
    exact ⟨reached, high⟩
  · rename_i short
    rw [sub_add_cancel]
    exact ⟨low, not_le.1 short⟩

/-- The numbers that a mantissa and an exponent within their bounds stand for. -/
def OnGrid (value : ℚ) : Prop :=
  ∃ (mantissa : ℕ) (exponent : ℤ), mantissa ≤ 2 ^ 24 ∧ -149 ≤ exponent ∧
    value = mantissa * 2 ^ exponent

/-- A mantissa and an exponent within their bounds, and no number that is on the grid is nearer. -/
structure IsReading (value : ℚ) (mantissa : ℕ) (exponent : ℤ) : Prop where
  mantissa_le : mantissa ≤ 2 ^ 24
  exponent_ge : -149 ≤ exponent
  nearest : ∀ other, OnGrid other → |value - mantissa * 2 ^ exponent| ≤ |value - other|

/-- Where the grid of an exponent is too narrow for anything nearer, the nearest whole number of its
steps is the reading. -/
theorem isReading_of_isNearest {value : ℚ} {mantissa : ℕ} {exponent : ℤ}
    (bounded : -149 ≤ exponent) (below : value < 2 ^ (exponent + 24))
    (reached : -149 < exponent → 2 ^ (exponent + 23) ≤ value)
    (nearest : IsNearest (value / 2 ^ exponent) mantissa) : IsReading value mantissa exponent := by
  have step : (0 : ℚ) < 2 ^ exponent := by positivity
  -- Distances are those of the scaled number, in steps.
  have distance : ∀ other : ℚ,
      |value - other * 2 ^ exponent| = |value / 2 ^ exponent - other| * 2 ^ exponent := fun other => by
    rw [← abs_of_pos step, ← abs_mul, abs_of_pos step, sub_mul, div_mul_cancel₀ _ step.ne']
  have least : ∀ other : ℤ, |value - mantissa * 2 ^ exponent| ≤ |value - other * 2 ^ exponent| :=
    fun other => by
      rw [distance, distance]
      exact mul_le_mul_of_nonneg_right (nearest.le_of_int other) step.le
  refine ⟨?_, bounded, ?_⟩
  · have scaled : value / 2 ^ exponent < 2 ^ 24 := by
      rw [div_lt_iff₀ step, mul_comm, ← zpow_natCast, ← zpow_add₀ two_ne_zero]
      exact below
    have near := (abs_le.1 nearest.1).1
    have : (mantissa : ℚ) < 2 ^ 24 + 1 := by linarith
    have : mantissa < 2 ^ 24 + 1 := by exact_mod_cast this
    omega
  · rintro other ⟨count, exponent', count_le, exponent_ge, rfl⟩
    by_cases wider : exponent ≤ exponent'
    · obtain ⟨doublings, doublingsIs⟩ := Int.eq_ofNat_of_zero_le (sub_nonneg.2 wider)
      obtain rfl : exponent' = doublings + exponent := by omega
      rw [zpow_add₀ two_ne_zero, ← mul_assoc]
      exact_mod_cast least (count * 2 ^ doublings)
    · -- Numbers of narrower grids end before the power of two that the number has reached.
      have reached := reached (by omega)
      have small : (count : ℚ) * 2 ^ exponent' ≤ 2 ^ (exponent + 23) := by
        calc (count : ℚ) * 2 ^ exponent' ≤ 2 ^ 24 * 2 ^ (exponent - 1) := by
              have : (count : ℚ) ≤ 2 ^ 24 := by exact_mod_cast count_le
              have : (2 : ℚ) ^ exponent' ≤ 2 ^ (exponent - 1) :=
                zpow_le_zpow_right₀ one_le_two (by omega)
              gcongr
          _ = 2 ^ (exponent + 23) := by
              rw [← zpow_natCast, ← zpow_add₀ two_ne_zero]
              congr 1
              push_cast
              ring
      have power : ((2 ^ 23 : ℤ) : ℚ) * 2 ^ exponent = 2 ^ (exponent + 23) := by
        rw [add_comm, zpow_add₀ two_ne_zero]
        norm_num
      have nearer := least (2 ^ 23)
      rw [power, abs_of_nonneg (sub_nonneg.2 reached)] at nearer
      rw [abs_of_nonneg (sub_nonneg.2 (small.trans reached))]
      linarith

/-- Only a number that is whole can be too large. -/
theorem tooLarge_iff {mantissa : ℕ} {exponent : ℤ} (small : mantissa ≤ 2 ^ 24) :
    (0 ≤ exponent ∧ 1 <<< 128 ≤ mantissa <<< exponent.toNat) ↔
      (2 : ℚ) ^ 128 ≤ mantissa * 2 ^ exponent := by
  constructor
  · rintro ⟨whole, large⟩
    obtain ⟨count, rfl⟩ := Int.eq_ofNat_of_zero_le whole
    rw [Int.toNat_natCast, Nat.one_shiftLeft, Nat.shiftLeft_eq] at large
    exact_mod_cast large
  · intro large
    have whole : 0 ≤ exponent := by
      by_contra fraction
      have step : (2 : ℚ) ^ exponent ≤ 1 := zpow_le_one_of_nonpos₀ one_le_two (by omega)
      have small : (mantissa : ℚ) ≤ 2 ^ 24 := by exact_mod_cast small
      have : (mantissa : ℚ) * 2 ^ exponent ≤ 2 ^ 24 * 1 := by gcongr
      norm_num at large this
      linarith
    refine ⟨whole, ?_⟩
    obtain ⟨count, rfl⟩ := Int.eq_ofNat_of_zero_le whole
    rw [Int.toNat_natCast, Nat.one_shiftLeft, Nat.shiftLeft_eq]
    exact_mod_cast large

/-- **A quotient is read as the nearest number** there is, and as infinite where that one is too
large. -/
theorem ofRatio_eq (negative : Bool) {numerator denominator : ℕ} (above : 0 < numerator)
    (positive : 0 < denominator) : ∃ mantissa exponent,
      IsReading ((numerator : ℚ) / denominator) mantissa exponent ∧
      ofRatio negative numerator denominator =
        if (2 : ℚ) ^ 128 ≤ mantissa * 2 ^ exponent then .infinite negative
        else .finite negative mantissa exponent := by
  obtain ⟨low, high⟩ := floorLog2_spec above positive
  obtain ⟨exponent, exponentIs⟩ : ∃ exponent : ℤ,
    exponent = max (-149) (floorLog2 numerator denominator - 23) := ⟨_, rfl⟩
  obtain ⟨scaledPositive, scaledIs⟩ := scale_spec numerator positive (-exponent)
  have nearest := isNearest_roundDiv (scale numerator denominator (-exponent)).1 scaledPositive
  rw [scaledIs, zpow_neg, ← div_eq_mul_inv] at nearest
  have reading : IsReading ((numerator : ℚ) / denominator) _ exponent :=
    isReading_of_isNearest (by omega)
      (high.trans_le (zpow_le_zpow_right₀ one_le_two (by omega)))
      (fun _ => (zpow_le_zpow_right₀ one_le_two (by omega)).trans low) nearest
  refine ⟨_, exponent, reading, ?_⟩
  rw [ofRatio, if_neg above.ne', ← exponentIs]
  exact if_congr (tooLarge_iff reading.mantissa_le) rfl rfl

/-! ### The numbers that are read -/

/-- A number as it is read behind a sign: on the grid, and not too large. -/
def WellFormed (negative : Bool) : Single → Prop
  | .notANumber => True
  | .infinite negative' => negative' = negative
  | .finite negative' mantissa exponent => negative' = negative ∧ mantissa ≤ 2 ^ 24 ∧
      -149 ≤ exponent ∧ (mantissa : ℚ) * 2 ^ exponent < 2 ^ 128

theorem wellFormed_zero (negative : Bool) : WellFormed negative (.finite negative 0 0) :=
  ⟨rfl, by norm_num, by norm_num, by norm_num⟩

theorem wellFormed_ofRatio (negative : Bool) (numerator : ℕ) {denominator : ℕ}
    (positive : 0 < denominator) : (ofRatio negative numerator denominator).WellFormed negative := by
  by_cases above : 0 < numerator
  · obtain ⟨mantissa, exponent, reading, same⟩ := ofRatio_eq negative above positive
    rw [same]
    split
    · rfl
    · rename_i inside
      exact ⟨rfl, reading.mantissa_le, reading.exponent_ge, not_le.1 inside⟩
  · obtain rfl : numerator = 0 := by omega
    exact wellFormed_zero negative

theorem wellFormed_ofDecimal (negative : Bool) (digits : ℕ) (exponent : ℤ) :
    (ofDecimal negative digits exponent).WellFormed negative := by
  unfold ofDecimal
  simp only
  split
  · exact wellFormed_zero negative
  split
  · rfl
  split
  · exact wellFormed_zero negative
  split
  · exact wellFormed_ofRatio negative _ one_pos
  · exact wellFormed_ofRatio negative _ (Nat.pow_pos (by norm_num))

theorem wellFormed_readDecimal {negative : Bool} {text : List Char} {value : Single}
    (readAs : readDecimal negative text = some value) : value.WellFormed negative := by
  unfold readDecimal at readAs
  simp only at readAs
  split at readAs
  all_goals
    split at readAs
    · cases readAs
    · obtain ⟨_, -, rfl⟩ := Option.map_eq_some_iff.1 readAs
      exact wellFormed_ofDecimal negative _ _

/-- What is read without a minus sign in front is not negative. -/
theorem wellFormed_read {text : List Char} {value : Single} (unsigned : '-' ∉ text)
    (readAs : read text = some value) : value.WellFormed false := by
  unfold read at readAs
  simp only at readAs
  split at readAs
  · exact absurd List.mem_cons_self unsigned
  all_goals
    split at readAs
    · cases readAs
      rfl
    split at readAs
    · cases readAs
      trivial
    · exact wellFormed_readDecimal readAs

/-! ### Tenths -/

theorem isNearest_tenths (mantissa : ℕ) (exponent : ℤ) :
    IsNearest (10 * (mantissa * 2 ^ exponent)) (tenths mantissa exponent) := by
  obtain ⟨positive, same⟩ := scale_spec (10 * mantissa) one_pos exponent
  have nearest := isNearest_roundDiv (scale (10 * mantissa) 1 exponent).1 positive
  rw [same] at nearest
  push_cast at nearest
  rw [div_one, mul_assoc] at nearest
  exact nearest

/-- A number that is not too large is one less than too large, or has steps below one. -/
theorem add_one_le_of_lt {mantissa : ℕ} {exponent : ℤ} (small : mantissa ≤ 2 ^ 24)
    (below : (mantissa : ℚ) * 2 ^ exponent < 2 ^ 128) :
    (mantissa : ℚ) * 2 ^ exponent + 1 ≤ 2 ^ 128 := by
  by_cases whole : 0 ≤ exponent
  · obtain ⟨count, rfl⟩ := Int.eq_ofNat_of_zero_le whole
    rw [zpow_natCast] at below ⊢
    have below : mantissa * 2 ^ count < 2 ^ 128 := by exact_mod_cast below
    exact_mod_cast below
  · have step : (2 : ℚ) ^ exponent ≤ 1 := zpow_le_one_of_nonpos₀ one_le_two (by omega)
    have small : (mantissa : ℚ) ≤ 2 ^ 24 := by exact_mod_cast small
    have : (mantissa : ℚ) * 2 ^ exponent ≤ 2 ^ 24 * 1 := by gcongr
    norm_num at this ⊢
    linarith

/-- **Tenths that are read again are the same tenths.** -/
theorem exists_ofRatio_tenths {mantissa : ℕ} {exponent : ℤ} (small : mantissa ≤ 2 ^ 24)
    (fine : -149 ≤ exponent) (below : (mantissa : ℚ) * 2 ^ exponent < 2 ^ 128)
    (above : 0 < tenths mantissa exponent) (negative : Bool) : ∃ mantissa' exponent',
      ofRatio negative (tenths mantissa exponent) 10 = .finite negative mantissa' exponent' ∧
      tenths mantissa' exponent' = tenths mantissa exponent := by
  have nearest := isNearest_tenths mantissa exponent
  obtain ⟨mantissa', exponent', reading, same⟩ := ofRatio_eq negative above (show 0 < 10 by norm_num)
  have ten : |(10 : ℚ)| = 10 := abs_of_pos (by norm_num)
  -- What is read is at least as near to the tenths as the number was.
  have nearer : |10 * (mantissa' * 2 ^ exponent') - (tenths mantissa exponent : ℚ)| ≤
      |10 * (mantissa * 2 ^ exponent) - (tenths mantissa exponent : ℚ)| := by
    have nearer := reading.nearest _ ⟨mantissa, exponent, small, fine, rfl⟩
    rw [abs_sub_comm, abs_sub_comm _ ((mantissa : ℚ) * _)] at nearer
    have scaled : ∀ value : ℚ, |10 * value - (tenths mantissa exponent : ℚ)| =
        10 * |value - (tenths mantissa exponent : ℚ) / (10 : ℕ)| := fun value => by
      rw [← ten, ← abs_mul, ten]
      congr 1
      push_cast
      ring
    rw [scaled, scaled]
    linarith
  refine ⟨mantissa', exponent', ?_, (isNearest_tenths mantissa' exponent').unique
    (nearest.of_nearer nearer)⟩
  rw [same, if_neg]
  have apart := abs_le.1 (nearer.trans nearest.1)
  have apart' := abs_le.1 nearest.1
  linarith [add_one_le_of_lt small below, apart.2, apart'.1]

theorem tenths_lt {mantissa : ℕ} {exponent : ℤ} (below : (mantissa : ℚ) * 2 ^ exponent < 2 ^ 128) :
    tenths mantissa exponent < 10 ^ 40 := by
  have near := (abs_le.1 (isNearest_tenths mantissa exponent).1).1
  have wide : (10 : ℚ) * 2 ^ 128 + 1 < 10 ^ 40 := by norm_num
  have : (tenths mantissa exponent : ℚ) < 10 ^ 40 := by linarith
  exact_mod_cast this

/-- The tenths of a number that can be read, with the point before the last of their digits. -/
theorem exists_ofDecimal_tenths {mantissa : ℕ} {exponent : ℤ} (small : mantissa ≤ 2 ^ 24)
    (fine : -149 ≤ exponent) (below : (mantissa : ℚ) * 2 ^ exponent < 2 ^ 128) (negative : Bool) :
    ∃ mantissa' exponent',
      ofDecimal negative (tenths mantissa exponent) (-1) = .finite negative mantissa' exponent' ∧
      tenths mantissa' exponent' = tenths mantissa exponent := by
  have places : (Nat.toDigits 10 (tenths mantissa exponent)).length ≤ 40 :=
    (Nat.length_toDigits_le_iff (by norm_num) (by norm_num)).2 (tenths_lt below)
  by_cases none : tenths mantissa exponent = 0
  · rw [none]
    exact ⟨0, 0, rfl, by decide⟩
  · obtain ⟨mantissa', exponent', same, tenthsSame⟩ :=
      exists_ofRatio_tenths small fine below (by omega) negative
    refine ⟨mantissa', exponent', ?_, tenthsSame⟩
    rw [← same, ofDecimal, if_neg none, if_neg (by omega), if_neg (by omega), if_neg (by norm_num)]
    rfl

end Single

end UltraFabric.Number
