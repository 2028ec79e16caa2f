import Mathlib
import Gridbook.Proofs.Number.Nearest
import Gridbook.Proofs.Number.Width

/-! # Decimals rounded to a unit

A decimal that is rounded to a power of ten gives the nearest multiple of that power, and of two as
near the one farther from zero. It is refused exactly if the multiple takes more digits than are
kept.
-/

namespace Gridbook

/-- The multiple of a unit nearest to a number, by its count: of two that are as near it is the one
farther from zero. -/
structure NearestMultiple (q unit : ℚ) (n : ℤ) : Prop where
  near : ∀ k : ℤ, |q - n * unit| ≤ |q - k * unit|
  far : ∀ k : ℤ, |q - k * unit| = |q - n * unit| → |k| ≤ |n|

namespace NearestMultiple

variable {q unit v : ℚ} {n n' : ℤ} {count : ℕ}

theorem eq_zero (positive : 0 < unit) (nearest : NearestMultiple q unit n) (center : q = 0) :
    n = 0 := by
  have bound := nearest.near 0
  rw [center] at bound
  have size : |(n : ℚ) * unit| ≤ 0 := by simpa using bound
  exact_mod_cast (mul_eq_zero.mp (abs_nonpos_iff.mp size)).resolve_right positive.ne'

theorem unique (positive : 0 < unit) (nearest : NearestMultiple q unit n)
    (nearest' : NearestMultiple q unit n') : n' = n := by
  have same : |q - n * unit| = |q - n' * unit| := le_antisymm (nearest.near n') (nearest'.near n)
  have sizes : |n'| = |n| := le_antisymm (nearest.far n' same.symm) (nearest'.far n same)
  rcases abs_eq_abs.mp sizes with alike | opposite
  · exact alike
  · -- Only zero is as near to a count as to its opposite.
    have zero : n = 0 := by
      rw [opposite, Int.cast_neg] at same
      rcases abs_eq_abs.mp same with first | second
      · have size : (n : ℚ) * unit = 0 := by linarith
        exact_mod_cast (mul_eq_zero.mp size).resolve_right positive.ne'
      · exact nearest.eq_zero positive (by linarith)
    rw [opposite, zero, neg_zero]

theorem neg (nearest : NearestMultiple q unit n) : NearestMultiple (-q) unit (-n) := by
  have mirrored (k : ℤ) : |-q - k * unit| = |q - (-k : ℤ) * unit| := by
    rw [← abs_neg]
    push_cast
    ring_nf
  constructor
  · intro k
    rw [mirrored, mirrored, neg_neg]
    exact nearest.near (-k)
  · intro k same
    rw [mirrored, mirrored, neg_neg] at same
    rw [← abs_neg k, abs_neg n]
    exact nearest.far (-k) same

/-- A count is the nearest one if the number lies no farther than one half beneath it and less than
one half above it. -/
theorem of_bounds (positive : 0 < unit) (least : 0 ≤ v) (low : (count : ℚ) - 1 / 2 ≤ v)
    (high : v < count + 1 / 2) : NearestMultiple (v * unit) unit count := by
  have distance (k : ℤ) : |v * unit - k * unit| = |v - k| * unit := by
    rw [← sub_mul, abs_mul, abs_of_pos positive]
  have half : |v - count| ≤ 1 / 2 := by
    rw [abs_le]
    constructor <;> linarith
  -- Any other count is one half away at least, and only one beneath is not farther.
  have other {k : ℤ} (different : k ≠ count) :
      1 / 2 ≤ |v - k| ∧ (|v - k| = |v - count| → 0 ≤ k ∧ k ≤ count) := by
    rcases lt_or_gt_of_ne different with beneath | above
    · have step : (k : ℚ) ≤ count - 1 := by exact_mod_cast (by omega : k ≤ count - 1)
      have side : |v - k| = v - k := abs_of_nonneg (by linarith)
      rw [side]
      refine ⟨by linarith, fun same => ?_⟩
      have start : (-1 : ℚ) < k := by linarith
      have start : -1 < k := by exact_mod_cast start
      omega
    · have step : (count : ℚ) + 1 ≤ k := by exact_mod_cast (by omega : (count : ℤ) + 1 ≤ k)
      have side : |v - k| = k - v := by
        rw [abs_sub_comm]
        exact abs_of_nonneg (by linarith)
      rw [side]
      exact ⟨by linarith, fun same => by linarith⟩
  constructor
  · intro k
    rw [distance, distance]
    refine mul_le_mul_of_nonneg_right ?_ positive.le
    by_cases same : k = count
    · rw [same]
    · exact half.trans (other same).1
  · intro k same
    rw [distance, distance] at same
    by_cases alike : k = count
    · rw [alike]
    · obtain ⟨start, below⟩ := (other alike).2 (mul_right_cancel₀ positive.ne' same)
      exact abs_le_abs_of_nonneg start below

end NearestMultiple

theorem tenTo_pos (k : Int) : 0 < tenTo k :=
  Nat.pow_pos (by decide)

theorem ten_zpow_pos (k : Int) : (0 : ℚ) < 10 ^ k := zpow_pos (by norm_num) k

theorem ten_zpow_eq (k : Int) : (10 : ℚ) ^ k = tenTo k / tenTo (-k) := by
  obtain ⟨k, rfl | rfl⟩ := k.eq_nat_or_neg
  · simp [tenTo]
  · simp [tenTo]

theorem cast_decimal (c : Nat) (k : Int) :
    ((c * tenTo k : Nat) : ℚ) / (tenTo (-k) : Nat) = c * 10 ^ k := by
  rw [ten_zpow_eq, Nat.cast_mul, mul_div_assoc]

theorem cast_grid_div (n d : Nat) (k : Int) :
    ((n * tenTo (-k) : Nat) : ℚ) / (d * tenTo k : Nat) = n / d / 10 ^ k := by
  rw [ten_zpow_eq, Nat.cast_mul, Nat.cast_mul, mul_div_mul_comm, div_div_eq_mul_div, mul_div_assoc]

theorem lt_ten_pow_digitCount (n : Nat) : n < 10 ^ digitCount n :=
  (Nat.length_toDigits_le_iff (by decide) (List.length_pos_iff.mpr Nat.toDigits_ne_nil)).mp
    (Nat.le_refl _)

theorem ten_pow_le_of_digitCount {n : Nat} (positive : 0 < n) : 10 ^ (digitCount n - 1) ≤ n := by
  by_contra less
  have some : 0 < digitCount n := List.length_pos_iff.mpr Nat.toDigits_ne_nil
  by_cases single : digitCount n = 1
  · rw [single] at less
    exact less positive
  · have := digitCount_le_of_lt (by omega) (Nat.not_le.mp less)
    omega

theorem magnitude_bounds {c : Nat} (positive : 0 < c) (k : Int) :
    (10 : ℚ) ^ (digitCount c + k - 1) ≤ c * 10 ^ k ∧
      (c : ℚ) * 10 ^ k < 10 ^ (digitCount c + k) := by
  have digits : 0 < digitCount c := List.length_pos_iff.mpr Nat.toDigits_ne_nil
  have first : digitCount c + k - 1 = ((digitCount c - 1 : ℕ) : ℤ) + k := by omega
  rw [first, zpow_add₀ (by norm_num), zpow_add₀ (by norm_num), zpow_natCast, zpow_natCast]
  constructor
  · refine mul_le_mul_of_nonneg_right ?_ (ten_zpow_pos k).le
    exact_mod_cast ten_pow_le_of_digitCount positive
  · refine mul_lt_mul_of_pos_right ?_ (ten_zpow_pos k)
    exact_mod_cast lt_ten_pow_digitCount c

theorem digitCount_mul_pow {n : Nat} (positive : 0 < n) (k : Nat) :
    digitCount (n * 10 ^ k) = digitCount n + k := by
  induction k with
  | zero => simp
  | succ k ih =>
      have some : 0 < n * 10 ^ k := Nat.mul_pos positive (Nat.pow_pos (by decide))
      rw [Nat.pow_succ, ← Nat.mul_assoc, digitCount_div_ten (by omega),
        Nat.mul_div_cancel _ (by decide), ih, Nat.add_assoc]

namespace Decimal

def rational (x : Decimal) : ℚ := Double.signed x.negative x.coefficient * 10 ^ x.exponent

variable (x : Decimal) (k : Int)

theorem roundTo_eq : ∃ count : ℕ,
    (count : ℚ) - 1 / 2 ≤ x.coefficient * 10 ^ (x.exponent - k) ∧
      (x.coefficient : ℚ) * 10 ^ (x.exponent - k) < count + 1 / 2 ∧
      x.roundTo k = if digitCount count ≤ precision then .ok ⟨x.negative, count, k⟩
        else .error .invalidOperation := by
  have none : digitCount 0 ≤ precision := by decide
  rw [roundTo]
  split
  case isTrue zero => exact ⟨0, by simp [zero], by simp [zero], by rw [if_pos none]⟩
  case isFalse nonzero =>
  split
  case isTrue fine =>
    obtain ⟨shift, size⟩ := Int.eq_ofNat_of_zero_le (Int.sub_nonneg.mpr fine)
    have digits := digitCount_mul_pow (Nat.pos_of_ne_zero nonzero) shift
    have power : tenTo shift = 10 ^ shift := rfl
    refine ⟨x.coefficient * 10 ^ shift, ?_, ?_, ?_⟩
    · rw [size]
      push_cast
      norm_num
    · rw [size]
      push_cast
      norm_num
    · simp only [size, Int.toNat_natCast, power, digits]
      grind
  case isFalse coarse =>
    obtain ⟨shift, size⟩ := Int.eq_ofNat_of_zero_le (by omega : 0 ≤ k - x.exponent)
    have unit : (0 : ℚ) < 10 ^ shift := by positivity
    have quotient : (x.coefficient : ℚ) * 10 ^ (x.exponent - k) = x.coefficient / tenTo shift := by
      have shape : x.exponent - k = -(shift : ℤ) := by omega
      rw [shape, zpow_neg, zpow_natCast, ← div_eq_mul_inv]
      norm_cast
    simp only [size, Int.toNat_natCast, quotient]
    split
    case isTrue short =>
      have tenth : 10 * x.coefficient < tenTo shift :=
        calc 10 * x.coefficient < 10 * 10 ^ digitCount x.coefficient :=
              Nat.mul_lt_mul_of_pos_left (lt_ten_pow_digitCount _) (by decide)
          _ = 10 ^ (digitCount x.coefficient + 1) := (Nat.pow_succ' ..).symm
          _ ≤ tenTo shift := Nat.pow_le_pow_right (by decide) short
      refine ⟨0, ?_, ?_, by rw [if_pos none]⟩
      · have : (0 : ℚ) ≤ x.coefficient / tenTo shift := by positivity
        push_cast
        linarith
      · rw [div_lt_iff₀ (by exact_mod_cast tenTo_pos shift)]
        have : (10 * x.coefficient : ℚ) < tenTo shift := by exact_mod_cast tenth
        push_cast
        linarith
    case isFalse long =>
      have near := abs_le.mp (roundQuotient_near .up x.coefficient (tenTo_pos shift))
      have up := lt_roundQuotient_up x.coefficient (tenTo_pos shift)
      exact ⟨_, by linarith, up, by grind⟩

/-- Rounding a decimal gives the nearest multiple of the unit, and is refused exactly if its count
has too many digits. -/
theorem roundTo_nearest :
    ∃ n : ℤ, NearestMultiple x.rational (10 ^ k) n ∧
      (digitCount n.natAbs ≤ precision →
        ∃ r, x.roundTo k = .ok r ∧ r.rational = n * 10 ^ k) ∧
      (precision < digitCount n.natAbs → x.roundTo k = .error .invalidOperation) := by
  obtain ⟨count, low, high, rounded⟩ := roundTo_eq x k
  have unit := ten_zpow_pos k
  have least : (0 : ℚ) ≤ x.coefficient * 10 ^ (x.exponent - k) :=
    mul_nonneg (Nat.cast_nonneg _) (ten_zpow_pos _).le
  have size : (x.coefficient : ℚ) * 10 ^ (x.exponent - k) * 10 ^ k =
      x.coefficient * 10 ^ x.exponent := by
    rw [mul_assoc, ← zpow_add₀ (by norm_num), sub_add_cancel]
  have nearest := NearestMultiple.of_bounds unit least low high
  rw [size] at nearest
  refine ⟨Double.signed x.negative count, ?_, ?_, ?_⟩
  · rw [rational]
    cases x.negative with
    | false => simpa [Double.signed] using nearest
    | true => simpa [Double.signed] using nearest.neg
  · rw [Double.natAbs_signed]
    intro fits
    rw [if_pos fits] at rounded
    exact ⟨_, rounded, rfl⟩
  · rw [Double.natAbs_signed]
    intro beyond
    rw [rounded, if_neg (Nat.not_le.mpr beyond)]

end Decimal

end Gridbook
