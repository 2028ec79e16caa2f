import Mathlib
import Gridbook.Proofs.Number.Nearest

/-! # Integers as doubles

An integer of at most 53 bits is its own nearest double. With one half added it stays a double up to
the half of that range; beyond it the sum is halfway between two integers, and the even one of them
is taken.
-/

namespace Gridbook.Double

/-- An integer of at most 53 bits is its own nearest double. -/
theorem rational?_ofInt {n : Int} (bounded : n.natAbs ≤ 2 ^ 53) :
    (ofInt n).rational? = some (n : ℚ) := by
  by_cases zero : n = 0
  · subst zero
    change some ((signed false 0 : ℚ) * _) = _
    simp [signed]
  have some : 0 < n.natAbs := Int.natAbs_pos.mpr zero
  rw [ofInt]
  by_cases short : n.natAbs < 2 ^ 53
  · rw [rational?_ofQuotient_exact _ (k := 0) short (by decide) (by decide) some one_pos (by simp)]
    simp [signed_natAbs]
  · have full : n.natAbs = 2 ^ 53 := by omega
    rw [rational?_ofQuotient_exact _ (w := 1) (k := 53) (by decide) (by decide) (by decide) one_pos
      one_pos (by rw [full]; norm_num)]
    have number : (signed (decide (n < 0)) 1 : ℤ) * 2 ^ 53 = n := by
      rw [← signed_natAbs n, full]
      cases decide (n < 0) <;> rfl
    refine congrArg Option.some ?_
    exact_mod_cast number

theorem ofInt?_of_bounded {n : Int} (bounded : n.natAbs ≤ 2 ^ 53) : ofInt? n = some (ofInt n) := by
  have number := rational?_ofInt bounded
  rw [ofInt?]
  generalize ofInt n = x at number
  cases x with
  | nan | infinite => cases number
  | finite => rfl

theorem truncate?_of_toInt? {x : Double} {n : Int} (whole : x.toInt? = some n) :
    x.truncate? = some n := by
  cases x with
  | nan | infinite => cases whole
  | finite negative m e canonical => exact (Option.ite_none_right_eq_some.mp whole).2

theorem truncate?_ofInt {n : Int} (bounded : n.natAbs ≤ 2 ^ 53) : (ofInt n).truncate? = some n :=
  truncate?_of_toInt? (toInt?_eq_some_iff.mpr (rational?_ofInt bounded))

theorem rational?_half : half.rational? = some (1 / 2) := by
  rw [half, rational?_ofQuotient_exact _ (w := 1) (k := -1) (by decide) (by decide) (by decide)
    one_pos two_pos (by norm_num)]
  simp [signed]

/-- A quotient halfway between two integers of 53 bits has the even one for its nearest double. -/
theorem rational?_ofQuotient_half (negative : Bool) {n d h : Nat} (positive : 0 < d)
    (quotient : (n : ℚ) / d = h + 1 / 2) (low : 2 ^ 52 ≤ h) (high : h < 2 ^ 53) :
    (ofQuotient negative n d).rational? =
      some (signed negative (if h % 2 = 1 then h + 1 else h) : ℚ) := by
  have below : (2 : ℚ) ^ 52 ≤ h := by exact_mod_cast low
  have above : (h : ℚ) + 1 ≤ 2 ^ 53 := by exact_mod_cast high
  have filled : 0 < n := by
    by_contra none
    obtain rfl : n = 0 := by omega
    norm_num at quotient
    linarith
  have unit : exponentFor n d = 0 := by
    refine exponentFor_eq filled positive (by decide) ?_ (.inl ?_)
    · rw [quotient, zpow_zero]
      linarith
    · rw [quotient, zpow_zero]
      linarith
  have value := rational?_ofQuotient negative filled positive (by rw [unit]; decide)
  rw [unit] at value
  have tie : significandAt n d 0 = if h % 2 = 1 then h + 1 else h := by
    have scaled : ((n * twoTo (-0) : Nat) : ℚ) / (d * twoTo 0 : Nat) = h + 1 / 2 := by
      rw [cast_scaled_div, quotient, zpow_zero, div_one]
    rw [significandAt, roundQuotient_of_half (Nat.mul_pos positive (twoTo_pos 0)) scaled]
    simp [Tie.roundsUp]
  rw [value, tie, zpow_zero, mul_one]

theorem floor?_add_half {n : Int} (bounded : n.natAbs ≤ 2 ^ 53) :
    (ofInt n + half).floor? = some (if n % 2 = 1 ∧ 2 ^ 52 < n.natAbs then n + 1 else n) := by
  have number : (n : ℚ) + 1 / 2 = (2 * n + 1 : Int) * 2 ^ (-1 : Int) := by
    push_cast
    ring
  have nonzero : (n : ℚ) + 1 / 2 ≠ 0 := by
    rw [number]
    refine mul_ne_zero ?_ (two_zpow_pos _).ne'
    exact_mod_cast (by omega : 2 * n + 1 ≠ 0)
  have negative : (n : ℚ) + 1 / 2 < 0 ↔ n < 0 := by
    constructor
    · intro less
      have : (n : ℚ) < 0 := by linarith
      exact_mod_cast this
    · intro less
      have : (n : ℚ) ≤ -1 := by exact_mod_cast (by omega : n ≤ -1)
      linarith
  obtain ⟨top, bottom, -, positive, quotient, sum⟩ :=
    add_eq_ofQuotient (rational?_ofInt bounded) rational?_half nonzero
  simp only [negative] at sum
  have size : (top : ℚ) / bottom = (2 * n + 1).natAbs * 2 ^ (-1 : Int) := by
    rw [quotient, number, abs_mul, abs_of_pos (two_zpow_pos _), Nat.cast_natAbs, Int.cast_abs]
  by_cases small : (2 * n + 1).natAbs < 2 ^ 53
  · -- The sum takes 53 bits at most, and so it is a double.
    have exact := rational?_ofQuotient_exact (decide (n < 0)) small (by decide)
      (by decide) (by omega) positive size
    have sign : decide (n < 0) = decide (2 * n + 1 < 0) := by
      rw [decide_eq_decide]
      omega
    rw [← sum, sign, signed_natAbs, ← number] at exact
    rw [floor?_of_rational exact, if_neg (by omega), Int.floor_eq_iff.mpr]
    constructor <;> linarith
  · by_cases last : n = 2 ^ 53
    · subst last
      decide +kernel
    · obtain ⟨h, odd⟩ : ∃ h, (2 * n + 1).natAbs = 2 * h + 1 := ⟨(2 * n + 1).natAbs / 2, by omega⟩
      have half : (top : ℚ) / bottom = h + 1 / 2 := by
        rw [size, odd]
        push_cast
        ring
      have even := rational?_ofQuotient_half (decide (n < 0)) positive half (by omega)
        (by omega)
      rw [← sum] at even
      rw [floor?_of_rational even, Int.floor_intCast]
      refine congrArg some ?_
      simp only [signed, decide_eq_true_eq]
      split <;> split <;> split <;> omega

end Gridbook.Double
