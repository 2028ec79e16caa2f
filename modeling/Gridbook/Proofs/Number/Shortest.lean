import Mathlib
import Gridbook.Proofs.Number.Multiple

/-! # Decimals that read back

The double nearest to a quotient depends on the quotient alone, so zeros at the end of a decimal
change nothing. Of the decimals with seventeen digits one is so near to a double that it reads back
as it, and so does the shortest decimal.
-/

namespace Gridbook

section Quotients

variable {n d n' d' : Nat}

theorem roundQuotient_scaled (tie : Tie) (n d : Nat) {c : Nat} (positive : 0 < c) :
    roundQuotient tie (n * c) (d * c) = roundQuotient tie n d := by
  have twice : 2 * (n % d * c) = 2 * (n % d) * c := (Nat.mul_assoc ..).symm
  have less (a b : Nat) : a * c < b * c ↔ a < b := Nat.mul_lt_mul_right positive
  simp only [roundQuotient, Nat.mul_div_mul_right _ _ positive, Nat.mul_mod_mul_right, twice, less]

theorem roundQuotient_congr {tie : Tie} (positive : 0 < d) (positive' : 0 < d')
    (same : n * d' = n' * d) : roundQuotient tie n d = roundQuotient tie n' d' := by
  rw [← roundQuotient_scaled tie n d positive', ← roundQuotient_scaled tie n' d' positive, same,
    Nat.mul_comm d d']

theorem Double.ofQuotient_congr {negative : Bool} (positive : 0 < d) (positive' : 0 < d')
    (same : n * d' = n' * d) : ofQuotient negative n d = ofQuotient negative n' d' := by
  by_cases zero : n = 0
  · obtain rfl : n' = 0 := by
      rw [zero, Nat.zero_mul] at same
      exact (Nat.mul_eq_zero.mp same.symm).resolve_right positive.ne'
    rw [ofQuotient, ofQuotient, if_pos zero, if_pos rfl]
  · have zero' : n' ≠ 0 := by
      rintro rfl
      rw [Nat.zero_mul] at same
      exact zero ((Nat.mul_eq_zero.mp same).resolve_right positive'.ne')
    have quotients : (n : ℚ) / d = n' / d' := by
      rw [div_eq_div_iff (by exact_mod_cast positive.ne') (by exact_mod_cast positive'.ne')]
      exact_mod_cast same
    have exponents : exponentFor n d = exponentFor n' d' := by
      obtain ⟨least, high, low⟩ :=
        exponentFor_bounds (Nat.pos_of_ne_zero zero') positive'
      rw [← quotients] at high low
      exact exponentFor_eq (Nat.pos_of_ne_zero zero) positive least high low
    have counts (e : Int) : significandAt n d e = significandAt n' d' e := by
      refine roundQuotient_congr (Nat.mul_pos positive (twoTo_pos _))
        (Nat.mul_pos positive' (twoTo_pos _)) ?_
      calc n * twoTo (-e) * (d' * twoTo e) = n * d' * (twoTo (-e) * twoTo e) := by ring
        _ = n' * twoTo (-e) * (d * twoTo e) := by
          rw [same]
          ring
    rw [ofQuotient_of_pos _ (Nat.pos_of_ne_zero zero),
      ofQuotient_of_pos _ (Nat.pos_of_ne_zero zero'), exponents, counts]

end Quotients

namespace Double

variable {n d : Nat}

theorem ofQuotient_beyond (negative : Bool) (some : 0 < n) (positive : 0 < d)
    (large : (10 : ℚ) ^ (400 : ℤ) ≤ n / d) : ofQuotient negative n d = infinite negative := by
  have beyond : 971 < exponentFor n d := by
    obtain ⟨-, high, -⟩ := exponentFor_bounds some positive
    have power : 2 ^ 52 * (2 : ℚ) ^ (973 : ℤ) ≤ n / d := by
      refine le_trans ?_ large
      exact_mod_cast (by decide +kernel : 2 ^ 52 * 2 ^ 973 ≤ 10 ^ 400)
    have := lt_of_two_zpow_le power high
    omega
  rw [ofQuotient_of_pos negative some, pack_beyond beyond, pack_beyond (by omega), ite_self]

theorem ofQuotient_beneath (negative : Bool) (some : 0 < n) (positive : 0 < d)
    (small : (n : ℚ) / d < 10 ^ (-400 : ℤ)) : ofQuotient negative n d = signedZero negative := by
  have tiny : (n : ℚ) / d < 2 ^ (-1076 : ℤ) := by
    refine small.trans ?_
    rw [zpow_neg, zpow_neg]
    refine inv_strictAnti₀ (by positivity) ?_
    exact_mod_cast (by decide +kernel : 2 ^ 1076 < 10 ^ 400)
  have least : exponentFor n d = -1074 := by
    refine exponentFor_eq some positive le_rfl (tiny.trans ?_) (.inr rfl)
    have := zpow_le_zpow_right₀ (one_le_two : (1 : ℚ) ≤ 2) (by decide : (-1076 : ℤ) ≤ -1074)
    linarith [two_zpow_pos (-1074)]
  have nothing : significandAt n d (-1074) = 0 := by
    refine significandAt_of_near positive ?_
    have step : (2 : ℚ) ^ (-1076 : ℤ) = 2 ^ (-1074 : ℤ) / 4 := by
      rw [(by decide : (-1076 : ℤ) = -1074 - 2), zpow_sub₀ two_ne_zero]
      norm_num
    have size : (0 : ℚ) ≤ n / d := by positivity
    rw [Nat.cast_zero, sub_zero, abs_of_nonneg (div_nonneg size (two_zpow_pos _).le),
      div_lt_iff₀ (two_zpow_pos _)]
    linarith [two_zpow_pos (-1074)]
  rw [ofQuotient_of_pos negative some, least, nothing]
  rfl

end Double

namespace Decimal

theorem toDouble_eq (x : Decimal) : x.toDouble =
    Double.ofQuotient x.negative (x.coefficient * tenTo x.exponent) (tenTo (-x.exponent)) := by
  rw [toDouble]
  split
  case isTrue zero => rw [zero, Nat.zero_mul, Double.ofQuotient, if_pos rfl]
  case isFalse nonzero =>
  have some := Nat.pos_of_ne_zero nonzero
  obtain ⟨low, high⟩ := magnitude_bounds some x.exponent
  have filled := Nat.mul_pos some (tenTo_pos x.exponent)
  have steps {a b : ℤ} (le : a ≤ b) : (10 : ℚ) ^ a ≤ 10 ^ b := zpow_le_zpow_right₀ (by norm_num) le
  simp only
  split
  case isTrue large =>
    refine (Double.ofQuotient_beyond _ filled (tenTo_pos _) ?_).symm
    rw [cast_decimal]
    exact (steps (by omega)).trans low
  case isFalse =>
  split
  case isTrue small =>
    refine (Double.ofQuotient_beneath _ filled (tenTo_pos _) ?_).symm
    rw [cast_decimal]
    exact high.trans_le (steps (by omega))
  case isFalse => rfl

def shift (x : Decimal) (zeros : ℕ) : Decimal :=
  ⟨x.negative, x.coefficient * 10 ^ zeros, x.exponent - zeros⟩

variable (x : Decimal) (zeros : ℕ)

theorem shift_shift (a b : ℕ) : (x.shift a).shift b = x.shift (a + b) := by
  simp [shift, pow_add, Nat.mul_assoc, Int.sub_sub]

theorem rational_shift : (x.shift zeros).rational = x.rational := by
  rw [rational, rational, shift, Double.signed_mul, zpow_sub₀ (by norm_num), zpow_natCast]
  push_cast
  field_simp

theorem toDouble_shift : (x.shift zeros).toDouble = x.toDouble := by
  rw [toDouble_eq, toDouble_eq, shift]
  refine Double.ofQuotient_congr (tenTo_pos _) (tenTo_pos _) ?_
  have powers : 10 ^ zeros * tenTo (x.exponent - zeros) * tenTo (-x.exponent) =
      tenTo x.exponent * tenTo (-(x.exponent - zeros)) := by
    simp only [tenTo, Nat.pow_eq, ← Nat.pow_add]
    congr 1
    omega
  rw [Nat.mul_assoc, Nat.mul_assoc, ← Nat.mul_assoc (10 ^ zeros), powers, Nat.mul_assoc]

theorem exponent_trimZeros (zero : x.trimZeros.coefficient = 0) : x.trimZeros.exponent = 0 := by
  fun_induction trimZeros x with
  | case1 => rfl
  | case2 x nonzero tens ih => exact ih zero
  | case3 x nonzero other => exact absurd zero nonzero

theorem exists_shift_trimZeros (some : x.coefficient ≠ 0) :
    ∃ zeros, x = x.trimZeros.shift zeros := by
  fun_induction trimZeros x with
  | case1 x zero => exact absurd zero some
  | case2 x nonzero tens ih =>
      obtain ⟨zeros, same⟩ := ih (by simp only; omega)
      refine ⟨zeros + 1, ?_⟩
      have step : x = shift ⟨x.negative, x.coefficient / 10, x.exponent + 1⟩ 1 := by
        rw [shift, pow_one, Nat.div_mul_cancel (Nat.dvd_of_mod_eq_zero tens)]
        simp
      exact step.trans ((congrArg (shift · 1) same).trans (shift_shift ..))
  | case3 x nonzero other => exact ⟨0, by simp [shift]⟩

theorem rational_trimZeros : x.trimZeros.rational = x.rational := by
  by_cases zero : x.coefficient = 0
  · rw [trimZeros, dif_pos zero, rational, rational, zero]
    cases x.negative <;> simp [Double.signed]
  · obtain ⟨zeros, same⟩ := x.exists_shift_trimZeros zero
    conv_rhs => rw [same, rational_shift]

theorem toDouble_trimZeros : x.trimZeros.toDouble = x.toDouble := by
  by_cases zero : x.coefficient = 0
  · rw [trimZeros, dif_pos zero, toDouble, toDouble, if_pos rfl, if_pos zero]
  · obtain ⟨zeros, same⟩ := x.exists_shift_trimZeros zero
    conv_rhs => rw [same, toDouble_shift]

end Decimal

namespace Double

variable {negative : Bool} {m n d : Nat} {e : Int}

/-- A number is as near to a double as a decimal of seventeen digits can be. -/
def Near (v : ℚ) (m : Nat) (e : Int) : Prop := |v - m * 2 ^ e| * (2 * 10 ^ 16) ≤ m * 2 ^ e

theorem Near.bounds {v : ℚ} (near : Near v m e) (positive : 0 < m) (bits : m < significandLimit) :
    |v / 2 ^ e - m| * (2 * 10 ^ 16) ≤ m ∧ (m : ℚ) + 1 ≤ 2 ^ 53 ∧ 0 < v := by
  have unit := two_zpow_pos e
  have some : (0 : ℚ) < m := by exact_mod_cast positive
  have scaled : v / 2 ^ e - m = (v - m * 2 ^ e) / 2 ^ e := by field_simp
  have size := mul_pos some unit
  refine ⟨?_, by exact_mod_cast bits, ?_⟩
  · rw [scaled, abs_div, abs_of_pos unit, div_mul_eq_mul_div, div_le_iff₀ unit]
    exact near
  · by_contra least
    have side : |v - m * 2 ^ e| = m * 2 ^ e - v := by
      rw [abs_sub_comm]
      exact abs_of_nonneg (by linarith)
    rw [Near, side] at near
    linarith

theorem ofQuotient_of_near (canonical : Canonical m e) (positive : 0 < m) (unit : 0 < d)
    (near : Near (n / d) m e) : ofQuotient negative n d = finite negative m e canonical := by
  have ⟨bits, least, inRange, normal⟩ := canonical
  obtain ⟨close, most, filled⟩ := near.bounds positive bits
  have some : 0 < n := by
    by_contra none
    obtain rfl : n = 0 := by omega
    simp at filled
  have power := two_zpow_pos e
  have size : (0 : ℚ) < m := by exact_mod_cast positive
  have half : |(n : ℚ) / d / 2 ^ e - m| < 1 / 2 := by linarith
  have high : (n : ℚ) / d < 2 ^ 53 * 2 ^ e := by
    rw [← div_lt_iff₀ power]
    have := (abs_lt.mp half).2
    linarith
  rw [ofQuotient_eq_finite_iff canonical some unit]
  refine ⟨rfl, ?_⟩
  by_cases low : 2 ^ 52 * (2 : ℚ) ^ e ≤ n / d ∨ e = -1074
  · exact .inl ⟨exponentFor_eq some unit least high low, significandAt_of_near unit half⟩
  · -- Only beneath a power of two the quotient gets the exponent beneath.
    rw [not_or, not_le] at low
    obtain ⟨less, above⟩ := low
    have long : leastNormal ≤ m := normal.resolve_right above
    have start : m = leastNormal := by
      have scaled := (div_lt_iff₀ power).mpr less
      have beneath : (m : ℚ) < 2 ^ 52 + 1 := by
        have := (abs_lt.mp half).1
        linarith
      have beneath : m < 2 ^ 52 + 1 := by exact_mod_cast beneath
      exact Nat.le_antisymm (Nat.le_of_lt_succ beneath) long
    subst start
    have step := two_zpow_succ (e - 1)
    rw [sub_add_cancel] at step
    have fraction : (n : ℚ) / d / 2 ^ (e - 1) = 2 * (n / d / 2 ^ e) := by
      rw [step]
      field_simp
    have number : ((leastNormal : ℕ) : ℚ) = 2 ^ 52 := by norm_num [leastNormal]
    rw [number] at close
    have sides := abs_le.mp (by linarith : |(n : ℚ) / d / 2 ^ e - 2 ^ 52| ≤ 2 ^ 52 / (2 * 10 ^ 16))
    refine .inr ⟨exponentFor_eq some unit (by omega) ?_ (.inl ?_), significandAt_of_near unit ?_,
      rfl⟩
    · rw [step] at less
      linarith
    · rw [← le_div_iff₀ (two_zpow_pos _), fraction]
      linarith
    · have limit : ((significandLimit : ℕ) : ℚ) = 2 ^ 53 := by norm_num [significandLimit]
      rw [fraction, limit, abs_lt]
      constructor <;> linarith

theorem toDouble_of_near {c : Nat} {k : Int} (canonical : Canonical m e) (positive : 0 < m)
    (near : Near (c * 10 ^ k) m e) :
    (⟨negative, c, k⟩ : Decimal).toDouble = finite negative m e canonical := by
  rw [Decimal.toDouble_eq]
  refine ofQuotient_of_near canonical positive (tenTo_pos _) ?_
  rwa [cast_decimal]

theorem cast_exact (m : Nat) (e : Int) :
    ((m * twoTo e : ℕ) : ℚ) / (twoTo (-e) : ℕ) = m * 2 ^ e := by
  rw [two_zpow_eq, Nat.cast_mul, mul_div_assoc]

theorem ten_zpow_decimalMagnitude_le (some : 0 < n) (positive : 0 < d) :
    (10 : ℚ) ^ decimalMagnitude n d ≤ n / d := by
  have unit : (0 : ℚ) < d := by exact_mod_cast positive
  rw [le_div_iff₀ unit, decimalMagnitude]
  split
  case isTrue large =>
    have filled : 0 < n / d := Nat.div_pos large positive
    have digits : 0 < digitCount (n / d) := List.length_pos_iff.mpr Nat.toDigits_ne_nil
    have power : ((digitCount (n / d) : ℤ) - 1) = (digitCount (n / d) - 1 : ℕ) := by omega
    have whole : 10 ^ (digitCount (n / d) - 1) * d ≤ n :=
      (Nat.mul_le_mul_right d (ten_pow_le_of_digitCount filled)).trans (Nat.div_mul_le_self n d)
    rw [power, zpow_natCast]
    exact_mod_cast whole
  case isFalse small =>
    obtain ⟨parts, shape⟩ : ∃ parts, parts = (d + n - 1) / n := ⟨_, rfl⟩
    have enough : d ≤ parts * n := by
      have remainder := Nat.div_add_mod (d + n - 1) n
      have less := Nat.mod_lt (d + n - 1) some
      rw [← shape, Nat.mul_comm] at remainder
      omega
    have bound : parts ≤ 10 ^ digitCount (parts - 1) := by
      have := lt_ten_pow_digitCount (parts - 1)
      omega
    have whole : d ≤ 10 ^ digitCount (parts - 1) * n :=
      enough.trans (Nat.mul_le_mul_right n bound)
    rw [← shape, zpow_neg, zpow_natCast, inv_mul_le_iff₀ (by positivity)]
    exact_mod_cast whole

theorem isSome_nearestOnGrid?_iff {x : Double} {k : Int} :
    (nearestOnGrid? x negative n d k).isSome = true ↔
      (⟨negative, n * tenTo (-k) / (d * tenTo k), k⟩ : Decimal).toDouble = x ∨
        (⟨negative, n * tenTo (-k) / (d * tenTo k) + 1, k⟩ : Decimal).toDouble = x := by
  unfold nearestOnGrid?
  simp only
  split
  case h_1 low high => simp [of_decide_eq_true low]
  case h_2 low high => simp [of_decide_eq_true low]
  case h_3 low high => simp [of_decide_eq_true high]
  case h_4 low high => simp [of_decide_eq_false low, of_decide_eq_false high]

theorem isSome_nearestOnGrid? (negative : Bool) (canonical : Canonical m e) (positive : 0 < m) :
    (nearestOnGrid? (finite negative m e canonical) negative (m * twoTo e) (twoTo (-e))
      (decimalMagnitude (m * twoTo e) (twoTo (-e)) - 16)).isSome = true := by
  have magnitude :=
    ten_zpow_decimalMagnitude_le (Nat.mul_pos positive (twoTo_pos e)) (twoTo_pos (-e))
  obtain ⟨k, shape⟩ : ∃ k, k = decimalMagnitude (m * twoTo e) (twoTo (-e)) - 16 := ⟨_, rfl⟩
  have grid : (10 : ℚ) ^ k * 10 ^ 16 ≤ m * 2 ^ e := by
    rw [← cast_exact, ← zpow_natCast, ← zpow_add₀ (by norm_num), shape]
    simpa using magnitude
  have unit := ten_zpow_pos k
  obtain ⟨f, least, most, whole, -⟩ := roundQuotient_fraction .even (m * twoTo e * tenTo (-k))
    (Nat.mul_pos (twoTo_pos (-e)) (tenTo_pos k))
  rw [cast_grid_div, cast_exact, div_eq_iff unit.ne'] at whole
  rw [← shape, isSome_nearestOnGrid?_iff]
  generalize m * twoTo e * tenTo (-k) / (twoTo (-e) * tenTo k) = floor at whole ⊢
  rcases le_total f (1 / 2) with beneath | above
  · refine .inl (toDouble_of_near canonical positive ?_)
    rw [Near, abs_sub_comm, whole, ← sub_mul, add_sub_cancel_left, abs_mul, abs_of_pos unit,
      abs_of_nonneg least]
    rw [whole] at grid
    nlinarith
  · refine .inr (toDouble_of_near canonical positive ?_)
    have distance : ((floor + 1 : ℕ) : ℚ) * 10 ^ k - (floor + f) * 10 ^ k = (1 - f) * 10 ^ k := by
      push_cast
      ring
    rw [Near, whole, distance, abs_mul, abs_of_pos unit, abs_of_nonneg (by linarith)]
    rw [whole] at grid
    nlinarith

theorem exists_shortest (negative : Bool) (canonical : Canonical m e) (positive : 0 < m) :
    ∃ y, ((List.range 17).findSome? fun (extra : ℕ) =>
        nearestOnGrid? (finite negative m e canonical) negative (m * twoTo e) (twoTo (-e))
          (decimalMagnitude (m * twoTo e) (twoTo (-e)) - extra)) = some y ∧
      (finite negative m e canonical).shortest = y.trimZeros := by
  have seventeen := isSome_nearestOnGrid? negative canonical positive
  rw [shortest, if_neg positive.ne']
  simp only
  generalize decimalMagnitude (m * twoTo e) (twoTo (-e)) = magnitude at seventeen ⊢
  cases found : (List.range 17).findSome? fun (extra : ℕ) =>
    nearestOnGrid? (finite negative m e canonical) negative (m * twoTo e) (twoTo (-e))
      (magnitude - extra) with
  | none =>
      have last := List.findSome?_eq_none_iff.mp found 16 (by decide)
      rw [Nat.cast_ofNat] at last
      rw [last] at seventeen
      cases seventeen
  | some y => exact ⟨y, rfl, rfl⟩

variable {x : Double}

theorem shortest_toDouble (finite : x.isFinite = true) : x.shortest.toDouble = x := by
  cases x with
  | nan | infinite => cases finite
  | finite negative m e canonical =>
      by_cases zero : m = 0
      · subst zero
        have least : e = -1074 := canonical.2.2.2.resolve_left (by decide)
        subst least
        rfl
      · obtain ⟨y, found, same⟩ := exists_shortest negative canonical (Nat.pos_of_ne_zero zero)
        obtain ⟨_, -, here⟩ := List.exists_of_findSome?_eq_some found
        obtain ⟨-, -, back, -⟩ := nearestOnGrid?_cases here rfl
        rw [same, Decimal.toDouble_trimZeros, back]

theorem rational_shortest_of_isZero (zero : x.isZero = true) : x.shortest.rational = 0 := by
  cases x with
  | nan | infinite => cases zero
  | finite negative m e canonical =>
      have none : m = 0 := by simpa [isZero] using zero
      rw [shortest, if_pos none, Decimal.rational]
      cases negative <;> simp [signed]

theorem exponent_shortest (x : Double) (zero : x.shortest.coefficient = 0) :
    x.shortest.exponent = 0 := by
  cases x with
  | nan | infinite => rfl
  | finite negative m e canonical =>
      rw [shortest] at zero ⊢
      split
      case isTrue => rfl
      case isFalse some =>
        rw [if_neg some] at zero
        exact Decimal.exponent_trimZeros _ zero

end Double

end Gridbook
