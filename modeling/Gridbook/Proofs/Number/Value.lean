import Mathlib
import Gridbook.Number.Double

/-! # The numbers that doubles are

A finite double is a rational number. Doubles compare as these numbers do, and a double is the
integer that its number is.
-/

namespace Gridbook

theorem twoTo_pos (e : Int) : 0 < twoTo e :=
  Nat.pow_pos (by decide)

theorem two_zpow_eq (e : Int) : (2 : ℚ) ^ e = twoTo e / twoTo (-e) := by
  obtain ⟨k, rfl | rfl⟩ := e.eq_nat_or_neg
  · simp [twoTo]
  · simp [twoTo]

theorem two_zpow_of_le {least e : Int} (le : least ≤ e) :
    (2 : ℚ) ^ e = twoTo (e - least) * 2 ^ least := by
  obtain ⟨k, shift⟩ := Int.le.dest le
  have rest : e - least = k := by omega
  rw [rest, ← shift, zpow_add₀ (by norm_num), mul_comm]
  simp [twoTo]

theorem compare_cast_mul (a b : ℤ) {unit : ℚ} (positive : 0 < unit) :
    compare ((a : ℚ) * unit) (b * unit) = compare a b := by
  rcases lt_trichotomy a b with less | rfl | greater
  · rw [compare_lt_iff_lt.mpr less, compare_lt_iff_lt]
    exact mul_lt_mul_of_pos_right (by exact_mod_cast less) positive
  · rw [compare_eq_iff_eq.mpr rfl, compare_eq_iff_eq.mpr rfl]
  · rw [compare_gt_iff_gt.mpr greater, compare_gt_iff_gt]
    exact mul_lt_mul_of_pos_right (by exact_mod_cast greater) positive

namespace Double

def rational? : Double → Option ℚ
  | .finite negative m e _ => some (signed negative m * 2 ^ e)
  | _ => none

@[simp] theorem rational?_finite (negative : Bool) (m : Nat) (e : Int)
    (canonical : Canonical m e) :
    (finite negative m e canonical).rational? = some ((signed negative m : ℚ) * 2 ^ e) := rfl

theorem signed_mul (negative : Bool) (m n : Nat) :
    signed negative (m * n) = signed negative m * n := by
  cases negative <;> simp [signed]

variable {x y : Double}

theorem compare?_of_rational {p q : ℚ} (first : x.rational? = some p)
    (second : y.rational? = some q) : x.compare? y = some (compare p q) := by
  cases x with
  | nan => cases first
  | infinite negative => cases first
  | finite s₁ m₁ e₁ canonical₁ =>
      cases y with
      | nan => cases second
      | infinite negative => cases second
      | finite s₂ m₂ e₂ canonical₂ =>
          cases first
          cases second
          have left := two_zpow_of_le (Int.min_le_left e₁ e₂)
          have right := two_zpow_of_le (Int.min_le_right e₁ e₂)
          simp only [compare?]
          rw [left, right, ← mul_assoc, ← mul_assoc, signed_mul, signed_mul]
          exact congrArg some (by
            exact_mod_cast (compare_cast_mul _ _ (zpow_pos (by norm_num) (min e₁ e₂))).symm)

theorem toInt?_eq_some_iff {n : Int} : x.toInt? = some n ↔ x.rational? = some (n : ℚ) := by
  cases x with
  | nan | infinite negative => simp [toInt?, rational?]
  | finite s m e canonical =>
      have unit : (twoTo (-e) : ℚ) ≠ 0 := by exact_mod_cast (twoTo_pos (-e)).ne'
      have number : (signed s m : ℚ) * 2 ^ e = n ↔
          signed s (m * twoTo e) = n * twoTo (-e) := by
        rw [two_zpow_eq, ← mul_div_assoc, div_eq_iff unit, signed_mul]
        norm_cast
      simp only [toInt?, rational?, Option.some.injEq, number]
      constructor
      · intro given
        split at given
        case isTrue whole =>
          cases given
          rw [← signed_mul, Nat.div_mul_cancel (Nat.dvd_of_mod_eq_zero whole)]
        case isFalse => cases given
      · intro same
        have size : m * twoTo e = n.natAbs * twoTo (-e) := by
          have sizes := congrArg Int.natAbs same
          cases s <;> simpa [signed, Int.natAbs_mul] using sizes
        rw [if_pos (by rw [size, Nat.mul_mod_left]), size, Nat.mul_div_cancel _ (twoTo_pos _)]
        rw [size, signed_mul] at same
        exact congrArg some (mul_right_cancel₀ (by exact_mod_cast (twoTo_pos _).ne') same)

end Double

/-- A rational number or one of the two infinities. -/
inductive Extended where
  | infinite (negative : Bool)
  | rational (q : ℚ)
  deriving DecidableEq

namespace Double

/-- The number or infinity that a double is; not-a-number is neither. -/
def extended? : Double → Option Extended
  | .nan => none
  | .infinite negative => some (.infinite negative)
  | .finite negative m e _ => some (.rational (signed negative m * 2 ^ e))

variable {x y : Double} {v w : Extended}

theorem extended?_cases (is : x.extended? = some v) :
    (∃ negative, x = .infinite negative ∧ v = .infinite negative) ∨
      ∃ q, x.rational? = some q ∧ v = .rational q := by
  cases x with
  | nan => cases is
  | infinite negative =>
      cases is
      exact .inl ⟨negative, rfl, rfl⟩
  | finite negative m e canonical =>
      cases is
      exact .inr ⟨_, rfl, rfl⟩

theorem compare?_eq_iff (first : x.extended? = some v) (second : y.extended? = some w) :
    x.compare? y = some .eq ↔ v = w := by
  obtain ⟨s, rfl, rfl⟩ | ⟨p, left, rfl⟩ := extended?_cases first
  · obtain ⟨t, rfl, rfl⟩ | ⟨q, right, rfl⟩ := extended?_cases second
    · cases s <;> cases t <;> simp [compare?]
    · cases y with
      | nan | infinite negative => cases right
      | finite negative m e canonical => cases s <;> simp [compare?]
  · obtain ⟨t, rfl, rfl⟩ | ⟨q, right, rfl⟩ := extended?_cases second
    · cases x with
      | nan | infinite negative => cases left
      | finite negative m e canonical => cases t <;> simp [compare?]
    · rw [compare?_of_rational left right]
      simp

theorem toInt?_iff_extended {n : Int} (is : x.extended? = some v) :
    x.toInt? = some n ↔ v = .rational n := by
  rw [toInt?_eq_some_iff]
  obtain ⟨s, rfl, rfl⟩ | ⟨q, number, rfl⟩ := extended?_cases is
  · simp [rational?]
  · simp [number]

end Double

end Gridbook
