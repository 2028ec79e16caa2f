import Mathlib
import Gridbook.Cell
import Gridbook.Proofs.Number.Digits
import Gridbook.Proofs.Number.Value

/-! # The integers in the range of doubles

An integer of at most 1023 bits has a nearest double, and one that has a nearest double takes no
more than 1024 bits. Such an integer can always be written out.
-/

namespace Gridbook

theorem roundQuotient_cases (tie : Tie) (n d : Nat) :
    roundQuotient tie n d = n / d ∨ roundQuotient tie n d = n / d + 1 := by
  unfold roundQuotient
  simp only
  split
  · exact .inl rfl
  · split
    · exact .inr rfl
    · split
      · exact .inr rfl
      · exact .inl rfl

theorem log2_lt_of_lt {n k : Nat} (positive : 0 < k) (small : n < 2 ^ k) : n.log2 < k := by
  by_cases zero : n = 0
  · rw [zero]
    exact positive
  · exact (Nat.log2_lt zero).mpr small

theorem log2_le_of_le {m n : Nat} (le : m ≤ n) : m.log2 ≤ n.log2 :=
  Nat.le_of_lt_succ (log2_lt_of_lt (Nat.succ_pos _) (le.trans_lt Nat.lt_log2_self))

theorem digitCount_le_log2 (n : Nat) : digitCount n ≤ n.log2 + 1 := by
  refine digitCount_le_of_lt (Nat.succ_pos _) (Nat.lt_log2_self.trans_le ?_)
  exact Nat.pow_le_pow_left (by decide) _

theorem mul_twoTo_lt {m k l : Nat} {e : Int} (small : m < 2 ^ k) (bounded : e ≤ l) :
    m * twoTo e < 2 ^ (k + l) := by
  have unit : twoTo e ≤ 2 ^ l := Nat.pow_le_pow_right (by decide) (by omega)
  rw [Nat.pow_add]
  exact Nat.mul_lt_mul_of_lt_of_le small unit (Nat.two_pow_pos l)

namespace Double

variable {n : Nat}

/-- Scaled by its exponent, a positive integer takes the 53 bits of a significand. -/
theorem leastNormal_mul_le (positive : n ≠ 0) :
    leastNormal * twoTo (n.log2 - 52) ≤ n * twoTo (-(n.log2 - 52)) := by
  have size := Nat.log2_self_le positive
  have least : leastNormal = 2 ^ 52 := rfl
  by_cases large : 52 ≤ n.log2
  · have shift : ((n.log2 : Int) - 52).toNat = n.log2 - 52 := by omega
    have unit : (-((n.log2 : Int) - 52)).toNat = 0 := by omega
    calc leastNormal * twoTo (n.log2 - 52)
        = 2 ^ n.log2 := by
          rw [twoTo, shift, least, Nat.pow_eq, ← Nat.pow_add]
          congr 1
          omega
      _ ≤ n * twoTo (-(n.log2 - 52)) := by
          rw [twoTo, unit]
          exact (Nat.mul_one n).symm ▸ size
  · have unit : ((n.log2 : Int) - 52).toNat = 0 := by omega
    have shift : (-((n.log2 : Int) - 52)).toNat = 52 - n.log2 := by omega
    calc leastNormal * twoTo (n.log2 - 52)
        = 2 ^ n.log2 * 2 ^ (52 - n.log2) := by
          rw [twoTo, unit, least, ← Nat.pow_add]
          have whole : n.log2 + (52 - n.log2) = 52 := by omega
          rw [whole]
          rfl
      _ ≤ n * twoTo (-(n.log2 - 52)) := by
          rw [twoTo, shift, Nat.pow_eq]
          exact Nat.mul_le_mul_right _ size

theorem exponentFor_one (positive : n ≠ 0) : exponentFor n 1 = n.log2 - 52 := by
  have long := leastNormal_mul_le positive
  have zero : Nat.log2 1 = 0 := by decide
  simp only [exponentFor, zero, Nat.cast_zero, Int.sub_zero, Nat.mul_one, Nat.not_lt.mpr long,
    if_false]
  omega

theorem pack_of_canonical {m : Nat} {e : Int} (canonical : Canonical m e) (negative : Bool) :
    pack negative m e = .finite negative m e canonical :=
  dif_pos canonical

theorem pack_beyond {e : Int} (large : 971 < e) (negative : Bool) (m : Nat) :
    pack negative m e = .infinite negative :=
  dif_neg fun canonical => absurd canonical.2.2.1 (by omega)

theorem ofInt_of_ne_zero {n : Int} (positive : n ≠ 0) :
    ∃ m, leastNormal ≤ m ∧ ofInt n =
      if m < significandLimit then pack (n < 0) m (n.natAbs.log2 - 52)
      else pack (n < 0) leastNormal (n.natAbs.log2 - 52 + 1) := by
  have size : n.natAbs ≠ 0 := Int.natAbs_ne_zero.mpr positive
  refine ⟨roundQuotient .even (n.natAbs * twoTo (-(n.natAbs.log2 - 52)))
    (twoTo (n.natAbs.log2 - 52)), ?_, ?_⟩
  · have floor := (Nat.le_div_iff_mul_le (twoTo_pos _)).mpr (leastNormal_mul_le size)
    rcases roundQuotient_cases .even (n.natAbs * twoTo (-(n.natAbs.log2 - 52)))
      (twoTo (n.natAbs.log2 - 52)) with rounded | rounded
    · rwa [rounded]
    · rw [rounded]
      exact floor.trans (Nat.le_succ _)
  · rw [ofInt, ofQuotient, if_neg size, exponentFor_one size]
    simp only [Nat.one_mul]

theorem isSome_ofInt?_of_log2_lt {n : Int} (small : n.natAbs.log2 < 1023) :
    (ofInt? n).isSome = true := by
  by_cases zero : n = 0
  · subst zero
    rfl
  obtain ⟨m, normal, nearest⟩ := ofInt_of_ne_zero zero
  rw [ofInt?, nearest]
  by_cases fits : m < significandLimit
  · rw [if_pos fits, pack_of_canonical ⟨fits, by omega, by omega, .inl normal⟩]
    rfl
  · rw [if_neg fits, pack_of_canonical ⟨by decide, by omega, by omega, .inl (Nat.le_refl _)⟩]
    rfl

theorem isFinite_of_ofInt? {n : Int} {x : Double} (nearest : ofInt? n = some x) :
    x.isFinite = true := by
  have number : ∀ negative n d, ofQuotient negative n d ≠ .nan := by
    intro negative n d
    simp only [ofQuotient, pack]
    split_ifs <;> simp [signedZero]
  unfold ofInt? at nearest
  split at nearest
  case h_1 => cases nearest
  case h_2 beyond =>
    obtain rfl := Option.some.inj nearest
    cases found : ofInt n with
    | nan => exact absurd found (number _ _ _)
    | infinite negative => exact absurd found (beyond negative)
    | finite => rfl

theorem log2_lt_of_ofInt? {n : Int} (inRange : (ofInt? n).isSome = true) :
    n.natAbs.log2 < 1024 := by
  by_contra large
  have zero : n ≠ 0 := by
    rintro rfl
    exact large (by decide)
  obtain ⟨m, -, nearest⟩ := ofInt_of_ne_zero zero
  rw [ofInt?, nearest, pack_beyond (by omega), pack_beyond (by omega), ite_self] at inRange
  cases inRange

theorem log2_lt_of_toInt? {x : Double} {n : Int} (whole : x.toInt? = some n) :
    n.natAbs.log2 < 1024 := by
  cases x with
  | nan => cases whole
  | infinite negative => cases whole
  | finite negative m e canonical =>
      simp only [toInt?] at whole
      split at whole
      case isFalse => cases whole
      case isTrue =>
        obtain rfl := Option.some.inj whole
        have scaled : m * twoTo e < 2 ^ (53 + 971) := mul_twoTo_lt canonical.1 canonical.2.2.1
        rw [natAbs_signed]
        exact log2_lt_of_lt (k := 53 + 971) (by decide) ((Nat.div_le_self _ _).trans_lt scaled)

end Double

end Gridbook
