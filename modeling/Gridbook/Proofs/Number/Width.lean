import Mathlib
import Gridbook.Proofs.Number.Range

/-! # How long the text of a number is

No number takes more than 4096 characters. The bounds are coarse: they follow the digits of the
significand and of the power through the search for the shortest decimal, without saying which
decimal that finds.
-/

namespace Gridbook

theorem digitCount_mono {m n : Nat} (le : m ≤ n) : digitCount m ≤ digitCount n := by
  refine digitCount_le_of_lt (List.length_pos_iff.mpr Nat.toDigits_ne_nil) (le.trans_lt ?_)
  exact (Nat.length_toDigits_le_iff (by decide) (List.length_pos_iff.mpr Nat.toDigits_ne_nil)).mp
    (Nat.le_refl _)

theorem digitCount_div_ten {n : Nat} (large : 10 ≤ n) :
    digitCount n = digitCount (n / 10) + 1 := by
  rw [digitCount, Nat.toDigits_of_base_le (by decide) large, List.length_append, digitCount]
  rfl

namespace Decimal

/-- Without the zeros at its end a decimal has no more digits, and its exponent grows by less than
there were. -/
theorem trimZeros_bounds (x : Decimal) :
    digitCount x.trimZeros.coefficient ≤ digitCount x.coefficient ∧
      min 0 x.exponent ≤ x.trimZeros.exponent ∧
      x.trimZeros.exponent ≤ max 0 x.exponent + digitCount x.coefficient := by
  fun_induction trimZeros x with
  | case1 x zero =>
      rw [zero]
      refine ⟨Nat.le_refl _, ?_, ?_⟩ <;> simp only <;> omega
  | case2 x nonzero tens ih =>
      obtain ⟨digits, low, high⟩ := ih
      have fewer : digitCount x.coefficient = digitCount (x.coefficient / 10) + 1 :=
        digitCount_div_ten (by omega)
      simp only at digits low high
      refine ⟨?_, ?_, ?_⟩ <;> omega
  | case3 x nonzero other =>
      refine ⟨Nat.le_refl _, ?_, ?_⟩ <;> omega

end Decimal

namespace Double

theorem length_padDigits (width n : Nat) :
    (padDigits width n).length = max width (digitCount n) := by
  rw [padDigits, List.length_append, List.length_replicate, ← digitCount]
  omega

theorem length_showDecimal_le (x : Decimal)
    (moderate : digitCount (x.exponent + digitCount x.coefficient - 1).natAbs ≤ 10) :
    (showDecimal x).length ≤ digitCount x.coefficient + 24 := by
  obtain ⟨digits, shape⟩ : ∃ digits, digits = Nat.toDigits 10 x.coefficient := ⟨_, rfl⟩
  have count : digitCount x.coefficient = digits.length := by rw [shape, digitCount]
  have some : 0 < digits.length := by
    rw [shape]
    exact List.length_pos_iff.mpr Nat.toDigits_ne_nil
  have sign : (if x.negative then ['-'] else []).length ≤ 1 := by
    split <;> simp
  rw [count] at moderate ⊢
  rw [showDecimal, List.length_append, ← shape]
  refine (Nat.add_le_add_right sign _).trans ?_
  simp only
  split
  · simp only [List.length_cons, List.length_nil]
    omega
  · split
    case isTrue positional =>
      simp only [isPositional, Bool.and_eq_true, decide_eq_true_eq] at positional
      split
      · simp only [List.length_append, List.length_replicate, List.length_cons, List.length_nil]
        omega
      · split
        · simp only [List.length_append, List.length_take, List.length_cons, List.length_drop]
          omega
        · simp only [List.length_append, List.length_cons, List.length_replicate]
          omega
    case isFalse =>
      have fraction : (if digits.length = 1 then [] else '.' :: digits.drop 1).length ≤
          digits.length := by
        split
        · exact Nat.zero_le _
        · simp only [List.length_cons, List.length_drop]
          omega
      simp only [List.length_append, List.length_take, List.length_cons, length_padDigits]
      omega

theorem decimalMagnitude_bounds {n d : Nat} (positive : 0 < n) :
    -(d.log2 + 1 : Int) ≤ decimalMagnitude n d ∧ decimalMagnitude n d ≤ n.log2 := by
  unfold decimalMagnitude
  split
  · have above := (digitCount_mono (Nat.div_le_self n d)).trans (digitCount_le_log2 n)
    have some : 0 < digitCount (n / d) := List.length_pos_iff.mpr Nat.toDigits_ne_nil
    omega
  · have size : (d + n - 1) / n - 1 ≤ d := by
      have many : d ≤ n * d := Nat.le_mul_of_pos_left d positive
      have bound : (d + n - 1) / n ≤ d + 1 := by
        refine Nat.div_le_of_le_mul ?_
        rw [Nat.mul_add_one]
        omega
      omega
    have above := (digitCount_mono size).trans (digitCount_le_log2 d)
    omega

/-- What is found on a grid is a neighbour of the quotient that reads back, and the nearer one where
both do. -/
theorem nearestOnGrid?_cases {x : Double} {negative : Bool} {n d floor : Nat} {k : Int}
    {y : Decimal} (found : nearestOnGrid? x negative n d k = some y)
    (beneath : floor = n * tenTo (-k) / (d * tenTo k)) :
    ∃ c, y = ⟨negative, c, k⟩ ∧ y.toDouble = x ∧ (c = floor ∨ c = floor + 1) ∧
      ((⟨negative, floor, k⟩ : Decimal).toDouble = x →
        (⟨negative, floor + 1, k⟩ : Decimal).toDouble = x →
          c = roundQuotient .even (n * tenTo (-k)) (d * tenTo k)) := by
  have sides := roundQuotient_cases .even (n * tenTo (-k)) (d * tenTo k)
  unfold nearestOnGrid? at found
  simp only at found
  rw [← beneath] at found sides
  split at found
  case h_1 low high =>
    cases found
    refine ⟨_, rfl, ?_, sides, fun _ _ => rfl⟩
    rcases sides with same | same
    · simpa only [same] using of_decide_eq_true low
    · simpa only [same] using of_decide_eq_true high
  case h_2 low high =>
    cases found
    exact ⟨floor, rfl, of_decide_eq_true low, .inl rfl,
      fun _ back => absurd back (of_decide_eq_false high)⟩
  case h_3 low high =>
    cases found
    exact ⟨floor + 1, rfl, of_decide_eq_true high, .inr rfl,
      fun back => absurd back (of_decide_eq_false low)⟩
  case h_4 => cases found

theorem nearestOnGrid?_bounds {x : Double} {negative : Bool} {n d : Nat} {k : Int} {y : Decimal}
    (found : nearestOnGrid? x negative n d k = some y) :
    y.coefficient ≤ n * tenTo (-k) / (d * tenTo k) + 1 ∧ y.exponent = k := by
  obtain ⟨c, rfl, -, sides, -⟩ := nearestOnGrid?_cases found rfl
  exact ⟨by simp only; omega, rfl⟩

theorem digitCount_grid_le {n b : Nat} {k : Int} (least : -k ≤ b) :
    digitCount (n * tenTo (-k) + 1) ≤ n.log2 + b + 2 := by
  have unit : tenTo (-k) ≤ 10 ^ b := Nat.pow_le_pow_right (by decide) (by omega)
  have size : n < 10 ^ (n.log2 + 1) :=
    Nat.lt_log2_self.trans_le (Nat.pow_le_pow_left (by decide) _)
  have product : n * tenTo (-k) < 10 ^ (n.log2 + 1) * 10 ^ b :=
    Nat.mul_lt_mul_of_lt_of_le size unit (Nat.pow_pos (by decide))
  refine digitCount_le_of_lt (by omega) (Nat.succ_le_of_lt product |>.trans_lt ?_)
  rw [← Nat.pow_add]
  exact Nat.pow_lt_pow_right (by decide) (by omega)

/-- The shortest decimal of a double has a moderate number of digits before and behind its point. -/
theorem shortest_bounds (x : Double) : digitCount x.shortest.coefficient ≤ 2116 ∧
    -1091 ≤ x.shortest.exponent ∧ x.shortest.exponent ≤ 3139 := by
  have zero : digitCount 0 ≤ 2116 ∧ (-1091 : Int) ≤ 0 ∧ (0 : Int) ≤ 3139 := by decide
  cases x with
  | nan => exact zero
  | infinite negative => exact zero
  | finite negative m e canonical =>
      rw [shortest]
      split
      case isTrue => exact zero
      case isFalse nonzero =>
        have positive : 0 < m * twoTo e := Nat.mul_pos (Nat.pos_of_ne_zero nonzero) (twoTo_pos e)
        have bits : (m * twoTo e).log2 < 1024 :=
          log2_lt_of_lt (k := 53 + 971) (by decide) (mul_twoTo_lt canonical.1 canonical.2.2.1)
        have least : (twoTo (-e)).log2 ≤ 1074 := by
          have shift : (-e).toNat ≤ 1074 := by
            have low := canonical.2.1
            omega
          rw [twoTo, Nat.pow_eq, Nat.log2_two_pow]
          exact shift
        have magnitude := decimalMagnitude_bounds (d := twoTo (-e)) positive
        simp only
        generalize decimalMagnitude (m * twoTo e) (twoTo (-e)) = k at magnitude ⊢
        cases found : (List.range 17).findSome? fun (extra : Nat) =>
          nearestOnGrid? (.finite negative m e canonical) negative (m * twoTo e) (twoTo (-e))
            (k - extra) with
        | none =>
            have bounds := Decimal.trimZeros_bounds ⟨negative, 0, 0⟩
            simp only [Option.getD_none] at bounds ⊢
            omega
        | some y =>
            obtain ⟨extra, among, here⟩ := List.exists_of_findSome?_eq_some found
            have few := List.mem_range.mp among
            obtain ⟨small, same⟩ := nearestOnGrid?_bounds here
            have bounds := Decimal.trimZeros_bounds y
            have whole := small.trans (Nat.succ_le_succ (Nat.div_le_self _ _))
            have digits := (digitCount_mono whole).trans
              (digitCount_grid_le (b := 1091) (by omega))
            simp only [Option.getD_some]
            omega

theorem length_text_le (x : Double) : x.text.length ≤ 4096 := by
  obtain ⟨digits, low, high⟩ := shortest_bounds x
  have moderate : digitCount (x.shortest.exponent + digitCount x.shortest.coefficient - 1).natAbs ≤
      10 :=
    digitCount_le_of_lt (by decide) (by omega)
  have shown := length_showDecimal_le x.shortest moderate
  cases x with
  | nan => decide
  | infinite negative => cases negative <;> decide
  | finite negative m e canonical =>
      rw [text, String.length_ofList]
      · omega
      · simp
      · simp

end Double

/-- No integer of at most 1024 bits takes more than 4096 characters. -/
theorem length_intDigits_le {n : Int} (small : n.natAbs.log2 < 1024) :
    (intDigits n).length ≤ 4096 := by
  have digits := digitCount_le_log2 n.natAbs
  rw [digitCount] at digits
  rw [← String.length_toList, Numeral.toList_intDigits, List.length_append]
  split <;> simp only [List.length_cons, List.length_nil] <;> omega

end Gridbook
