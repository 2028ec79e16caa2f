import Mathlib
import Gridbook.Proofs.Number.Range

/-! # Nearest doubles

A quotient that is rounded moves by one half at most, and the double nearest to a quotient is the
quotient rounded to a multiple of the power of two that leaves it 53 bits, or of the least one.
-/

namespace Gridbook

section Quotients

variable {tie : Tie} {n d m : Nat}

theorem roundQuotient_fraction (tie : Tie) (n : Nat) (positive : 0 < d) :
    ∃ f : ℚ, 0 ≤ f ∧ f < 1 ∧ (n : ℚ) / d = (n / d : Nat) + f ∧
      (f < 1 / 2 ∧ roundQuotient tie n d = n / d ∨
        1 / 2 < f ∧ roundQuotient tie n d = n / d + 1 ∨
        f = 1 / 2 ∧ roundQuotient tie n d = if tie.roundsUp (n / d) then n / d + 1 else n / d) := by
  have unit : (0 : ℚ) < d := by exact_mod_cast positive
  have whole : ((d * (n / d) + n % d : Nat) : ℚ) = n := by rw [Nat.div_add_mod]
  have less : ((n % d : Nat) : ℚ) / d < 1 / 2 ↔ 2 * (n % d) < d := by
    rw [div_lt_div_iff₀ unit two_pos, one_mul, mul_comm]
    exact_mod_cast Iff.rfl
  have greater : 1 / 2 < ((n % d : Nat) : ℚ) / d ↔ d < 2 * (n % d) := by
    rw [div_lt_div_iff₀ two_pos unit, one_mul, mul_comm]
    exact_mod_cast Iff.rfl
  refine ⟨((n % d : Nat) : ℚ) / d, by positivity, ?_, ?_, ?_⟩
  · rw [div_lt_one unit]
    exact_mod_cast Nat.mod_lt n positive
  · rw [← whole]
    push_cast
    field_simp
  · unfold roundQuotient
    rcases lt_trichotomy (((n % d : Nat) : ℚ) / d) (1 / 2) with below | same | above
    · exact .inl ⟨below, by simp [less.mp below]⟩
    · have notLess := less.not.mp same.not_lt
      have notGreater := greater.not.mp same.not_gt
      exact .inr (.inr ⟨same, by simp [notLess, notGreater]⟩)
    · have notLess := less.not.mp above.not_gt
      exact .inr (.inl ⟨above, by simp [notLess, greater.mp above]⟩)

theorem roundQuotient_near (tie : Tie) (n : Nat) (positive : 0 < d) :
    |(n : ℚ) / d - roundQuotient tie n d| ≤ 1 / 2 := by
  obtain ⟨f, least, most, whole, ⟨side, same⟩ | ⟨side, same⟩ | ⟨side, same⟩⟩ :=
    roundQuotient_fraction tie n positive
  · rw [same, whole, abs_le]
    constructor <;> linarith
  · rw [same, whole, abs_le]
    push_cast
    constructor <;> linarith
  · rw [same, whole, abs_le]
    split <;> push_cast <;> constructor <;> linarith

theorem eq_of_cast_near {a b : Nat} (above : (a : ℚ) < b + 1) (below : (b : ℚ) < a + 1) :
    a = b := by
  have upper : a < b + 1 := by exact_mod_cast above
  have lower : b < a + 1 := by exact_mod_cast below
  omega

theorem roundQuotient_of_near (positive : 0 < d) (near : |(n : ℚ) / d - m| < 1 / 2) :
    roundQuotient tie n d = m := by
  have bound := roundQuotient_near tie n positive
  rw [abs_lt] at near
  rw [abs_le] at bound
  exact eq_of_cast_near (by linarith) (by linarith)

/-- A quotient halfway between two naturals is rounded by the rule for ties. -/
theorem roundQuotient_of_half (positive : 0 < d) (half : (n : ℚ) / d = m + 1 / 2) :
    roundQuotient tie n d = if tie.roundsUp m then m + 1 else m := by
  obtain ⟨f, least, most, whole, sides⟩ := roundQuotient_fraction tie n positive
  have floor : n / d = m := eq_of_cast_near (by linarith) (by linarith)
  rw [floor] at sides whole
  obtain ⟨side, -⟩ | ⟨side, -⟩ | ⟨-, same⟩ := sides
  · linarith
  · linarith
  · exact same

/-- A tie that goes up leaves no quotient as much as one half above what it is rounded to. -/
theorem lt_roundQuotient_up (n : Nat) (positive : 0 < d) :
    (n : ℚ) / d < roundQuotient .up n d + 1 / 2 := by
  have bound := (abs_le.mp (roundQuotient_near .up n positive)).2
  refine lt_of_le_of_ne (by linarith) fun half => ?_
  have up : roundQuotient .up n d = _ := roundQuotient_of_half positive half
  simp [Tie.roundsUp] at up

end Quotients

section Exponents

variable {n d : Nat} {e : Int}

theorem two_zpow_pos (e : Int) : (0 : ℚ) < 2 ^ e := zpow_pos two_pos e

theorem two_zpow_succ (e : Int) : (2 : ℚ) ^ (e + 1) = 2 * 2 ^ e := by
  rw [zpow_add₀ two_ne_zero, zpow_one, mul_comm]

theorem cast_scaled_div (n d : Nat) (e : Int) :
    ((n * twoTo (-e) : Nat) : ℚ) / (d * twoTo e : Nat) = n / d / 2 ^ e := by
  rw [two_zpow_eq, Nat.cast_mul, Nat.cast_mul, mul_div_mul_comm, div_div_eq_mul_div, mul_div_assoc]

theorem cast_log2_bounds (positive : 0 < n) :
    (2 : ℚ) ^ (n.log2 : Int) ≤ n ∧ (n : ℚ) < 2 * 2 ^ (n.log2 : Int) := by
  have least := Nat.log2_self_le positive.ne'
  have most := Nat.lt_log2_self (n := n)
  rw [Nat.pow_succ] at most
  simp only [zpow_natCast]
  constructor
  · exact_mod_cast least
  · rw [mul_comm]
    exact_mod_cast most

namespace Double

/-- Some power of two leaves a quotient exactly 53 bits, and its exponent is taken unless it is
beneath the least one. -/
theorem exponentFor_eq_max (some : 0 < n) (positive : 0 < d) :
    ∃ e, exponentFor n d = max (-1074) e ∧ 2 ^ 52 * (2 : ℚ) ^ e ≤ n / d ∧
      (n : ℚ) / d < 2 ^ 53 * 2 ^ e := by
  have unit : (0 : ℚ) < d := by exact_mod_cast positive
  obtain ⟨least, most⟩ := cast_log2_bounds some
  obtain ⟨least', most'⟩ := cast_log2_bounds positive
  obtain ⟨e, shape⟩ : ∃ e : Int, e = n.log2 - d.log2 - 52 := ⟨_, rfl⟩
  have size : (2 : ℚ) ^ (n.log2 : Int) = 2 ^ 52 * 2 ^ e * 2 ^ (d.log2 : Int) := by
    rw [← zpow_natCast, ← zpow_add₀ two_ne_zero, ← zpow_add₀ two_ne_zero, shape]
    congr 1
    push_cast
    ring
  have low : 2 ^ 51 * (2 : ℚ) ^ e ≤ n / d := by
    rw [le_div_iff₀ unit]
    have power := two_zpow_pos e
    nlinarith
  have high : (n : ℚ) / d < 2 ^ 53 * 2 ^ e := by
    rw [div_lt_iff₀ unit]
    have power := two_zpow_pos e
    nlinarith
  have short : n * twoTo (-e) < leastNormal * d * twoTo e ↔ (n : ℚ) / d < 2 ^ 52 * 2 ^ e := by
    have scaled : (0 : ℚ) < (d * twoTo e : Nat) := by
      exact_mod_cast Nat.mul_pos positive (twoTo_pos e)
    rw [← div_lt_iff₀ (two_zpow_pos e), ← cast_scaled_div, div_lt_iff₀ scaled, mul_assoc]
    exact_mod_cast Iff.rfl
  unfold exponentFor
  simp only [← shape, short]
  split
  case isTrue less =>
    have unit := two_zpow_succ (e - 1)
    rw [sub_add_cancel] at unit
    rw [unit] at low less
    exact ⟨e - 1, rfl, by linarith, by linarith⟩
  case isFalse more =>
    exact ⟨e, rfl, not_lt.mp more, high⟩

theorem lt_of_two_zpow_le {low high : Int} {v : ℚ} (below : 2 ^ 52 * (2 : ℚ) ^ low ≤ v)
    (above : v < 2 ^ 53 * 2 ^ high) : low ≤ high := by
  by_contra less
  have steps : (2 : ℚ) ^ (high + 1) ≤ 2 ^ low := zpow_le_zpow_right₀ one_le_two (by omega)
  rw [two_zpow_succ] at steps
  linarith

/-- The exponent of the nearest double leaves a quotient at most 53 bits, and no fewer unless it is
the least one. -/
theorem exponentFor_bounds (some : 0 < n) (positive : 0 < d) :
    -1074 ≤ exponentFor n d ∧ (n : ℚ) / d < 2 ^ 53 * 2 ^ exponentFor n d ∧
      (2 ^ 52 * (2 : ℚ) ^ exponentFor n d ≤ n / d ∨ exponentFor n d = -1074) := by
  obtain ⟨e, shape, low, high⟩ := exponentFor_eq_max some positive
  rw [shape]
  rcases le_total (-1074) e with above | below
  · rw [max_eq_right above]
    exact ⟨above, high, .inl low⟩
  · rw [max_eq_left below]
    have steps : (2 : ℚ) ^ e ≤ 2 ^ (-1074 : Int) := zpow_le_zpow_right₀ one_le_two below
    exact ⟨le_rfl, by linarith, .inr rfl⟩

theorem exponentFor_eq (some : 0 < n) (positive : 0 < d) (least : -1074 ≤ e)
    (high : (n : ℚ) / d < 2 ^ 53 * 2 ^ e) (low : 2 ^ 52 * (2 : ℚ) ^ e ≤ n / d ∨ e = -1074) :
    exponentFor n d = e := by
  obtain ⟨least', high', low'⟩ := exponentFor_bounds some positive
  have up : exponentFor n d ≤ e := by
    rcases low' with low' | low'
    · exact lt_of_two_zpow_le low' high
    · omega
  have down : e ≤ exponentFor n d := by
    rcases low with low | low
    · exact lt_of_two_zpow_le low high'
    · omega
  omega

variable {negative : Bool} {m : Nat}

theorem signed_two_mul (negative : Bool) (m : Nat) :
    signed negative (2 * m) = 2 * signed negative m := by
  rw [Nat.mul_comm, signed_mul, Nat.cast_ofNat, Int.mul_comm]

/-- A significand that has just got a bit too many is the next power of two. -/
theorem rational?_carried (bits : m ≤ significandLimit) (least : -1074 ≤ e) (inRange : e ≤ 970)
    (normal : leastNormal ≤ m ∨ e = -1074) :
    (if m < significandLimit then pack negative m e
      else pack negative leastNormal (e + 1)).rational? =
        some ((signed negative m : ℚ) * 2 ^ e) := by
  by_cases fits : m < significandLimit
  · have canonical : Canonical m e := ⟨fits, least, by omega, normal⟩
    rw [if_pos fits, pack_of_canonical canonical, rational?_finite]
  · have full : m = 2 * leastNormal := by
      have limit : significandLimit = 2 * leastNormal := rfl
      omega
    have canonical : Canonical leastNormal (e + 1) := ⟨by decide, by omega, by omega, .inl le_rfl⟩
    rw [if_neg fits, pack_of_canonical canonical, rational?_finite, full, two_zpow_succ,
      signed_two_mul]
    push_cast
    ring_nf

/-- A quotient rounded to a count of powers of two, ties to even. -/
def significandAt (n d : Nat) (e : Int) : Nat :=
  roundQuotient .even (n * twoTo (-e)) (d * twoTo e)

theorem significandAt_near (n : Nat) (positive : 0 < d) (e : Int) :
    |(n : ℚ) / d / 2 ^ e - significandAt n d e| ≤ 1 / 2 := by
  rw [← cast_scaled_div]
  exact roundQuotient_near .even _ (Nat.mul_pos positive (twoTo_pos e))

theorem significandAt_of_near (positive : 0 < d) (near : |(n : ℚ) / d / 2 ^ e - m| < 1 / 2) :
    significandAt n d e = m := by
  rw [← cast_scaled_div] at near
  exact roundQuotient_of_near (Nat.mul_pos positive (twoTo_pos e)) near

theorem significandAt_exponentFor (some : 0 < n) (positive : 0 < d) :
    significandAt n d (exponentFor n d) ≤ significandLimit ∧
      (leastNormal ≤ significandAt n d (exponentFor n d) ∨ exponentFor n d = -1074) := by
  obtain ⟨-, high, low⟩ := exponentFor_bounds some positive
  have near := abs_le.mp (significandAt_near n positive (exponentFor n d))
  generalize exponentFor n d = e at *
  generalize significandAt n d e = m at *
  rw [← div_lt_iff₀ (two_zpow_pos e)] at high
  rw [← le_div_iff₀ (two_zpow_pos e)] at low
  refine ⟨?_, low.imp_left fun long => ?_⟩
  · have upper : (m : ℚ) < 2 ^ 53 + 1 := by linarith
    have upper : m < 2 ^ 53 + 1 := by exact_mod_cast upper
    exact Nat.le_of_lt_succ upper
  · have lower : (2 ^ 52 : ℚ) < m + 1 := by linarith
    have lower : 2 ^ 52 < m + 1 := by exact_mod_cast lower
    exact Nat.le_of_lt_succ lower

theorem ofQuotient_of_pos (negative : Bool) (some : 0 < n) :
    ofQuotient negative n d =
      if significandAt n d (exponentFor n d) < significandLimit then
        pack negative (significandAt n d (exponentFor n d)) (exponentFor n d)
      else pack negative leastNormal (exponentFor n d + 1) := by
  rw [ofQuotient, if_neg some.ne']
  rfl

/-- The double nearest to a quotient is the quotient rounded to a multiple of the power of two. -/
theorem rational?_ofQuotient (negative : Bool) (some : 0 < n) (positive : 0 < d)
    (inRange : exponentFor n d ≤ 970) :
    (ofQuotient negative n d).rational? = Option.some
      ((signed negative (significandAt n d (exponentFor n d)) : ℚ) * 2 ^ exponentFor n d) := by
  obtain ⟨bits, normal⟩ := significandAt_exponentFor some positive
  rw [ofQuotient_of_pos negative some]
  exact rational?_carried bits (exponentFor_bounds some positive).1 inRange normal

theorem pack_eq_finite_iff {negative' : Bool} (canonical : Canonical m e) {m' : Nat} {e' : Int} :
    pack negative' m' e' = finite negative m e canonical ↔
      negative' = negative ∧ m' = m ∧ e' = e := by
  unfold pack
  split
  case isTrue => simp
  case isFalse beyond =>
    refine ⟨fun same => (by cases same), ?_⟩
    rintro ⟨-, rfl, rfl⟩
    exact absurd canonical beyond

/-- A quotient has a double for its nearest one if it is rounded to the significand, or is rounded
up to it from beneath a power of two. -/
theorem ofQuotient_eq_finite_iff {negative' : Bool} (canonical : Canonical m e) (some : 0 < n)
    (positive : 0 < d) :
    ofQuotient negative' n d = finite negative m e canonical ↔ negative' = negative ∧
      (exponentFor n d = e ∧ significandAt n d e = m ∨
        exponentFor n d = e - 1 ∧ significandAt n d (e - 1) = significandLimit ∧
          m = leastNormal) := by
  have most := (significandAt_exponentFor some positive).1
  rw [ofQuotient_of_pos negative' some]
  split
  case isTrue fits =>
    rw [pack_eq_finite_iff]
    refine and_congr_right fun _ => ⟨?_, ?_⟩
    · rintro ⟨count, rfl⟩
      exact .inl ⟨rfl, count⟩
    · rintro (⟨rfl, count⟩ | ⟨exponent, count, -⟩)
      · exact ⟨count, rfl⟩
      · rw [exponent, count] at fits
        exact absurd fits (Nat.lt_irrefl _)
  case isFalse full =>
    have limit := Nat.le_antisymm most (Nat.not_lt.mp full)
    rw [pack_eq_finite_iff]
    refine and_congr_right fun _ => ⟨?_, ?_⟩
    · rintro ⟨rfl, rfl⟩
      refine .inr ⟨by omega, ?_, rfl⟩
      rwa [add_sub_cancel_right]
    · rintro (⟨rfl, count⟩ | ⟨exponent, -, start⟩)
      · have bits := canonical.1
        omega
      · exact ⟨start.symm, by omega⟩

theorem rational?_ofQuotient_exact (negative : Bool) {w : Nat} {k : Int} (bits : w < 2 ^ 53)
    (least : -1074 ≤ k) (inRange : k ≤ 970) (some : 0 < w) (positive : 0 < d)
    (exact : (n : ℚ) / d = w * 2 ^ k) :
    (ofQuotient negative n d).rational? = Option.some ((signed negative w : ℚ) * 2 ^ k) := by
  have size : (0 : ℚ) < w := by exact_mod_cast some
  have quotient : (0 : ℚ) < n / d := by
    rw [exact]
    exact mul_pos size (two_zpow_pos k)
  have filled : 0 < n := by
    by_contra none
    obtain rfl : n = 0 := by omega
    simp at quotient
  have upper : (n : ℚ) / d < 2 ^ 53 * 2 ^ k := by
    rw [exact]
    exact mul_lt_mul_of_pos_right (by exact_mod_cast bits) (two_zpow_pos k)
  obtain ⟨least', -, low⟩ := exponentFor_bounds filled positive
  have le : exponentFor n d ≤ k := by
    rcases low with low | low
    · exact lt_of_two_zpow_le low upper
    · omega
  have value := rational?_ofQuotient negative filled positive (by omega)
  have grid := two_zpow_of_le le
  rw [value]
  generalize exponentFor n d = e at *
  have whole : significandAt n d e = w * twoTo (k - e) := by
    have unit := (two_zpow_pos e).ne'
    refine significandAt_of_near positive ?_
    rw [exact, grid, ← mul_assoc, mul_div_cancel_right₀ _ unit]
    norm_num
  rw [whole, grid, signed_mul]
  push_cast
  rw [mul_assoc]

theorem add_eq_ofQuotient {x y : Double} {p q : ℚ} (first : x.rational? = some p)
    (second : y.rational? = some q) (nonzero : p + q ≠ 0) :
    ∃ n d : Nat, 0 < n ∧ 0 < d ∧ (n : ℚ) / d = |p + q| ∧ x + y = ofQuotient (p + q < 0) n d := by
  cases x with
  | nan => cases first
  | infinite negative => cases first
  | finite s₁ m₁ e₁ canonical₁ =>
      cases y with
      | nan => cases second
      | infinite negative => cases second
      | finite s₂ m₂ e₂ canonical₂ =>
          cases first
          cases second
          obtain ⟨e, least⟩ : ∃ e, min e₁ e₂ = e := ⟨_, rfl⟩
          obtain ⟨total, sum⟩ : ∃ total, total = signed s₁ (m₁ * twoTo (e₁ - e)) +
            signed s₂ (m₂ * twoTo (e₂ - e)) := ⟨_, rfl⟩
          have number :
              (signed s₁ m₁ : ℚ) * 2 ^ e₁ + (signed s₂ m₂ : ℚ) * 2 ^ e₂ = total * 2 ^ e := by
            have left : e ≤ e₁ := by omega
            have right : e ≤ e₂ := by omega
            rw [two_zpow_of_le left, two_zpow_of_le right, sum, signed_mul, signed_mul]
            push_cast
            ring
          have unit := two_zpow_pos e
          rw [number] at nonzero ⊢
          have some : total ≠ 0 := by
            rintro rfl
            simp at nonzero
          refine ⟨total.natAbs * twoTo e, twoTo (-e), ?_, twoTo_pos _, ?_, ?_⟩
          · exact Nat.mul_pos (Int.natAbs_pos.mpr some) (twoTo_pos e)
          · rw [abs_mul, abs_of_pos unit, two_zpow_eq, ← mul_div_assoc, Nat.cast_mul,
              Nat.cast_natAbs, Int.cast_abs]
          · have negative : ((total : ℚ) * 2 ^ e < 0) ↔ total < 0 := by
              have scaled := mul_lt_mul_iff_of_pos_right (b := (total : ℚ)) (c := 0) unit
              rw [zero_mul] at scaled
              exact_mod_cast scaled
            simp only [negative]
            change add _ _ = _
            rw [add]
            simp only [least, ← sum, if_neg some]
            rfl

theorem floor?_of_rational {x : Double} {q : ℚ} (number : x.rational? = some q) :
    x.floor? = some ⌊q⌋ := by
  cases x with
  | nan => cases number
  | infinite negative => cases number
  | finite s m e canonical =>
      cases number
      have quotient :
          (signed s m : ℚ) * 2 ^ e = (signed s (m * twoTo e) : ℤ) / (twoTo (-e) : ℕ) := by
        rw [two_zpow_eq, signed_mul, ← mul_div_assoc]
        push_cast
        rfl
      rw [floor?, quotient, Rat.floor_intCast_div_natCast, Int.fdiv_eq_ediv_of_nonneg]
      exact Int.natCast_nonneg _

end Double
end Exponents
end Gridbook
