import Mathlib
import Gridbook.Proofs.Number.Shortest

/-! # The fewest digits

Rounding to the nearest double keeps order, so that whatever lies between a double and a decimal
that reads back as it reads back too. A decimal with few digits therefore has a neighbour of the
double on the grid of that many digits, and the search stops there at the latest: no decimal that
reads back has fewer digits than the shortest one, and none with as few is nearer.
-/

namespace Gridbook

/-- A decimal that reads back as a double, with the fewest digits and as near to it as possible. -/
structure Decimal.IsShortest (x : Double) (t : Decimal) : Prop where
  back : t.toDouble = x
  fewest : ∀ y : Decimal, y.toDouble = x → digitCount t.coefficient ≤ digitCount y.coefficient
  nearest : ∀ (y : Decimal) (q : ℚ), y.toDouble = x →
    digitCount y.coefficient ≤ digitCount t.coefficient → x.rational? = some q →
    |q - t.rational| ≤ |q - y.rational|

section Order

variable {n d n' d' : Nat} {e : Int}

theorem roundQuotient_mono {tie : Tie} (positive : 0 < d) (positive' : 0 < d')
    (le : (n : ℚ) / d ≤ n' / d') : roundQuotient tie n d ≤ roundQuotient tie n' d' := by
  obtain ⟨f, least, most, whole, sides⟩ := roundQuotient_fraction tie n positive
  obtain ⟨f', least', most', whole', sides'⟩ := roundQuotient_fraction tie n' positive'
  rw [whole, whole'] at le
  generalize n / d = floor at *
  generalize n' / d' = floor' at *
  have order : floor ≤ floor' := by
    have : (floor : ℚ) < floor' + 1 := by linarith
    have : floor < floor' + 1 := by exact_mod_cast this
    omega
  rcases order.lt_or_eq with less | rfl
  · have up : roundQuotient tie n d ≤ floor + 1 := by grind
    have down : floor' ≤ roundQuotient tie n' d' := by grind
    omega
  · have fractions : f ≤ f' := by linarith
    obtain ⟨side, same⟩ | ⟨side, same⟩ | ⟨side, same⟩ := sides
    · grind
    · grind
    · grind

namespace Double

theorem exponentFor_mono (some : 0 < n) (positive : 0 < d) (some' : 0 < n') (positive' : 0 < d')
    (le : (n : ℚ) / d ≤ n' / d') : exponentFor n d ≤ exponentFor n' d' := by
  obtain ⟨-, -, low⟩ := exponentFor_bounds some positive
  obtain ⟨least', high', -⟩ := exponentFor_bounds some' positive'
  rcases low with low | least
  · exact lt_of_two_zpow_le (low.trans le) high'
  · omega

theorem significandAt_mono (positive : 0 < d) (positive' : 0 < d') (le : (n : ℚ) / d ≤ n' / d') :
    significandAt n d e ≤ significandAt n' d' e := by
  refine roundQuotient_mono (Nat.mul_pos positive (twoTo_pos e))
    (Nat.mul_pos positive' (twoTo_pos e)) ?_
  rw [cast_scaled_div, cast_scaled_div]
  exact div_le_div_of_nonneg_right le (two_zpow_pos e).le

variable {m : Nat} {negative : Bool}

theorem exponentFor_exact (canonical : Canonical m e) (size : 0 < m) :
    exponentFor (m * twoTo e) (twoTo (-e)) = e := by
  obtain ⟨bits, least, -, normal⟩ := canonical
  refine exponentFor_eq (Nat.mul_pos size (twoTo_pos e)) (twoTo_pos (-e)) least ?_
    (normal.imp_left fun long => ?_)
  · rw [cast_exact]
    exact mul_lt_mul_of_pos_right (by exact_mod_cast bits) (two_zpow_pos e)
  · rw [cast_exact]
    exact mul_le_mul_of_nonneg_right (by exact_mod_cast long) (two_zpow_pos e).le

theorem significandAt_of_eq (positive : 0 < d) (exact : (n : ℚ) / d = m * 2 ^ e) :
    significandAt n d e = m := by
  refine significandAt_of_near positive ?_
  rw [exact, mul_div_cancel_right₀ _ (two_zpow_pos e).ne', sub_self, abs_zero]
  norm_num

theorem ofQuotient_between (canonical : Canonical m e) (positive : 0 < d) (some : 0 < n)
    (positive' : 0 < d') (some' : 0 < n') (size : 0 < m)
    (nearest : ofQuotient negative n d = finite negative m e canonical)
    (between : (n : ℚ) / d ≤ n' / d' ∧ (n' : ℚ) / d' ≤ m * 2 ^ e ∨
      m * 2 ^ e ≤ (n' : ℚ) / d' ∧ (n' : ℚ) / d' ≤ n / d) :
    ofQuotient negative n' d' = finite negative m e canonical := by
  obtain ⟨-, rounded⟩ := (ofQuotient_eq_finite_iff canonical some positive).mp nearest
  refine (ofQuotient_eq_finite_iff canonical some' positive').mpr ⟨rfl, ?_⟩
  have filled := Nat.mul_pos size (twoTo_pos e)
  have exponent := exponentFor_exact canonical size
  have count := significandAt_of_eq (twoTo_pos (-e)) (cast_exact m e)
  rw [← cast_exact] at between
  rcases between with ⟨low, high⟩ | ⟨low, high⟩
  · have up := exponentFor_mono some positive some' positive' low
    have down := exponentFor_mono some' positive' filled (twoTo_pos (-e)) high
    rw [exponent] at down
    rcases rounded with ⟨same, number⟩ | ⟨beneath, full, start⟩
    · have above := significandAt_mono (e := e) positive positive' low
      have below := significandAt_mono (e := e) positive' (twoTo_pos (-e)) high
      exact .inl ⟨by omega, by omega⟩
    · rcases (by omega : exponentFor n' d' = e ∨ exponentFor n' d' = e - 1) with same | step
      · -- A number with the exponent of the power of two is the power itself.
        have least := (exponentFor_bounds some positive).1
        obtain ⟨-, -, long⟩ := exponentFor_bounds some' positive'
        rw [same] at long
        rw [cast_exact, start] at high
        have power : ((leastNormal : ℕ) : ℚ) = 2 ^ 52 := by norm_num [leastNormal]
        have exact : (n' : ℚ) / d' = leastNormal * 2 ^ e := by
          refine le_antisymm high ?_
          rw [power]
          exact long.resolve_right (by omega)
        exact .inl ⟨same, start ▸ significandAt_of_eq positive' exact⟩
      · have above := significandAt_mono (e := e - 1) positive positive' low
        have limit := (significandAt_exponentFor some' positive').1
        rw [step] at limit
        exact .inr ⟨step, by omega, start⟩
  · have up := exponentFor_mono filled (twoTo_pos (-e)) some' positive' low
    have down := exponentFor_mono some' positive' some positive high
    rw [exponent] at up
    rcases rounded with ⟨same, number⟩ | ⟨beneath, -, -⟩
    · have above := significandAt_mono (e := e) (twoTo_pos (-e)) positive' low
      have below := significandAt_mono (e := e) positive' positive high
      exact .inl ⟨by omega, by omega⟩
    · omega

theorem lt_ten_zpow_decimalMagnitude (some : 0 < n) (positive : 0 < d) :
    (n : ℚ) / d < 10 ^ (decimalMagnitude n d + 1) := by
  have unit : (0 : ℚ) < d := by exact_mod_cast positive
  rw [div_lt_iff₀ unit, decimalMagnitude]
  split
  case isTrue large =>
    have whole : n < 10 ^ digitCount (n / d) * d :=
      (Nat.div_lt_iff_lt_mul positive).mp (lt_ten_pow_digitCount (n / d))
    rw [sub_add_cancel, zpow_natCast]
    exact_mod_cast whole
  case isFalse small =>
    obtain ⟨parts, shape⟩ : ∃ parts, parts = (d + n - 1) / n := ⟨_, rfl⟩
    have several : 1 < parts := by
      rw [shape, Nat.lt_div_iff_mul_lt some]
      omega
    have fewer : (parts - 1) * n < d := by
      have below : parts * n ≤ d + n - 1 := shape ▸ Nat.div_mul_le_self _ n
      rw [Nat.sub_one_mul]
      omega
    have digits := ten_pow_le_of_digitCount (by omega : 0 < parts - 1)
    have whole : n * 10 ^ (digitCount (parts - 1) - 1) < d :=
      (Nat.mul_comm .. ▸ Nat.mul_le_mul_right n digits).trans_lt fewer
    have first : 0 < digitCount (parts - 1) := List.length_pos_iff.mpr Nat.toDigits_ne_nil
    have power : -(digitCount (parts - 1) : ℤ) + 1 = -((digitCount (parts - 1) - 1 : ℕ) : ℤ) := by
      omega
    rw [← shape, power, zpow_neg, zpow_natCast, lt_inv_mul_iff₀ (by positivity), mul_comm]
    exact_mod_cast whole

/-- A search through the naturals beneath a bound stops at the first one with a result. -/
theorem exists_first_of_findSome? {α : Type} {f : ℕ → Option α} {count : ℕ} {y : α}
    (found : (List.range count).findSome? f = some y) :
    ∃ i, f i = some y ∧ ∀ j < i, f j = none := by
  induction count with
  | zero => cases found
  | succ count ih =>
      rw [List.range_succ, List.findSome?_append, Option.or_eq_some_iff] at found
      rcases found with front | ⟨none, last⟩
      · exact ih front
      · refine ⟨count, by simpa using last, fun j early => ?_⟩
        exact List.findSome?_eq_none_iff.mp none j (List.mem_range.mpr early)

variable {k : Int} {x : Double} {y : Decimal}

theorem coefficient_trimZeros_pow (negative : Bool) (zeros : ℕ) (e : Int) :
    (Decimal.trimZeros ⟨negative, 10 ^ zeros, e⟩).coefficient = 1 := by
  induction zeros generalizing e with
  | zero =>
      rw [Decimal.trimZeros]
      simp
  | succ zeros ih =>
      rw [Decimal.trimZeros]
      simp only [Nat.pow_succ, Nat.mul_mod_left]
      simpa using ih (e + 1)

/-- Up to a power of ten a coefficient has no more digits than zeros of the power, without zeros at
its end. -/
theorem digitCount_trimZeros_le {digits : ℕ} (some : 0 < digits)
    (bound : y.coefficient ≤ 10 ^ digits) : digitCount y.trimZeros.coefficient ≤ digits := by
  rcases bound.lt_or_eq with less | same
  · exact (Decimal.trimZeros_bounds y).1.trans (digitCount_le_of_lt some less)
  · obtain ⟨negative, coefficient, e⟩ := y
    obtain rfl : coefficient = 10 ^ digits := same
    rw [coefficient_trimZeros_pow]
    exact some

theorem toDouble_between {c c' : ℕ} {k k' : Int} (canonical : Canonical m e) (size : 0 < m)
    (some : 0 < c) (some' : 0 < c')
    (back : (⟨negative, c, k⟩ : Decimal).toDouble = finite negative m e canonical)
    (between : (c : ℚ) * 10 ^ k ≤ c' * 10 ^ k' ∧ (c' : ℚ) * 10 ^ k' ≤ m * 2 ^ e ∨
      m * 2 ^ e ≤ (c' : ℚ) * 10 ^ k' ∧ (c' : ℚ) * 10 ^ k' ≤ c * 10 ^ k) :
    (⟨negative, c', k'⟩ : Decimal).toDouble = finite negative m e canonical := by
  rw [Decimal.toDouble_eq] at back ⊢
  refine ofQuotient_between canonical (tenTo_pos _) (Nat.mul_pos some (tenTo_pos k)) (tenTo_pos _)
    (Nat.mul_pos some' (tenTo_pos k')) size back ?_
  rwa [cast_decimal, cast_decimal]

/-- A decimal that reads back as a double other than zero has its sign and some digit. -/
theorem sign_of_toDouble {canonical : Canonical m e} (size : 0 < m)
    (back : y.toDouble = finite negative m e canonical) :
    y.negative = negative ∧ 0 < y.coefficient := by
  rw [Decimal.toDouble_eq] at back
  have some : 0 < y.coefficient := by
    by_contra none
    obtain zero : y.coefficient = 0 := by omega
    rw [zero, Nat.zero_mul, ofQuotient, if_pos rfl, signedZero] at back
    cases back
    exact absurd size (by decide)
  have filled := Nat.mul_pos some (tenTo_pos y.exponent)
  exact ⟨((ofQuotient_eq_finite_iff canonical filled (tenTo_pos _)).mp back).1, some⟩

/-- On a grid that so many places beneath its first digit a double has one digit more. -/
theorem digits_on_grid (size : 0 < m) {extra floor : ℕ}
    (grid : k = decimalMagnitude (m * twoTo e) (twoTo (-e)) - extra)
    (beneath : floor = m * twoTo e * tenTo (-k) / (twoTo (-e) * tenTo k)) :
    10 ^ extra ≤ floor ∧ floor < 10 ^ (extra + 1) := by
  have filled := Nat.mul_pos size (twoTo_pos e)
  have low := ten_zpow_decimalMagnitude_le filled (twoTo_pos (-e))
  have high := lt_ten_zpow_decimalMagnitude filled (twoTo_pos (-e))
  have first : decimalMagnitude (m * twoTo e) (twoTo (-e)) = (extra : ℕ) + k := by omega
  have next : ((extra : ℕ) + k + 1 : ℤ) = (extra + 1 : ℕ) + k := by
    push_cast
    ring
  have unit := ten_zpow_pos k
  have positive := Nat.mul_pos (twoTo_pos (-e)) (tenTo_pos k)
  have scaled : (0 : ℚ) < (twoTo (-e) * tenTo k : ℕ) := by exact_mod_cast positive
  rw [first, zpow_add₀ (by norm_num), zpow_natCast, ← le_div_iff₀ unit, ← cast_grid_div,
    le_div_iff₀ scaled] at low
  rw [first, next, zpow_add₀ (by norm_num), zpow_natCast, ← div_lt_iff₀ unit, ← cast_grid_div,
    div_lt_iff₀ scaled] at high
  rw [beneath, Nat.le_div_iff_mul_le positive, Nat.div_lt_iff_lt_mul positive]
  exact ⟨by exact_mod_cast low, by exact_mod_cast high⟩

/-- A decimal with no more digits does not lie between two neighbours on a grid. -/
theorem beside_grid {c floor extra : ℕ} {k k' : Int} (some : 0 < c)
    (few : digitCount c ≤ extra + 1) (first : 10 ^ extra ≤ floor) :
    (c : ℚ) * 10 ^ k' ≤ floor * 10 ^ k ∨ ((floor + 1 : ℕ) : ℚ) * 10 ^ k ≤ c * 10 ^ k' := by
  have unit := ten_zpow_pos k
  rcases le_or_gt k k' with above | less
  · obtain ⟨zeros, rfl⟩ := Int.le.dest above
    have counted : (c : ℚ) * 10 ^ (k + zeros) = (c * 10 ^ zeros : ℕ) * 10 ^ k := by
      rw [zpow_add₀ (by norm_num), zpow_natCast]
      push_cast
      ring
    rw [counted]
    refine (le_or_gt (c * 10 ^ zeros) floor).imp (fun le => ?_) fun gt => ?_
    · exact mul_le_mul_of_nonneg_right (by exact_mod_cast le) unit.le
    · exact mul_le_mul_of_nonneg_right (by exact_mod_cast gt) unit.le
  · -- With a smaller exponent all of the decimal stands beneath the first digit on the grid.
    refine .inl ?_
    calc (c : ℚ) * 10 ^ k' ≤ 10 ^ (digitCount c + k') := (magnitude_bounds some k').2.le
      _ ≤ 10 ^ (extra + k : ℤ) := zpow_le_zpow_right₀ (by norm_num) (by omega)
      _ = (10 ^ extra : ℕ) * 10 ^ k := by
        rw [zpow_add₀ (by norm_num), zpow_natCast]
        norm_cast
      _ ≤ floor * 10 ^ k := mul_le_mul_of_nonneg_right (by exact_mod_cast first) unit.le

/-- A decimal that reads back has a neighbour of the double between them on the grid of as many
digits, and that one reads back too. -/
theorem neighbour_of_back (canonical : Canonical m e) (size : 0 < m) {extra floor : ℕ}
    (back : y.toDouble = finite negative m e canonical) (few : digitCount y.coefficient ≤ extra + 1)
    (grid : k = decimalMagnitude (m * twoTo e) (twoTo (-e)) - extra)
    (beneath : floor = m * twoTo e * tenTo (-k) / (twoTo (-e) * tenTo k)) :
    (floor : ℚ) * 10 ^ k ≤ m * 2 ^ e ∧ (m : ℚ) * 2 ^ e ≤ (floor + 1 : ℕ) * 10 ^ k ∧
      ((⟨negative, floor, k⟩ : Decimal).toDouble = finite negative m e canonical ∧
          (y.coefficient : ℚ) * 10 ^ y.exponent ≤ floor * 10 ^ k ∨
        (⟨negative, floor + 1, k⟩ : Decimal).toDouble = finite negative m e canonical ∧
          ((floor + 1 : ℕ) : ℚ) * 10 ^ k ≤ y.coefficient * 10 ^ y.exponent) := by
  obtain ⟨rfl, some⟩ := sign_of_toDouble size back
  have first := (digits_on_grid size grid beneath).1
  obtain ⟨f, least, most, quotient, -⟩ := roundQuotient_fraction .even (m * twoTo e * tenTo (-k))
    (Nat.mul_pos (twoTo_pos (-e)) (tenTo_pos k))
  have unit := ten_zpow_pos k
  rw [cast_grid_div, cast_exact, div_eq_iff unit.ne', ← beneath] at quotient
  have low : (floor : ℚ) * 10 ^ k ≤ m * 2 ^ e := by
    rw [quotient]
    exact mul_le_mul_of_nonneg_right (by linarith) unit.le
  have high : (m : ℚ) * 2 ^ e ≤ (floor + 1 : ℕ) * 10 ^ k := by
    rw [quotient]
    refine mul_le_mul_of_nonneg_right ?_ unit.le
    push_cast
    linarith
  have filled : 0 < floor := (Nat.pow_pos (by decide)).trans_le first
  refine ⟨low, high, (beside_grid some few first).imp (fun under => ⟨?_, under⟩)
    fun beyond => ⟨?_, beyond⟩⟩
  · exact toDouble_between canonical size some filled back (.inl ⟨under, low⟩)
  · exact toDouble_between canonical size some (Nat.succ_pos floor) back (.inr ⟨high, beyond⟩)

/-- What is found on a grid is no farther from the quotient than a neighbour that reads back. -/
theorem nearest_of_nearestOnGrid? (positive : 0 < d) {floor : ℕ}
    (found : nearestOnGrid? x negative n d k = some y)
    (beneath : floor = n * tenTo (-k) / (d * tenTo k)) :
    y.negative = negative ∧ y.exponent = k ∧
      ((⟨negative, floor, k⟩ : Decimal).toDouble = x →
        |(n : ℚ) / d / 10 ^ k - y.coefficient| ≤ |(n : ℚ) / d / 10 ^ k - floor|) ∧
      ((⟨negative, floor + 1, k⟩ : Decimal).toDouble = x →
        |(n : ℚ) / d / 10 ^ k - y.coefficient| ≤ |(n : ℚ) / d / 10 ^ k - (floor + 1 : ℕ)|) := by
  have scaled := Nat.mul_pos positive (tenTo_pos k)
  have near := roundQuotient_near .even (n * tenTo (-k)) scaled
  obtain ⟨f, least, most, quotient, -⟩ := roundQuotient_fraction .even (n * tenTo (-k)) scaled
  rw [cast_grid_div, ← beneath] at quotient
  rw [cast_grid_div] at near
  obtain ⟨c, rfl, back, sides, both⟩ := nearestOnGrid?_cases found beneath
  have under : |(n : ℚ) / d / 10 ^ k - floor| = f := by
    rw [quotient, add_sub_cancel_left, abs_of_nonneg least]
  have beyond : |(n : ℚ) / d / 10 ^ k - (floor + 1 : ℕ)| = 1 - f := by
    rw [quotient, Nat.cast_succ, add_sub_add_left_eq_sub, abs_sub_comm,
      abs_of_nonneg (by linarith)]
  refine ⟨rfl, rfl, ?_⟩
  rcases sides with rfl | rfl
  · refine ⟨fun _ => le_rfl, fun other => ?_⟩
    rw [← both back other, under] at near
    simp only
    linarith
  · refine ⟨fun other => ?_, fun _ => le_rfl⟩
    rw [← both other back, beyond] at near
    simp only
    linarith

/-- The search stops on a grid on which nothing that reads back has fewer digits. -/
theorem shortest_on_grid (negative : Bool) (canonical : Canonical m e) (size : 0 < m) :
    ∃ (z : Decimal) (extra : ℕ), (finite negative m e canonical).shortest = z.trimZeros ∧
      nearestOnGrid? (finite negative m e canonical) negative (m * twoTo e) (twoTo (-e))
        (decimalMagnitude (m * twoTo e) (twoTo (-e)) - extra) = some z ∧
      digitCount z.trimZeros.coefficient ≤ extra + 1 ∧
      ∀ y : Decimal, y.toDouble = finite negative m e canonical →
        extra + 1 ≤ digitCount y.coefficient := by
  obtain ⟨z, found, same⟩ := exists_shortest negative canonical size
  obtain ⟨extra, here, earlier⟩ := exists_first_of_findSome? found
  have bound := (nearestOnGrid?_bounds here).1
  have fewer := digitCount_trimZeros_le (Nat.succ_pos extra)
    (bound.trans (digits_on_grid size rfl rfl).2)
  refine ⟨z, extra, same, here, fewer, fun y back => ?_⟩
  by_contra less
  have some : 0 < digitCount y.coefficient := List.length_pos_iff.mpr Nat.toDigits_ne_nil
  have none := earlier (digitCount y.coefficient - 1) (by omega)
  have few : digitCount y.coefficient ≤ digitCount y.coefficient - 1 + 1 := by omega
  obtain ⟨-, -, sides⟩ := neighbour_of_back canonical size back few rfl rfl
  have there := isSome_nearestOnGrid?_iff.mpr (sides.imp And.left And.left)
  rw [none] at there
  cases there

theorem abs_signed_sub (negative : Bool) (a b : ℕ) (u v : ℚ) :
    |(signed negative a : ℚ) * u - signed negative b * v| = |a * u - b * v| := by
  cases negative with
  | false => simp [signed]
  | true =>
      rw [← abs_neg]
      congr 1
      simp only [signed, if_true]
      push_cast
      ring

end Double

end Order

namespace Double

variable {x : Double}

theorem shortest_nearest {negative : Bool} {m : Nat} {e : Int} {canonical : Canonical m e}
    (size : 0 < m) {y : Decimal} (back : y.toDouble = finite negative m e canonical)
    (few : digitCount y.coefficient ≤
      digitCount (finite negative m e canonical).shortest.coefficient) :
    |(signed negative m : ℚ) * 2 ^ e - (finite negative m e canonical).shortest.rational| ≤
      |(signed negative m : ℚ) * 2 ^ e - y.rational| := by
  obtain ⟨z, extra, same, found, fewer, -⟩ := shortest_on_grid negative canonical size
  obtain ⟨k, grid⟩ : ∃ k, k = decimalMagnitude (m * twoTo e) (twoTo (-e)) - extra := ⟨_, rfl⟩
  rw [← grid] at found
  obtain ⟨sign, exponent, low, high⟩ := nearest_of_nearestOnGrid? (twoTo_pos (-e)) found rfl
  obtain ⟨under, beyond, sides⟩ := neighbour_of_back canonical size back
    (few.trans (same ▸ fewer)) grid rfl
  obtain ⟨sign', -⟩ := sign_of_toDouble size back
  have unit := ten_zpow_pos k
  rw [same, Decimal.rational_trimZeros, Decimal.rational, Decimal.rational, sign, exponent, sign',
    abs_signed_sub, abs_signed_sub]
  have scaled (c : ℕ) :
      |(m : ℚ) * 2 ^ e - c * 10 ^ k| = |(m : ℚ) * 2 ^ e / 10 ^ k - c| * 10 ^ k := by
    rw [← abs_of_pos unit, ← abs_mul, abs_of_pos unit, sub_mul, div_mul_cancel₀ _ unit.ne']
  rw [cast_exact] at low high
  generalize m * twoTo e * tenTo (-k) / (twoTo (-e) * tenTo k) = floor
    at low high under beyond sides
  rcases sides with ⟨reads, beneath⟩ | ⟨reads, above⟩
  · calc |(m : ℚ) * 2 ^ e - z.coefficient * 10 ^ k| ≤ |(m : ℚ) * 2 ^ e - floor * 10 ^ k| := by
          rw [scaled, scaled]
          exact mul_le_mul_of_nonneg_right (low reads) unit.le
      _ ≤ |(m : ℚ) * 2 ^ e - y.coefficient * 10 ^ y.exponent| :=
          abs_le_abs_of_nonneg (by linarith) (by linarith)
  · calc |(m : ℚ) * 2 ^ e - z.coefficient * 10 ^ k| ≤
          |(m : ℚ) * 2 ^ e - (floor + 1 : ℕ) * 10 ^ k| := by
          rw [scaled, scaled]
          exact mul_le_mul_of_nonneg_right (high reads) unit.le
      _ ≤ |(m : ℚ) * 2 ^ e - y.coefficient * 10 ^ y.exponent| :=
          abs_le_abs_of_nonpos (by linarith) (by linarith)

theorem shortest_isShortest (finite : x.isFinite = true) : Decimal.IsShortest x x.shortest := by
  refine ⟨shortest_toDouble finite, fun y back => ?_, fun y q back few number => ?_⟩
  · cases x with
    | nan | infinite => cases finite
    | finite negative m e canonical =>
        by_cases zero : m = 0
        · have one : digitCount 0 = 1 := by decide
          rw [shortest, if_pos zero]
          exact one.trans_le (List.length_pos_iff.mpr Nat.toDigits_ne_nil)
        · obtain ⟨z, extra, same, -, fewer, least⟩ :=
            shortest_on_grid negative canonical (Nat.pos_of_ne_zero zero)
          rw [same]
          exact fewer.trans (least y back)
  · cases x with
    | nan | infinite => cases finite
    | finite negative m e canonical =>
        cases number
        by_cases zero : m = 0
        · have nothing : (signed negative m : ℚ) * 2 ^ e = 0 := by
            rw [zero]
            cases negative <;> simp [signed]
          have none := rational_shortest_of_isZero (x := .finite negative m e canonical)
            (by simp [isZero, zero])
          rw [nothing, none, sub_self, abs_zero]
          exact abs_nonneg _
        · exact shortest_nearest (Nat.pos_of_ne_zero zero) back few

end Double

end Gridbook
