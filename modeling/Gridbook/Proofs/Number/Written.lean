import Mathlib
import Gridbook.Proofs.Number.Grouping
import Gridbook.Proofs.Number.Shortest
import Gridbook.Proofs.Number.Spelling

/-! # Doubles that are written out

A decimal is written in positional notation or with an exponent. In each form it is spelled by
digits that stand for it, and so the text of a double is read as the double.
-/

namespace Gridbook

namespace Numeral

theorem ofDigits_append (front back : List Nat) :
    ofDigits (front ++ back) = ofDigits front * 10 ^ back.length + ofDigits back := by
  induction back using List.reverseRecOn with
  | nil => simp [ofDigits]
  | append_singleton back d ih =>
      rw [← List.append_assoc, ofDigits_snoc, ofDigits_snoc, ih, List.length_append,
        List.length_singleton, Nat.pow_succ]
      ring

theorem values_of_digits {run : List Char} (each : ∀ c ∈ run, c.isDigit = true) :
    values run = run.map fun c => c.toNat - 48 := by
  refine List.map_congr_left fun c among => ?_
  rw [Text.digitValue?, if_pos (each c among), Option.getD_some]

theorem ofDigits_values_toDigits (n : Nat) : ofDigits (values (Nat.toDigits 10 n)) = n := by
  rw [values_of_digits fun c => isDigit_of_mem_toDigits, ofDigits_toDigits]

theorem ofDigits_values_zeros (count : Nat) : ofDigits (values (List.replicate count '0')) = 0 := by
  induction count with
  | zero => rfl
  | succ count ih =>
      rw [List.replicate_succ', values_append, ofDigits_append, ih]
      rfl

theorem length_values (run : List Char) : (values run).length = run.length :=
  List.length_map _

end Numeral

namespace Double

open Numeral

def shownPower (magnitude : Int) : Power where
  mark := 'e'
  sign := some (decide (magnitude < 0))
  digits := padDigits 2 magnitude.natAbs
  marked := .inl rfl
  each c among := isDecimalDigit_of_isDigit (isDigit_of_mem_padDigits among)
  filled := by simp [padDigits, Nat.toDigits_ne_nil]

theorem text_shownPower (magnitude : Int) : (shownPower magnitude).text =
    'e' :: (if magnitude < 0 then '-' else '+') :: padDigits 2 magnitude.natAbs := by
  by_cases negative : magnitude < 0 <;> simp [Power.text, shownPower, signText, negative]

theorem value_shownPower (magnitude : Int) : (shownPower magnitude).value = magnitude := by
  have digits : ofDigits (values (padDigits 2 magnitude.natAbs)) = magnitude.natAbs := by
    rw [padDigits, values_append, ofDigits_append, ofDigits_values_zeros, ofDigits_values_toDigits]
    simp
  have sign : (some (decide (magnitude < 0)) == some true) = decide (magnitude < 0) := by
    cases decide (magnitude < 0) <;> rfl
  rw [Power.value]
  simp only [shownPower, digits, sign]
  exact signed_natAbs magnitude

/-- A text spells a decimal, perhaps with more zeros at its end. -/
def SpelledBy (y : Decimal) (s : List Char) : Prop :=
  ∃ sp : Spelling, ∃ zeros, sp.text = s ∧ sp.value = y.shift zeros

variable {y : Decimal}

theorem spelledBy_of_parts (whole : List Char) (fraction : Option (List Char))
    (power : Option Power) (zeros : ℕ) (digits : ∀ c ∈ whole ++ fraction.getD [], c.isDigit = true)
    (filled : whole ++ fraction.getD [] ≠ [])
    (exact : ofDigits (values (whole ++ fraction.getD [])) = y.coefficient * 10 ^ zeros)
    (place : power.elim 0 Power.value - (fraction.getD []).length = y.exponent - zeros) :
    SpelledBy y (minusText y.negative ++
      (whole ++ (fraction.elim [] ('.' :: ·) ++ power.elim [] Power.text))) := by
  have each : ∀ c ∈ whole ++ fraction.getD [], Text.isDecimalDigit c = true :=
    fun c among => isDecimalDigit_of_isDigit (digits c among)
  refine ⟨⟨if y.negative then some true else none, whole, fraction, power,
    fun c among => each c (List.mem_append_left _ among),
    fun c among => each c (List.mem_append_right _ among), filled⟩, zeros, ?_, ?_⟩
  · cases y.negative <;> rfl
  · rw [Spelling.value, Decimal.shift, exact, place]
    cases y.negative <;> rfl

section Forms

variable {digits : List Char} (each : ∀ c ∈ digits, c.isDigit = true) (filled : digits ≠ [])
  (spelled : ofDigits (values digits) = y.coefficient)

theorem isDigit_of_mem_zeros (count : ℕ) : ∀ c ∈ List.replicate count '0', c.isDigit = true := by
  intro c among
  rw [List.eq_of_mem_replicate among]
  decide

include each spelled

theorem spelledBy_whole {count : ℕ} (size : y.exponent = count) :
    SpelledBy y (minusText y.negative ++ (digits ++ List.replicate count '0' ++ ['.', '0'])) := by
  have spells := spelledBy_of_parts (y := y) (digits ++ List.replicate count '0') (some ['0']) none
    (count + 1) ?_ (by simp) ?_ ?_
  · simpa using spells
  · rw [Option.getD_some, List.append_assoc, ← List.replicate_succ']
    exact List.forall_mem_append.mpr ⟨each, isDigit_of_mem_zeros _⟩
  · rw [Option.getD_some, List.append_assoc, ← List.replicate_succ', values_append, ofDigits_append,
      ofDigits_values_zeros, spelled, length_values, List.length_replicate, Nat.add_zero]
  · rw [size]
    push_cast
    simp

theorem spelledBy_fraction {count : ℕ} (size : y.exponent + digits.length + count = 0) :
    SpelledBy y (minusText y.negative ++ ('0' :: '.' :: List.replicate count '0' ++ digits)) := by
  have spells := spelledBy_of_parts (y := y) ['0'] (some (List.replicate count '0' ++ digits)) none
    0 ?_ (by simp) ?_ ?_
  · simpa using spells
  · rw [Option.getD_some, ← List.append_assoc, List.singleton_append, ← List.replicate_succ]
    exact List.forall_mem_append.mpr ⟨isDigit_of_mem_zeros _, each⟩
  · rw [Option.getD_some, ← List.append_assoc, List.singleton_append, ← List.replicate_succ,
      values_append, ofDigits_append, ofDigits_values_zeros, spelled]
    simp
  · simp
    omega

include filled

theorem spelledBy_point {front : ℕ} (size : y.exponent + digits.length = front)
    (inside : front ≤ digits.length) :
    SpelledBy y (minusText y.negative ++ (digits.take front ++ '.' :: digits.drop front)) := by
  have parts := List.take_append_drop front digits
  have spells := spelledBy_of_parts (y := y) (digits.take front) (some (digits.drop front)) none 0
    ?_ ?_ ?_ ?_
  · simpa using spells
  · simpa [parts] using each
  · simpa [parts] using filled
  · simpa [parts] using spelled
  · simp
    omega

theorem spelledBy_power {magnitude : Int} (size : y.exponent + digits.length - 1 = magnitude) :
    SpelledBy y (minusText y.negative ++ (digits.take 1 ++
      (if digits.length = 1 then [] else '.' :: digits.drop 1) ++
        'e' :: (if magnitude < 0 then '-' else '+') :: padDigits 2 magnitude.natAbs)) := by
  obtain ⟨c, rest, rfl⟩ := List.exists_cons_of_ne_nil filled
  have parts : [c] ++ ((if rest = [] then none else some rest).getD []) = c :: rest := by
    split
    case isTrue alone => rw [alone, Option.getD_none, List.append_nil]
    case isFalse => rfl
  have spells := spelledBy_of_parts (y := y) [c] (if rest = [] then none else some rest)
    (some (shownPower magnitude)) 0 ?_ ?_ ?_ ?_
  · rw [Option.elim_some, text_shownPower] at spells
    by_cases alone : rest = []
    · simpa [alone] using spells
    · simpa [alone] using spells
  · rwa [parts]
  · rwa [parts]
  · rw [parts, spelled, pow_zero, Nat.mul_one]
  · have count := congrArg List.length parts
    rw [List.length_append, List.length_singleton] at count
    rw [Option.elim_some, value_shownPower]
    omega

end Forms

theorem spelledBy_showDecimal (bare : y.coefficient = 0 → y.exponent = 0) :
    SpelledBy y (showDecimal y) := by
  have each : ∀ c ∈ Nat.toDigits 10 y.coefficient, c.isDigit = true :=
    fun c => isDigit_of_mem_toDigits
  have filled : Nat.toDigits 10 y.coefficient ≠ [] := Nat.toDigits_ne_nil
  have spelled := ofDigits_values_toDigits y.coefficient
  rw [showDecimal]
  change SpelledBy y (minusText y.negative ++ _)
  generalize Nat.toDigits 10 y.coefficient = digits at each filled spelled ⊢
  have some := List.length_pos_iff.mpr filled
  split
  case isTrue none =>
    have zero : ofDigits (values (List.replicate 1 '0')) = y.coefficient := by
      rw [ofDigits_values_zeros, none]
    have size : y.exponent = (0 : ℕ) := bare none
    exact spelledBy_whole (isDigit_of_mem_zeros 1) zero size
  case isFalse nonzero =>
  split
  case isTrue positional =>
    split
    case isTrue whole => exact spelledBy_whole each spelled (by omega)
    case isFalse =>
    split
    case isTrue inside => exact spelledBy_point each filled spelled (by omega) (by omega)
    case isFalse => exact spelledBy_fraction each spelled (by omega)
  case isFalse => exact spelledBy_power each filled spelled rfl

variable {x : Double}

theorem spelledBy_text (finite : x.isFinite = true) : SpelledBy x.shortest x.text.toList := by
  cases x with
  | nan | infinite => cases finite
  | finite negative m e canonical =>
      rw [text, String.toList_ofList]
      · exact spelledBy_showDecimal (exponent_shortest _)
      · simp
      · simp

/-- The text of a finite double is read as a decimal that is its shortest one, with zeros at the end
perhaps, and that reads back as the double. -/
theorem read?_text_of_finite (finite : x.isFinite = true) :
    ∃ decimal, Numeral.read? false x.text.toList = some decimal ∧
      decimal.rational = x.shortest.rational ∧ decimal.toDouble = x := by
  obtain ⟨sp, zeros, spelled, value⟩ := spelledBy_text finite
  refine ⟨_, spelled ▸ read?_text false sp, ?_, ?_⟩
  · rw [value, Decimal.rational_shift]
  · rw [value, Decimal.toDouble_shift, shortest_toDouble finite]

end Double

end Gridbook
