import Mathlib
import Gridbook.Proofs.Json.Short
import Gridbook.Proofs.Number.Digits
import Gridbook.Proofs.Text.Blank
import Gridbook.Settings.Check

/-! # Integers in settings documents

The decimal digits of an integer are read as that integer, and whatever a document gives as an
integer is short enough to be written out.
-/

namespace Gridbook

namespace Numeral

theorem not_isPadding_of_isDigit {c : Char} (digit : c.isDigit = true) : isPadding c = false := by
  have range : 48 ≤ c.toNat ∧ c.toNat ≤ 57 := Char.isDigit_iff_toNat.mp digit
  have solid : Text.isBlank c = false := Text.not_isBlank_of_code (by omega) (by omega)
  simp [isPadding, solid]

theorem dropLeadingZeros_toDigits (m : Nat) :
    dropLeadingZeros (Nat.toDigits 10 m) = some (Nat.toDigits 10 m) := by
  by_cases zero : m = 0
  · subst zero
    rfl
  · obtain ⟨c, digits, first, digit⟩ := toDigits_cons m
    have noZero : c ≠ '0' := by
      have head := head?_toDigits_ne (Nat.pos_of_ne_zero zero)
      simpa [first] using head
    have range : 48 ≤ c.toNat ∧ c.toNat ≤ 57 := Char.isDigit_iff_toNat.mp digit
    have notLow : c.toNat ≠ 48 := fun low => noZero (Char.toNat_inj.mp low)
    have counts : '1' ≤ c ∧ c ≤ '9' := by
      rw [Char.le_def, Char.le_def, UInt32.le_iff_toNat_le, UInt32.le_iff_toNat_le]
      exact ⟨show 49 ≤ c.toNat by omega, range.2⟩
    rw [first, dropLeadingZeros.eq_def]
    split <;> simp_all

theorem cleanedMagnitude?_toDigits (m : Nat) :
    cleanedMagnitude? (Nat.toDigits 10 m) = some (Nat.toDigits 10 m) := by
  have noPoint : dropPoint (Nat.toDigits 10 m) = Nat.toDigits 10 m := by
    have none : (Nat.toDigits 10 m).dropWhile (· != '.') = [] := by
      rw [List.dropWhile_eq_nil_iff]
      intro c among
      simpa using ne_of_isDigit (isDigit_of_mem_toDigits among) (by decide)
    rw [dropPoint, none]
  have noUnderscore : dropUnderscores (Nat.toDigits 10 m) = Nat.toDigits 10 m := by
    have kept : (Nat.toDigits 10 m).filter (· != '_') = Nat.toDigits 10 m := by
      rw [List.filter_eq_self]
      intro c among
      simpa using ne_of_isDigit (isDigit_of_mem_toDigits among) (by decide)
    rw [dropUnderscores, kept, ite_self]
  rw [cleanedMagnitude?, dropLeadingZeros_toDigits, Option.map_some, noPoint, noUnderscore]

theorem dropPadding_toDigits (m : Nat) {sign : List Char}
    (solid : ∀ c ∈ sign, isPadding c = false) :
    (((sign ++ Nat.toDigits 10 m).dropWhile isPadding).reverse.dropWhile isPadding).reverse =
      sign ++ Nat.toDigits 10 m := by
  have bare : ∀ s : List Char, (∀ c ∈ s, isPadding c = false) → s.dropWhile isPadding = s := by
    intro s none
    cases s with
    | nil => rfl
    | cons c s => simp [none c List.mem_cons_self]
  have each : ∀ c ∈ sign ++ Nat.toDigits 10 m, isPadding c = false := by
    intro c among
    rcases List.mem_append.mp among with among | among
    · exact solid c among
    · exact not_isPadding_of_isDigit (isDigit_of_mem_toDigits among)
  rw [bare _ each, bare _ (fun c among => each c (List.mem_reverse.mp among)), List.reverse_reverse]

theorem cleaned?_intDigits (n : Int) : cleaned? (intDigits n).toList =
    some ((if n < 0 then ['-'] else []) ++ Nat.toDigits 10 n.natAbs) := by
  have solid : ∀ c ∈ if n < 0 then ['-'] else [], isPadding c = false := by
    intro c among
    split at among
    · rw [List.mem_singleton.mp among]
      decide +kernel
    · simp at among
  rw [cleaned?, toList_intDigits, dropPadding_toDigits n.natAbs solid]
  by_cases negative : n < 0
  · simp [negative, cleanedMagnitude?_toDigits]
  · obtain ⟨c, digits, first, digit⟩ := toDigits_cons n.natAbs
    have noPlus : c ≠ '+' := ne_of_isDigit digit (by decide)
    have noMinus : c ≠ '-' := ne_of_isDigit digit (by decide)
    have cleaned := cleanedMagnitude?_toDigits n.natAbs
    simp only [negative, if_false, List.nil_append]
    rw [first] at cleaned ⊢
    split
    · simp_all
    · simp_all
    · exact cleaned

theorem splitSign_toDigits (n : Int) :
    splitSign ((if n < 0 then ['-'] else []) ++ Nat.toDigits 10 n.natAbs) =
      (decide (n < 0), Nat.toDigits 10 n.natAbs) := by
  by_cases negative : n < 0
  · simp [negative, splitSign]
  · obtain ⟨c, digits, first, digit⟩ := toDigits_cons n.natAbs
    have noMinus : c ≠ '-' := ne_of_isDigit digit (by decide)
    simp [negative, first, splitSign, noMinus]

theorem bareNatural?_toDigits (m : Nat) : bareNatural? (Nat.toDigits 10 m) = some m := by
  have each : (Nat.toDigits 10 m).all Char.isDigit = true :=
    List.all_eq_true.mpr fun c => isDigit_of_mem_toDigits
  by_cases zero : m = 0
  · subst zero
    rfl
  · have head := head?_toDigits_ne (Nat.pos_of_ne_zero zero)
    simp [bareNatural?, each, head, ofDigits_toDigits]

theorem not_isTooLong {s : List Char} (short : s.length ≤ Json.maxIntegerDigits) :
    isTooLong s = false := by
  have fewer := (List.takeWhile_sublist Char.isDigit (l := s)).length_le
  simp only [isTooLong, Bool.and_eq_false_iff, decide_eq_false_iff_not]
  omega

/-- A numeral that is read and not too long has no more digits than can be written. -/
theorem short_of_bareNatural? {s : List Char} {m : Nat} (fits : isTooLong s = false)
    (spelled : bareNatural? s = some m) : digitCount m ≤ Json.maxIntegerDigits := by
  unfold bareNatural? at spelled
  split at spelled
  case isTrue => simp at spelled
  case isFalse digits =>
    simp only [Bool.or_eq_true, Bool.not_eq_true', not_or, List.isEmpty_iff] at digits
    obtain ⟨filled, each⟩ := digits
    have each : ∀ c ∈ s, c.isDigit = true := by simpa using each
    split at spelled
    case isTrue => simp at spelled
    case isFalse bare =>
      obtain rfl := Option.some.inj spelled
      refine (digitCount_ofDigits_le filled each).trans ?_
      by_cases zero : s.head? = some '0'
      · have single : s.length = 1 := by simpa [zero] using bare
        rw [single]
        decide
      · have all : s.takeWhile Char.isDigit = s := List.takeWhile_eq_self_iff.mpr each
        simpa [isTooLong, zero, all] using fits

end Numeral

namespace Checked

theorem integerText_intDigits {n : Int} (short : digitCount n.natAbs ≤ Json.maxIntegerDigits) :
    integerText (intDigits n) = ok n := by
  simp only [integerText, Numeral.cleaned?_intDigits, Numeral.splitSign_toDigits,
    Numeral.not_isTooLong short, Numeral.bareNatural?_toDigits, Double.signed_natAbs,
    Bool.false_eq_true, if_false]

theorem short_of_integerText {s : String} {n : Int} (read : integerText s = ok n) :
    digitCount n.natAbs ≤ Json.maxIntegerDigits := by
  unfold integerText at read
  split at read
  case h_1 => cases read
  case h_2 numeral cleaned =>
    simp only at read
    split at read
    case isTrue => cases read
    case isFalse fits =>
      split at read
      case h_1 m spelled =>
        cases read
        rw [Double.natAbs_signed]
        exact Numeral.short_of_bareNatural? (by simpa using fits) spelled
      case h_2 => cases read

/-- An integer that a document gives can be written out if all that stands in the document can. -/
theorem short_of_integer {value : Json} {n : Int} (short : value.Short)
    (read : integer value = ok n) : digitCount n.natAbs ≤ Json.maxIntegerDigits := by
  cases short with
  | null => cases read
  | bool b => cases b <;> (cases read; decide)
  | int short =>
      cases read
      exact short
  | float x =>
      simp only [integer, integerDouble] at read
      split at read
      · cases read
      · split at read
        · cases read
        · split at read
          case isTrue small =>
            cases read
            have few : digitCount n.natAbs ≤ 19 := digitCount_le_of_lt (by omega) (by omega)
            exact few.trans (by decide)
          case isFalse => cases read
  | str s => exact short_of_integerText read
  | arr => cases read
  | obj => cases read

end Checked

end Gridbook
