import Mathlib
import Gridbook.Number.Numeral
import Gridbook.Text.Quoted

/-! # Digits that are read back

The decimal digits of a natural spell it, the first of them is a zero only for zero itself, and with
its sign an integer is read as itself. In hexadecimal with a fixed width every digit has its own
place.
-/

namespace Gridbook

theorem Double.natAbs_signed (negative : Bool) (m : Nat) : (signed negative m).natAbs = m := by
  cases negative <;> simp [signed]

theorem Double.signed_natAbs (n : Int) : signed (decide (n < 0)) n.natAbs = n := by
  simp only [signed, decide_eq_true_eq]
  split <;> omega

theorem ne_of_isDigit {c d : Char} (digit : c.isDigit = true) (other : d.isDigit = false) :
    c ≠ d := by
  rintro rfl
  simp [digit] at other

theorem digitCount_le_of_lt {n k : Nat} (positive : 0 < k) (small : n < 10 ^ k) :
    digitCount n ≤ k :=
  (Nat.length_toDigits_le_iff (by omega) positive).mpr small

namespace Numeral

theorem ofDigits_toDigits (n : Nat) :
    ofDigits ((Nat.toDigits 10 n).map fun c => c.toNat - 48) = n := by
  have written := Nat.ofDigitChars_ten_toDigits (n := n)
  rw [Nat.ofDigitChars_eq_foldl] at written
  rw [ofDigits, List.foldl_map]
  simpa [Nat.mul_comm] using written

theorem isDigit_of_mem_toDigits {n : Nat} {c : Char} (among : c ∈ Nat.toDigits 10 n) :
    c.isDigit = true :=
  Nat.isDigit_of_mem_toDigits (by omega) (by omega) among

theorem toDigits_cons (n : Nat) : ∃ c digits, Nat.toDigits 10 n = c :: digits ∧ c.isDigit := by
  obtain ⟨c, digits, shape⟩ := List.exists_cons_of_ne_nil (Nat.toDigits_ne_nil (n := n) (b := 10))
  exact ⟨c, digits, shape, isDigit_of_mem_toDigits (n := n) (by simp [shape])⟩

theorem digitChar_ne_zero {d : Nat} (single : d < 10) (positive : 0 < d) : d.digitChar ≠ '0' := by
  revert d
  decide

theorem head?_toDigits_ne {n : Nat} (positive : 0 < n) :
    (Nat.toDigits 10 n).head? ≠ some '0' := by
  induction n using Nat.strong_induction_on with
  | _ n ih =>
      by_cases single : n < 10
      · rw [Nat.toDigits_of_lt_base single]
        simpa using digitChar_ne_zero single positive
      · rw [Nat.toDigits_of_base_le (by omega) (by omega),
          List.head?_append_of_ne_nil _ Nat.toDigits_ne_nil]
        exact ih (n / 10) (by omega) (by omega)

theorem ofDigits_snoc (digits : List Nat) (d : Nat) :
    ofDigits (digits ++ [d]) = ofDigits digits * 10 + d := by
  simp [ofDigits]

theorem ofDigits_lt {digits : List Nat} (single : ∀ d ∈ digits, d < 10) :
    ofDigits digits < 10 ^ digits.length := by
  induction digits using List.reverseRecOn with
  | nil => simp [ofDigits]
  | append_singleton digits d ih =>
      have before := ih fun x among => single x (List.mem_append_left _ among)
      have last := single d (by simp)
      rw [ofDigits_snoc, List.length_append, List.length_singleton, Nat.pow_succ]
      omega

theorem toList_intDigits (n : Int) :
    (intDigits n).toList = (if n < 0 then ['-'] else []) ++ Nat.toDigits 10 n.natAbs := by
  by_cases negative : n < 0 <;> simp [intDigits, negative]

theorem digitCount_ofDigits_le {chars : List Char} (some : chars ≠ [])
    (digits : ∀ c ∈ chars, c.isDigit = true) :
    digitCount (ofDigits (chars.map fun c => c.toNat - 48)) ≤ chars.length := by
  have single : ∀ d ∈ chars.map fun c => c.toNat - 48, d < 10 := by
    intro d among
    obtain ⟨c, member, rfl⟩ := List.mem_map.mp among
    have range : 48 ≤ c.toNat ∧ c.toNat ≤ 57 := Char.isDigit_iff_toNat.mp (digits c member)
    omega
  have bound := ofDigits_lt single
  rw [List.length_map] at bound
  exact digitCount_le_of_lt (List.length_pos_iff.mpr some) bound

theorem digitValue?_lt {c : Char} {v : Nat} (value : Text.digitValue? c = some v) : v < 10 := by
  unfold Text.digitValue? at value
  split at value
  case isTrue digit =>
    have range : 48 ≤ c.toNat ∧ c.toNat ≤ 57 := Char.isDigit_iff_toNat.mp digit
    obtain rfl := Option.some.inj value
    omega
  case isFalse =>
    obtain ⟨start, found, rfl⟩ := Option.map_eq_some_iff.mp value
    have range := List.find?_some found
    simp only [Bool.and_eq_true, decide_eq_true_eq] at range
    omega

theorem lt_of_mem_digitRun (underscores : Bool) (s : List Char) :
    ∀ d ∈ (digitRun underscores s).1, d < 10 := by
  fun_induction digitRun underscores s with
  | case1 => simp
  | case2 => simp
  | case3 c rest v value digits tail run ih =>
      intro d among
      rcases List.mem_cons.mp among with rfl | among
      · exact digitValue?_lt value
      · exact ih d (by rw [run]; exact among)

theorem digitRun_digits {digits : List Char} (each : ∀ c ∈ digits, c.isDigit = true) :
    digitRun false digits = (digits.map fun c => c.toNat - 48, []) := by
  induction digits with
  | nil => rw [digitRun]; rfl
  | cons c digits ih =>
      rw [List.forall_mem_cons] at each
      have value : Text.digitValue? c = some (c.toNat - 48) := by
        simp [Text.digitValue?, each.1]
      rw [digitRun, value]
      simp [ih each.2]

theorem integer?_eq_some_iff {s : List Char} {negative : Bool} {digits : List Nat} :
    integer? s = some (negative, digits) ↔
      digits ≠ [] ∧ (sign s).1 = negative ∧ digitRun false (sign s).2 = (digits, []) := by
  unfold integer?
  simp only
  split
  case h_1 tail run => grind
  case h_2 digits' some run => grind
  case h_3 none more => grind

theorem sign_intDigits (n : Int) :
    sign (intDigits n).toList = (decide (n < 0), Nat.toDigits 10 n.natAbs) := by
  rw [toList_intDigits]
  by_cases negative : n < 0
  · simp [negative, sign]
  · obtain ⟨c, digits, first, digit⟩ := toDigits_cons n.natAbs
    have noMinus : c ≠ '-' := ne_of_isDigit digit (by decide)
    have noPlus : c ≠ '+' := ne_of_isDigit digit (by decide)
    simp [negative, first, sign, noMinus, noPlus]

theorem intDigits_inj {m n : Int} (same : intDigits m = intDigits n) : m = n := by
  have parts := (sign_intDigits m).symm.trans (same ▸ sign_intDigits n)
  obtain ⟨signs, digits⟩ := Prod.mk.inj parts
  have size : m.natAbs = n.natAbs := by
    rw [← ofDigits_toDigits m.natAbs, digits, ofDigits_toDigits]
  rw [decide_eq_decide] at signs
  omega

theorem integer?_intDigits (n : Int) : integer? (intDigits n).toList =
    some (decide (n < 0), (Nat.toDigits 10 n.natAbs).map fun c => c.toNat - 48) := by
  rw [integer?_eq_some_iff, sign_intDigits]
  refine ⟨?_, rfl, digitRun_digits fun c => isDigit_of_mem_toDigits⟩
  rw [Ne, List.map_eq_nil_iff]
  exact Nat.toDigits_ne_nil

theorem isSome_read?_of_integer? {s : List Char} {negative : Bool} {digits : List Nat}
    (spells : integer? s = some (negative, digits)) : (read? false s).isSome = true := by
  obtain ⟨some, -, run⟩ := integer?_eq_some_iff.mp spells
  have whole : digits.isEmpty = false := by simpa using some
  simp [read?, leading?, run, whole, exponent]

theorem digitCount_integer? {s : List Char} {negative : Bool} {digits : List Nat}
    (spells : integer? s = some (negative, digits)) :
    digitCount (ofDigits digits) ≤ digits.length := by
  obtain ⟨some, -, run⟩ := integer?_eq_some_iff.mp spells
  have each : ∀ d ∈ digits, d < 10 := by
    have read := lt_of_mem_digitRun false (sign s).2
    rw [run] at read
    exact read
  exact digitCount_le_of_lt (List.length_pos_iff.mpr some) (ofDigits_lt each)

end Numeral

namespace Text

theorem hex_one {n : Nat} (single : n < 16) : hex 1 n = [n.digitChar] := by
  simp [hex, Nat.toDigits_of_lt_base single]

theorem hex_succ (width n : Nat) :
    hex (width + 2) n = hex (width + 1) (n / 16) ++ [(n % 16).digitChar] := by
  by_cases single : n < 16
  · have rest : n / 16 = 0 := by omega
    rw [hex, hex, rest, Nat.toDigits_of_lt_base single, Nat.toDigits_zero,
      Nat.mod_eq_of_lt single]
    simp [List.replicate_succ']
  · rw [hex, hex, Nat.toDigits_of_base_le (by omega) (by omega)]
    simp

end Text

end Gridbook
