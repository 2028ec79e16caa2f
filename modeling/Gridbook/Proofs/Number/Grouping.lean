import Mathlib
import Gridbook.Number.Places
import Gridbook.Proofs.Number.Width

/-! # Digits in groups

Grouped digits are one, two or three digits and then groups of three behind commas. A number in
groups is the plain number with commas in its integer part, and a trimmed number is the full number
without the zeros that end its fraction.
-/

namespace Gridbook

/-- Digits, and the same digits in groups of three that are counted from the right. -/
inductive Grouped : List Char → List Char → Prop where
  | first {digits : List Char} : digits ≠ [] → digits.length ≤ 3 → Grouped digits digits
  | next {digits text group : List Char} : Grouped digits text → group.length = 3 →
      Grouped (digits ++ group) (text ++ ',' :: group)

variable {digits text whole front group : List Char}

theorem fromRight_three (filled : digits ≠ []) :
    groupDigits.fromRight 3 digits = ',' :: groupDigits.fromRight 0 digits := by
  obtain ⟨c, rest, rfl⟩ := List.exists_cons_of_ne_nil filled
  rfl

theorem groupDigits_of_short (short : digits.length ≤ 3) : groupDigits digits = digits := by
  match digits, short with
  | [], _ | [_], _ | [_, _], _ | [_, _, _], _ => rfl

theorem groupDigits_append (filled : front ≠ []) (three : group.length = 3) :
    groupDigits (front ++ group) = groupDigits front ++ ',' :: group := by
  obtain ⟨a, b, c, rfl⟩ := List.length_eq_three.mp three
  have behind : groupDigits.fromRight 3 front.reverse = _ := fromRight_three (by simpa using filled)
  have step : groupDigits.fromRight 0 (c :: b :: a :: front.reverse) =
      c :: b :: a :: groupDigits.fromRight 3 front.reverse := rfl
  rw [groupDigits, groupDigits, List.reverse_append]
  simp only [List.reverse_cons, List.reverse_nil, List.nil_append, List.cons_append]
  rw [step, behind]
  simp

theorem grouped_groupDigits (filled : digits ≠ []) : Grouped digits (groupDigits digits) := by
  induction size : digits.length using Nat.strong_induction_on generalizing digits with
  | _ size' ih =>
      by_cases short : digits.length ≤ 3
      · rw [groupDigits_of_short short]
        exact .first filled short
      · have front : digits.take (digits.length - 3) ≠ [] := by
          rw [← List.length_pos_iff, List.length_take]
          omega
        have three : (digits.drop (digits.length - 3)).length = 3 := by
          rw [List.length_drop]
          omega
        rw [← List.take_append_drop (digits.length - 3) digits, groupDigits_append front three]
        refine .next (ih _ ?_ front rfl) three
        rw [List.length_take]
        omega

theorem Grouped.mem (grouped : Grouped digits text) {c : Char} (among : c ∈ text) :
    c ∈ digits ∨ c = ',' := by
  induction grouped with
  | first => exact .inl among
  | next _ _ ih =>
      simp only [List.mem_append, List.mem_cons] at among ⊢
      tauto

theorem filter_comma_of_plain (plain : ',' ∉ digits) : digits.filter (· != ',') = digits := by
  refine List.filter_eq_self.mpr fun c among => ?_
  rw [bne_iff_ne]
  rintro rfl
  exact plain among

theorem comma_not_mem_of_digits (each : ∀ c ∈ digits, c.isDigit = true) : ',' ∉ digits :=
  fun among => absurd (each _ among) (by decide)

theorem Grouped.filter_comma (grouped : Grouped digits text) (plain : ',' ∉ digits) :
    text.filter (· != ',') = digits := by
  induction grouped with
  | first => exact filter_comma_of_plain plain
  | next _ _ ih =>
      rw [List.mem_append, not_or] at plain
      simp [ih plain.1, filter_comma_of_plain plain.2]

def minusText (negative : Bool) : List Char := if negative then ['-'] else []

/-- A number behind a mark, and the same number with its integer part in groups. -/
inductive Punctuated (mark : List Char) : List Char → List Char → Prop where
  | intro {whole text : List Char} (negative : Bool) (fraction : Option (List Char)) :
      (∀ c ∈ whole, c.isDigit = true) → Grouped whole text →
      (∀ c ∈ fraction.getD [], c.isDigit = true) →
      Punctuated mark (mark ++ minusText negative ++ whole ++ fraction.elim [] ('.' :: ·))
        (mark ++ minusText negative ++ text ++ fraction.elim [] ('.' :: ·))

variable {mark plain grouped : List Char}

theorem Punctuated.filter_comma (punctuated : Punctuated mark plain grouped) (bare : ',' ∉ mark) :
    grouped.filter (· != ',') = plain := by
  obtain ⟨negative, fraction, wholeDigits, groups, fractionDigits⟩ := punctuated
  have sign : ',' ∉ minusText negative := by
    cases negative <;> decide
  have behind : ',' ∉ fraction.elim [] ('.' :: ·) := by
    cases fraction with
    | none => simp
    | some digits => simpa using comma_not_mem_of_digits fractionDigits
  rw [List.filter_append, List.filter_append, List.filter_append,
    groups.filter_comma (comma_not_mem_of_digits wholeDigits), filter_comma_of_plain bare,
    filter_comma_of_plain sign, filter_comma_of_plain behind]

theorem showInteger_punctuated (mark : List Char) (n : Int) :
    Punctuated mark (mark ++ showInteger false n) (mark ++ showInteger true n) := by
  have digits : ∀ c ∈ Nat.toDigits 10 n.natAbs, c.isDigit = true :=
    fun c => Numeral.isDigit_of_mem_toDigits
  have shape : Punctuated mark _ _ := .intro (decide (n < 0)) none digits
    (grouped_groupDigits Nat.toDigits_ne_nil) (by simp)
  simpa [showInteger, minusText] using shape

theorem isDigit_of_mem_padDigits {width n : Nat} {c : Char}
    (among : c ∈ Double.padDigits width n) : c.isDigit = true := by
  rcases List.mem_append.mp among with zero | digit
  · rw [(List.mem_replicate.mp zero).2]
    decide
  · exact Numeral.isDigit_of_mem_toDigits digit

variable {x : Double} {places : Nat}

theorem showPlaces_shape (finite : x.isFinite = true) (positive : 0 < places) :
    ∃ whole fraction, whole ≠ [] ∧ (∀ c ∈ whole, c.isDigit = true) ∧
      (∀ c ∈ fraction, c.isDigit = true) ∧ fraction.length = places ∧
      ∀ grouped, showPlaces grouped places x = minusText x.isNegative ++
        (if grouped then groupDigits whole else whole) ++ '.' :: fraction := by
  cases x with
  | nan => cases finite
  | infinite => cases finite
  | finite negative m e canonical =>
      obtain ⟨units, rounded⟩ : ∃ units,
        units = roundQuotient .even (m * twoTo e * tenTo places) (twoTo (-e)) := ⟨_, rfl⟩
      refine ⟨Nat.toDigits 10 (units / tenTo places),
        Double.padDigits places (units % tenTo places), Nat.toDigits_ne_nil,
        fun c => Numeral.isDigit_of_mem_toDigits, fun c => isDigit_of_mem_padDigits, ?_,
        fun grouped => ?_⟩
      · have small : units % tenTo places < 10 ^ places := Nat.mod_lt _ (Nat.pow_pos (by decide))
        rw [Double.length_padDigits]
        exact max_eq_left (digitCount_le_of_lt positive small)
      · simp only [showPlaces, ← rounded, positive.ne', if_false]
        rfl

theorem showPlaces_punctuated (finite : x.isFinite = true) (positive : 0 < places)
    (mark : List Char) :
    Punctuated mark (mark ++ showPlaces false places x) (mark ++ showPlaces true places x) := by
  obtain ⟨whole, fraction, filled, wholeDigits, fractionDigits, -, shown⟩ :=
    showPlaces_shape finite positive
  have shape : Punctuated mark _ _ := .intro x.isNegative (some fraction) wholeDigits
    (grouped_groupDigits filled) fractionDigits
  simpa [shown] using shape

/-- A number with a fraction, and the same number without the zeros at the end of its fraction and
without the point if nothing is left behind it. -/
inductive Trimmed : List Char → List Char → Prop where
  | fraction {front kept : List Char} (zeros : Nat) : '.' ∉ front → kept ≠ [] →
      kept.getLast? ≠ some '0' →
      Trimmed (front ++ '.' :: (kept ++ List.replicate zeros '0')) (front ++ '.' :: kept)
  | whole {front : List Char} (zeros : Nat) : '.' ∉ front →
      Trimmed (front ++ '.' :: List.replicate zeros '0') front

theorem exists_zeros_at_end (fraction : List Char) :
    ∃ kept zeros, fraction = kept ++ List.replicate zeros '0' ∧ kept.getLast? ≠ some '0' := by
  induction fraction using List.reverseRecOn with
  | nil => exact ⟨[], 0, rfl, by simp⟩
  | append_singleton front c ih =>
      by_cases zero : c = '0'
      · obtain ⟨kept, zeros, rfl, other⟩ := ih
        refine ⟨kept, zeros + 1, ?_, other⟩
        rw [zero, List.replicate_succ', List.append_assoc]
      · exact ⟨front ++ [c], 0, by simp, by simpa using zero⟩

theorem dropWhile_of_head? {s : List Char} {c : Char} (other : s.head? ≠ some c) :
    s.dropWhile (· == c) = s := by
  cases s with
  | nil => rfl
  | cons d rest => exact List.dropWhile_cons_of_neg (by simpa using other)

theorem dropFractionZeros_append {kept : List Char} (zeros : Nat)
    (other : kept.getLast? ≠ some '0') :
    dropFractionZeros (front ++ '.' :: (kept ++ List.replicate zeros '0')) =
      ((front ++ '.' :: kept).reverse.dropWhile (· == '.')).reverse := by
  have last : (front ++ '.' :: kept).reverse.head? ≠ some '0' := by
    rw [List.head?_reverse, List.getLast?_append]
    cases shape : kept.getLast? with
    | none => simp [List.getLast?_cons, shape]
    | some c =>
        rw [shape] at other
        simpa [List.getLast?_cons, shape] using other
  have zero : ∀ c ∈ List.replicate zeros '0', (c == '0') = true := by simp
  have split : (front ++ '.' :: (kept ++ List.replicate zeros '0')).reverse =
      List.replicate zeros '0' ++ (front ++ '.' :: kept).reverse := by simp
  rw [dropFractionZeros, if_pos (by simp), split, List.dropWhile_append_of_pos zero,
    dropWhile_of_head? last]

theorem trimmed_dropFractionZeros {fraction : List Char} (noPoint : '.' ∉ front)
    (digits : ∀ c ∈ fraction, c.isDigit = true) :
    Trimmed (front ++ '.' :: fraction) (dropFractionZeros (front ++ '.' :: fraction)) := by
  obtain ⟨kept, zeros, rfl, other⟩ := exists_zeros_at_end fraction
  rw [dropFractionZeros_append zeros other]
  have solid {s : List Char} (none : '.' ∉ s) : s.getLast? ≠ some '.' :=
    fun last => none (List.mem_of_getLast? last)
  have noPoint' : '.' ∉ kept := by
    intro among
    exact absurd (digits '.' (List.mem_append_left _ among)) (by decide)
  by_cases left : kept = []
  · subst left
    have bare : (front ++ ['.']).reverse.dropWhile (· == '.') = front.reverse := by
      rw [List.reverse_append, List.reverse_singleton, List.singleton_append,
        List.dropWhile_cons_of_pos (by decide), dropWhile_of_head?]
      rw [List.head?_reverse]
      exact solid noPoint
    rw [bare, List.reverse_reverse]
    exact .whole zeros noPoint
  · have ends : (front ++ '.' :: kept).reverse.head? ≠ some '.' := by
      rw [List.head?_reverse, List.getLast?_append_of_ne_nil _ (by simp), List.getLast?_cons,
        List.getLast?_eq_some_getLast left, Option.getD_some, Ne, Option.some.injEq]
      intro point
      exact noPoint' (point ▸ List.getLast_mem left)
    rw [dropWhile_of_head? ends, List.reverse_reverse]
    exact .fraction zeros noPoint left other

end Gridbook
