import Gridbook.Column.Display
import Gridbook.Proofs.Cell.Tame
import Gridbook.Proofs.Number.Grouping
import Gridbook.Proofs.Number.Integer

/-! # Displayed numbers

Groups only add commas to a number, and the usual display only takes zeros from the end of its
fraction. An integer is displayed as itself unless it is odd and takes all 53 bits of a double: the
half that is added to round it is lost then, and the next integer is shown.
-/

namespace Gridbook.Cell

variable {c : Cell} {x : Double} {n : Int}

theorem isFinite_of_leadingNumber? {s : String} (read : leadingNumber? s = some x) :
    x.isFinite = true := by
  obtain ⟨⟨decimal, rest⟩, -, same⟩ := Option.bind_eq_some_iff.mp read
  exact isFinite_of_finite? same

theorem isFinite_of_displayNumber? (reads : c.displayNumber? = some x) : x.isFinite = true := by
  have text (s : String) (read : (readNumber? s <|> leadingNumber? s) = some x) :
      x.isFinite = true := by
    rcases (Option.orElse_eq_some _ _ _).mp read with read | ⟨-, read⟩
    · exact isFinite_of_readNumber? read
    · exact isFinite_of_leadingNumber? read
  cases c with
  | bool b =>
      cases reads
      cases b <;> decide
  | int n => exact Double.isFinite_of_ofInt? reads
  | float y => exact isFinite_of_finite? reads
  | null | text | date | moment | error => exact text _ reads

theorem displayAmount?_cases (c : Cell) :
    (∃ s, c = text s) ∨ c.displayAmount? = c.displayNumber? := by
  cases c with
  | text s => exact .inl ⟨s, rfl⟩
  | null | bool | int | float | date | moment | error => exact .inr rfl

theorem isFinite_of_displayAmount? (reads : c.displayAmount? = some x) : x.isFinite = true := by
  obtain ⟨s, rfl⟩ | same := displayAmount?_cases c
  · exact isFinite_of_leadingNumber? reads
  · exact isFinite_of_displayNumber? (same ▸ reads)

theorem not_isEmpty_of_displayNumber? (reads : c.displayNumber? = some x) : c.isEmpty = false := by
  have nothing : (readNumber? "None" <|> leadingNumber? "None") = none := by decide +kernel
  have empty : (readNumber? "" <|> leadingNumber? "") = none := by decide +kernel
  cases c with
  | null => cases nothing.symm.trans reads
  | text s | error s =>
      refine decide_eq_false ?_
      rintro rfl
      cases empty.symm.trans reads
  | bool | int | float | date | moment => rfl

theorem not_isEmpty_of_displayAmount? (reads : c.displayAmount? = some x) : c.isEmpty = false := by
  have empty : (text "").displayAmount? = none := by decide +kernel
  obtain ⟨s, rfl⟩ | same := displayAmount?_cases c
  · refine decide_eq_false ?_
    rintro rfl
    cases empty.symm.trans reads
  · exact not_isEmpty_of_displayNumber? (same ▸ reads)

theorem display_number {thisYear : Nat} (reads : c.displayNumber? = some x) (tag : Option String) :
    (c.display thisYear (some .number) tag).toList =
      showNumber (tag.filter (· != defaultFormat)) x := by
  simp [display, not_isEmpty_of_displayNumber? reads, shownAs?, reads]

theorem display_amount {thisYear : Nat} (reads : c.displayAmount? = some x) (tag : Option String) :
    (c.display thisYear (some .currency) tag).toList =
      showAmount (tag.filter (· != defaultFormat)) x := by
  simp [display, not_isEmpty_of_displayAmount? reads, shownAs?, reads]

theorem showTrimmed_trimmed (finite : x.isFinite = true) :
    ∃ short, Trimmed (showPlaces true 3 x) short ∧
      showTrimmed x = if short = ['-', '0'] then ['0'] else short := by
  obtain ⟨whole, fraction, filled, wholeDigits, fractionDigits, -, shown⟩ :=
    showPlaces_shape finite (by decide : 0 < 3)
  have noPoint : '.' ∉ minusText x.isNegative ++ groupDigits whole := by
    rw [List.mem_append, not_or]
    constructor
    · cases x.isNegative <;> decide
    · intro among
      rcases (grouped_groupDigits filled).mem among with digit | comma
      · exact absurd (wholeDigits _ digit) (by decide)
      · exact absurd comma (by decide)
  refine ⟨dropFractionZeros (showPlaces true 3 x), ?_, rfl⟩
  rw [shown]
  exact trimmed_dropFractionZeros noPoint fractionDigits

/-- Groups add commas to the integer part of a number and nothing else, and the usual display of a
number is the one with three places, in groups and without the zeros at its end. -/
theorem displays_agree (thisYear : Nat) :
    (∀ (c : Cell) (x : Double), c.displayNumber? = some x →
      let shown tag := (c.display thisYear (some .number) tag).toList
      Punctuated [] (shown (some "0")) (shown (some "0,0")) ∧
      (shown (some "0,0")).filter (· != ',') = shown (some "0") ∧
      Punctuated [] (shown (some "0.00")) (shown (some "0,0.00")) ∧
      (shown (some "0,0.00")).filter (· != ',') = shown (some "0.00") ∧
      Punctuated [] (showPlaces false 3 x) (showPlaces true 3 x) ∧
      (∃ short, Trimmed (showPlaces true 3 x) short ∧
        shown none = if short = ['-', '0'] then ['0'] else short) ∧
      shown none ≠ ['-', '0'] ∧ shown (some defaultFormat) = shown none) ∧
    (∀ (c : Cell) (x : Double), c.displayAmount? = some x →
      let shown tag := (c.display thisYear (some .currency) tag).toList
      Punctuated ['$'] (shown (some "$0.00")) (shown (some "$0,0.00")) ∧
      (shown (some "$0,0.00")).filter (· != ',') = shown (some "$0.00")) := by
  refine ⟨fun c x reads => ?_, fun c x reads => ?_⟩
  · have finite := isFinite_of_displayNumber? reads
    have whole := showInteger_punctuated [] (nearestInteger x)
    have two := showPlaces_punctuated finite (by decide : 0 < 2) []
    have three := showPlaces_punctuated finite (by decide : 0 < 3) []
    have untagged : (none : Option String).filter (· != defaultFormat) = none := rfl
    have usual : (some defaultFormat).filter (· != defaultFormat) = none := by decide
    simp only [display_number reads, untagged, usual]
    refine ⟨whole, whole.filter_comma (by simp), two, two.filter_comma (by simp), three,
      showTrimmed_trimmed finite, ?_, trivial⟩
    change showTrimmed x ≠ _
    rw [showTrimmed]
    split
    case isTrue => decide
    case isFalse other => exact other
  · have finite := isFinite_of_displayAmount? reads
    have two := showPlaces_punctuated finite (by decide : 0 < 2) ['$']
    simp only [display_amount reads]
    exact ⟨two, two.filter_comma (by decide)⟩

/-- A negative amount of seven digits in all its displays. -/
theorem negative_millions_agree :
    (text "-1234567.5").displayNumber? = some (.ofQuotient true 2469135 2) ∧
      (text "-1234567.5").displayAmount? = some (.ofQuotient true 2469135 2) ∧
      Punctuated [] "-1234567".toList "-1,234,567".toList ∧
      Punctuated [] "-1234567.50".toList "-1,234,567.50".toList ∧
      Punctuated ['$'] "$-1234567.50".toList "$-1,234,567.50".toList := by
  have reads : (text "-1234567.5").displayNumber? = some (.ofQuotient true 2469135 2) := by
    decide +kernel
  have readsAmount : (text "-1234567.5").displayAmount? = some (.ofQuotient true 2469135 2) := by
    decide +kernel
  obtain ⟨numbers, amounts⟩ := displays_agree 2025
  obtain ⟨whole, -, two, -⟩ := numbers _ _ reads
  obtain ⟨amount, -⟩ := amounts _ _ readsAmount
  have shown : (text "-1234567.5").display 2025 (some .number) (some "0") = "-1234567" ∧
      (text "-1234567.5").display 2025 (some .number) (some "0,0") = "-1,234,567" ∧
      (text "-1234567.5").display 2025 (some .number) (some "0.00") = "-1234567.50" ∧
      (text "-1234567.5").display 2025 (some .number) (some "0,0.00") = "-1,234,567.50" ∧
      (text "-1234567.5").display 2025 (some .currency) (some "$0.00") = "$-1234567.50" ∧
      (text "-1234567.5").display 2025 (some .currency) (some "$0,0.00") = "$-1,234,567.50" := by
    decide +kernel
  obtain ⟨h₁, h₂, h₃, h₄, h₅, h₆⟩ := shown
  simp only [h₁, h₂, h₃, h₄, h₅, h₆] at whole two amount
  exact ⟨reads, readsAmount, whole, two, amount⟩

/-- The integer that is displayed for an integer. -/
theorem nearestInteger_ofInt (bounded : n.natAbs ≤ 2 ^ 53) :
    nearestInteger (.ofInt n) = if n % 2 = 1 ∧ 2 ^ 52 < n.natAbs then n + 1 else n := by
  rw [nearestInteger, Double.floor?_add_half bounded, Option.getD_some]

theorem showInteger_plain (n : Int) : showInteger false n = (intDigits n).toList := by
  rw [Numeral.toList_intDigits]
  rfl

theorem display_whole_number (thisYear : Nat) (reads : c.displayNumber? = some x) :
    let digits := (intDigits (nearestInteger x)).toList
    (c.display thisYear (some .number) (some "0")).toList = digits ∧
      Punctuated [] digits (c.display thisYear (some .number) (some "0,0")).toList := by
  rw [display_number reads, display_number reads, ← showInteger_plain]
  exact ⟨rfl, showInteger_punctuated [] _⟩

theorem display_whole_amount (thisYear : Nat) (reads : c.displayAmount? = some x) :
    Punctuated ['$'] ('$' :: (intDigits (nearestInteger x)).toList)
      (c.display thisYear (some .currency) (some "$0,0")).toList := by
  rw [display_amount reads, ← showInteger_plain]
  exact showInteger_punctuated ['$'] _

/-- An integer of at most `2 ^ 53` is displayed as itself, in groups or not, exactly if it is even
or at most `2 ^ 52`. In place of any other the next one is displayed: with one half added it has no
double of its own. -/
theorem integer_displayed (thisYear : Nat) (bounded : n.natAbs ≤ 2 ^ 53) :
    let shown type tag := ((int n).display thisYear (some type) (some tag)).toList
    let exact := n % 2 = 0 ∨ n.natAbs ≤ 2 ^ 52
    (shown .number "0" = (intDigits n).toList ↔ exact) ∧
      (Punctuated [] (intDigits n).toList (shown .number "0,0") ↔ exact) ∧
      (Punctuated ['$'] ('$' :: (intDigits n).toList) (shown .currency "$0,0") ↔ exact) ∧
      (¬exact → shown .number "0" = (intDigits (n + 1)).toList ∧
        Punctuated [] (intDigits (n + 1)).toList (shown .number "0,0") ∧
        Punctuated ['$'] ('$' :: (intDigits (n + 1)).toList) (shown .currency "$0,0")) := by
  intro shown exact
  have reads : (int n).displayNumber? = _ := Double.ofInt?_of_bounded bounded
  obtain ⟨plain, grouped⟩ := display_whole_number thisYear reads
  have amount := display_whole_amount thisYear (c := int n) reads
  obtain ⟨m, nearest⟩ : ∃ m, m = if n % 2 = 1 ∧ 2 ^ 52 < n.natAbs then n + 1 else n := ⟨_, rfl⟩
  rw [nearestInteger_ofInt bounded, ← nearest] at plain grouped amount
  have same : m = n ↔ exact := by
    rw [nearest]
    split <;> omega
  refine ⟨?_, ?_, ?_, fun other => ?_⟩
  · rw [← same]
    refine ⟨fun alike => ?_, fun same => same ▸ plain⟩
    exact Numeral.intDigits_inj (String.toList_inj.mp (plain.symm.trans alike))
  · rw [← same]
    refine ⟨fun alike => ?_, fun same => same ▸ grouped⟩
    have digits := (grouped.filter_comma (by simp)).symm.trans (alike.filter_comma (by simp))
    exact Numeral.intDigits_inj (String.toList_inj.mp digits)
  · rw [← same]
    refine ⟨fun alike => ?_, fun same => same ▸ amount⟩
    have digits := (amount.filter_comma (by decide)).symm.trans (alike.filter_comma (by decide))
    exact Numeral.intDigits_inj (String.toList_inj.mp (List.cons.inj digits).2)
  · have next : m = n + 1 := by
      rw [nearest, if_pos]
      omega
    rw [← next]
    exact ⟨plain, grouped, amount⟩

/-- An even integer of 53 bits is displayed as itself. -/
theorem negative_of_53_bits_displayed :
    (-9007199254740990 : Int).natAbs ≤ 2 ^ 53 ∧
      Punctuated ['$'] ('$' :: (intDigits (-9007199254740990)).toList)
        ((int (-9007199254740990)).display 2025 (some .currency) (some "$0,0")).toList :=
  ⟨by decide, (integer_displayed 2025 (n := -9007199254740990) (by decide)).2.2.1.mpr (by decide)⟩

/-- The least odd integer of 53 bits is displayed as the next one. -/
theorem odd_integer_displayed_as_next :
    (int 4503599627370497).display 2025 (some .number) (some "0") = "4503599627370498" ∧
      intDigits 4503599627370497 = "4503599627370497" := by
  decide +kernel

end Gridbook.Cell
