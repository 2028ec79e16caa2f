import Gridbook.Column.Display
import Gridbook.Proofs.Escape
import Gridbook.Proofs.Number.Range
import Gridbook.Proofs.Number.Spelling
import Gridbook.Proofs.Text.Blank

/-! # Numbers and amounts

A cell that inference takes for a number has the same number for formulas and for the number format.
The currency format keeps only ASCII digits, points and minus signs of a text. A text without other
digits and without an exponent loses nothing by that; in any other text the digits of an exponent
run on behind the number or are cut off, and the amount is another one unless that happens to make
no difference.
-/

namespace Gridbook

/-- The characters of a text that the currency format keeps. -/
def isAmountChar (c : Char) : Bool := c.isDigit || c == '.' || c == '-'

namespace Numeral

/-- The digits of a run that the currency format keeps. -/
def asciiDigits (run : List Char) : List Char := run.filter Char.isDigit

/-- The digits of an exponent that run on behind its number. -/
def Power.runOn (p : Power) : List Char :=
  if p.sign = some true then [] else asciiDigits p.digits

/-- What the minus sign of an exponent cuts off from its number. -/
def Power.cutOff (p : Power) : List Char :=
  if p.sign = some true then '-' :: asciiDigits p.digits else []

/-- A number without an exponent, if it has a digit. -/
def plainDecimal? (negative : Bool) (whole : List Char) (fraction : Option (List Char)) :
    Option Decimal :=
  if whole ++ fraction.getD [] = [] then none
  else some ⟨negative, ofDigits (values (whole ++ fraction.getD [])), -(fraction.getD []).length⟩

/-- What the currency format makes of a number. A minus sign that is left without a number in front
of it becomes the sign of what follows. -/
def Spelling.amount? (sp : Spelling) : Option Decimal :=
  let negative := sp.sign == some true
  let whole := asciiDigits sp.whole
  let runOn := sp.power.elim [] Power.runOn
  match sp.fraction, sp.power.elim [] Power.cutOff with
  | some fraction, _ => plainDecimal? negative whole (some (asciiDigits fraction ++ runOn))
  | none, '-' :: digits =>
      if negative = false ∧ whole = [] then plainDecimal? true digits none
      else plainDecimal? negative whole none
  | none, _ => plainDecimal? negative (whole ++ runOn) none

/-- A spelling that consists of ASCII digits, a point and a sign. -/
structure Spelling.Plain (sp : Spelling) : Prop where
  whole : ∀ c ∈ sp.whole, c.isDigit = true
  fraction : ∀ c ∈ sp.fraction.getD [], c.isDigit = true
  power : sp.power = none

/-- A text spells a number, once the characters that do not count are left out. -/
def Spelling.Spells (sp : Spelling) (s : String) : Prop :=
  unscored (s.toList.filter fun c => !isNumberNoise c) = sp.text

theorem filter_digits {run : List Char} (each : ∀ c ∈ run, Text.isDecimalDigit c = true) :
    run.filter isAmountChar = asciiDigits run := by
  refine List.filter_congr fun c member => ?_
  have point : (c == '.') = false :=
    beq_eq_false_iff_ne.mpr (ne_of_isDecimalDigit (each c member) (by decide))
  have minus : (c == '-') = false :=
    beq_eq_false_iff_ne.mpr (ne_of_isDecimalDigit (each c member) (by decide))
  simp [isAmountChar, point, minus]

theorem filter_signText (g : Option Bool) :
    (signText g).filter isAmountChar = if g = some true then ['-'] else [] := by
  match g with
  | none | some true | some false => rfl

theorem Power.filter_text (p : Power) : p.text.filter isAmountChar = p.runOn ++ p.cutOff := by
  have mark : isAmountChar p.mark = false := by
    rcases p.marked with same | same <;> rw [same] <;> decide
  rw [Power.text, List.filter_cons_of_neg (by simp [mark]), List.filter_append, filter_signText,
    filter_digits p.each, Power.runOn, Power.cutOff]
  split <;> simp

theorem Spelling.filter_text (sp : Spelling) :
    sp.text.filter isAmountChar = (if sp.sign = some true then ['-'] else []) ++
      (asciiDigits sp.whole ++ (sp.fraction.elim [] (fun f => '.' :: asciiDigits f) ++
        (sp.power.elim [] Power.runOn ++ sp.power.elim [] Power.cutOff))) := by
  have power : (sp.power.elim [] Power.text).filter isAmountChar =
      sp.power.elim [] Power.runOn ++ sp.power.elim [] Power.cutOff := by
    cases sp.power with
    | none => rfl
    | some p => exact p.filter_text
  have fraction : (sp.fraction.elim [] ('.' :: ·)).filter isAmountChar =
      sp.fraction.elim [] fun f => '.' :: asciiDigits f := by
    have each := sp.fractionDigits
    cases behind : sp.fraction with
    | none => rfl
    | some f =>
        rw [behind] at each
        exact congrArg ('.' :: ·) (filter_digits each)
  rw [Spelling.text, List.filter_append, List.filter_append, List.filter_append, filter_signText,
    filter_digits sp.wholeDigits, fraction, power]

variable {whole tail : List Char}

theorem isDigit_asciiDigits (run : List Char) : ∀ c ∈ asciiDigits run, c.isDigit = true :=
  fun _ => List.of_mem_filter

/-- An exponent leaves digits behind its number, or a minus sign and digits. -/
theorem power_left (p? : Option Power) :
    ((∀ c ∈ p?.elim [] Power.runOn, c.isDigit = true) ∧ p?.elim [] Power.cutOff = []) ∨
      p?.elim [] Power.runOn = [] ∧
        ∃ digits, (∀ c ∈ digits, c.isDigit = true) ∧ p?.elim [] Power.cutOff = '-' :: digits := by
  cases p? with
  | none => exact .inl ⟨by simp, rfl⟩
  | some p =>
      by_cases minus : p.sign = some true
      · refine .inr ⟨by simp [Power.runOn, minus], asciiDigits p.digits,
          isDigit_asciiDigits p.digits, ?_⟩
        simp [Power.cutOff, minus]
      · refine .inl ⟨?_, by simp [Power.cutOff, minus]⟩
        rw [Option.elim_some, Power.runOn, if_neg minus]
        exact isDigit_asciiDigits p.digits

theorem endsNumber_minus (rest : List Char) : EndsNumber ('-' :: rest) := by
  constructor
  · intro c others shape
    obtain ⟨rfl, -⟩ := List.cons.inj shape
    decide
  · intro c others shape
    obtain ⟨rfl, -⟩ := List.cons.inj shape
    decide

theorem leading?_plain (negative : Bool) (fraction : Option (List Char))
    (wholeDigits : ∀ c ∈ whole, c.isDigit = true)
    (fractionDigits : ∀ c ∈ fraction.getD [], c.isDigit = true) (ends : EndsNumber tail)
    (unsigned : negative = false → whole = [] → fraction = none → Unsigned tail) :
    (leading? false ((if negative then ['-'] else []) ++
      (whole ++ (fraction.elim [] ('.' :: ·) ++ tail)))).map Prod.fst =
        plainDecimal? negative whole fraction := by
  have decimal {run : List Char} (each : ∀ c ∈ run, c.isDigit = true) (c : Char) (member : c ∈ run) :
      Text.isDecimalDigit c = true := isDecimalDigit_of_isDigit (each c member)
  obtain ⟨g, text, minus⟩ : ∃ g, (if negative then ['-'] else []) = signText g ∧
      (g == some true) = negative := by
    cases negative with
    | true => exact ⟨some true, rfl, rfl⟩
    | false => exact ⟨none, rfl, rfl⟩
  rw [text]
  by_cases filled : whole ++ fraction.getD [] = []
  · obtain ⟨rfl, bare⟩ := List.append_eq_nil_iff.mp filled
    have none := leading?_no_digits false (g := g) bare ends fun missing =>
      unsigned (by rw [← minus, missing]; rfl) rfl
    rw [List.nil_append, none, plainDecimal?, if_pos filled, Option.map_none]
  · let sp : Spelling := ⟨g, whole, fraction, none, decimal wholeDigits, decimal fractionDigits,
      filled⟩
    have read := leading?_append false sp ends
    have shape : sp.text ++ tail =
        signText g ++ (whole ++ (fraction.elim [] ('.' :: ·) ++ tail)) := by
      simp [Spelling.text, sp]
    have value : sp.value = ⟨negative, ofDigits (values (whole ++ fraction.getD [])),
        -(fraction.getD []).length⟩ := by
      simp [Spelling.value, sp, minus]
    rw [← shape, read, plainDecimal?, if_neg filled, Option.map_some, value]

/-- The currency format reads a spelling in the way described. -/
theorem leading?_amount (sp : Spelling) :
    (leading? false (sp.text.filter isAmountChar)).map Prod.fst = sp.amount? := by
  have whole := isDigit_asciiDigits sp.whole
  have negative : (if sp.sign = some true then ['-'] else []) =
      if (sp.sign == some true) = true then ['-'] else [] := by simp
  rw [sp.filter_text, negative, Spelling.amount?]
  generalize (sp.sign == some true) = negative
  generalize asciiDigits sp.whole = w at whole
  rcases power_left sp.power with ⟨runOn, none⟩ | ⟨none, digits, each, cutOff⟩
  · rw [none]
    generalize sp.power.elim [] Power.runOn = more at runOn
    cases sp.fraction with
    | some f =>
        have behind := List.forall_mem_append.mpr ⟨isDigit_asciiDigits f, runOn⟩
        have read := leading?_plain negative (some (asciiDigits f ++ more)) whole behind .nil
          (by simp)
        simpa using read
    | none =>
        have read := leading?_plain negative Option.none
          (List.forall_mem_append.mpr ⟨whole, runOn⟩) (by simp) .nil (by simp [Unsigned])
        simpa using read
  · rw [none, cutOff]
    have ends := endsNumber_minus digits
    cases sp.fraction with
    | some f =>
        have read := leading?_plain negative (some (asciiDigits f)) whole
          (isDigit_asciiDigits f) ends (by simp)
        simpa using read
    | none =>
        by_cases bare : negative = false ∧ w = []
        · obtain ⟨rfl, rfl⟩ := bare
          have read := leading?_plain true Option.none each (by simp) .nil (by simp)
          simpa using read
        · have read := leading?_plain negative Option.none whole (by simp) ends
            fun unsigned none _ => absurd ⟨unsigned, none⟩ bare
          simpa [bare] using read

/-- Nothing is lost of a spelling without other digits and without an exponent. -/
theorem Spelling.Plain.amount? {sp : Spelling} (plain : sp.Plain) : sp.amount? = some sp.value := by
  have kept {run : List Char} (each : ∀ c ∈ run, c.isDigit = true) : asciiDigits run = run :=
    List.filter_eq_self.mpr each
  have filled := sp.filled
  have fraction := plain.fraction
  rw [Spelling.amount?, Spelling.value, plain.power, kept plain.whole]
  cases behind : sp.fraction with
  | none =>
      rw [behind] at filled
      simpa [plainDecimal?] using filled
  | some f =>
      rw [behind] at filled fraction
      have same : asciiDigits f = f := kept fraction
      simpa [plainDecimal?, same] using filled

variable {s : String} {sp : Spelling} {x : Double}

theorem Spelling.Spells.value_eq {other : Spelling} (spells : sp.Spells s)
    (spells' : other.Spells s) : sp.value = other.value := by
  have read := read?_text false sp
  rw [← spells, spells', read?_text false other] at read
  exact (Option.some.inj read).symm

theorem exists_spells (read : readNumber? s = some x) :
    ∃ sp : Spelling, sp.Spells s ∧ sp.value.toDouble = x ∧ x.isFinite = true := by
  unfold readNumber? at read
  split at read
  case h_2 => cases read
  case h_1 d found =>
    obtain ⟨finite, same⟩ := Option.ite_none_right_eq_some.mp read
    obtain rfl := Option.some.inj same
    obtain ⟨sp, spells, value⟩ := exists_of_read? found
    exact ⟨sp, spells, by rw [value], finite⟩

theorem code_of_isAmountChar {c : Char} (kept : isAmountChar c = true) :
    45 ≤ c.toNat ∧ c.toNat ≤ 57 := by
  simp only [isAmountChar, Bool.or_eq_true, beq_iff_eq] at kept
  obtain (digit | rfl) | rfl := kept
  · have range : 48 ≤ c.toNat ∧ c.toNat ≤ 57 := Char.isDigit_iff_toNat.mp digit
    omega
  · decide
  · decide

theorem isBlank_of_isAmountChar {c : Char} (kept : isAmountChar c = true) :
    Text.isBlank c = false := by
  have range := code_of_isAmountChar kept
  exact Text.not_isBlank_of_code (by omega) (by omega)

theorem counts_of_isAmountChar {c : Char} (kept : isAmountChar c = true) :
    isNumberNoise c = false ∧ c ≠ '_' := by
  have range := code_of_isAmountChar kept
  have apart {d : Char} (other : d.toNat < 45 ∨ 57 < d.toNat) : c ≠ d := by
    rintro rfl
    omega
  refine ⟨?_, apart (.inr (by decide))⟩
  simp [isNumberNoise, currencySigns, isBlank_of_isAmountChar kept, apart]

/-- The currency format sees nothing of a text but what it keeps of its spelling. -/
theorem Spelling.Spells.filter_eq (spells : sp.Spells s) :
    s.toList.filter isAmountChar = sp.text.filter isAmountChar := by
  rw [← spells, unscored, List.filter_filter, List.filter_filter]
  refine List.filter_congr fun c _ => ?_
  cases kept : isAmountChar c with
  | false => rfl
  | true =>
      obtain ⟨counts, solid⟩ := counts_of_isAmountChar kept
      simp [counts, solid]

end Numeral

namespace Cell

open Numeral

variable {s : String} {sp : Spelling} {x : Double}

theorem displayAmount?_of_spells (spells : sp.Spells s) :
    (text s).displayAmount? = sp.amount?.bind fun d => finite? d.toDouble := by
  have trimmed : Text.trimChars (s.toList.filter isAmountChar) = s.toList.filter isAmountChar :=
    Text.trimChars_of_forall fun c member => isBlank_of_isAmountChar (List.of_mem_filter member)
  have amount : (text s).displayAmount? =
      ((leading? false (Text.trimChars (s.toList.filter isAmountChar))).map Prod.fst).bind
        fun d => finite? d.toDouble := by
    simp only [displayAmount?, leadingNumber?, String.toList_ofList, Option.bind_map]
    rfl
  rw [amount, trimmed, spells.filter_eq, leading?_amount]

theorem displayAmount?_eq_some_iff (spells : sp.Spells s) (finite : x.isFinite = true) :
    (text s).displayAmount? = some x ↔ ∃ d, sp.amount? = some d ∧ d.toDouble = x := by
  rw [displayAmount?_of_spells spells, Option.bind_eq_some_iff]
  refine exists_congr fun d => and_congr_right fun _ => ?_
  simp only [finite?, Option.ite_none_right_eq_some, Option.some.injEq]
  constructor
  · exact And.right
  · rintro rfl
    exact ⟨finite, rfl⟩

/-- A cell that inference takes for a number has one and the same number for formulas and for the
number format. The currency format starts from it too exactly if the cell is no text or what is left
of its spelling stands for the same double, and in particular if nothing of the spelling is lost. -/
theorem number_read_alike {v : Cell} (numeric : v.looksNumeric = .ok true) :
    ∃ x, x.isFinite = true ∧ v.number? = .ok (some x) ∧ v.displayNumber? = some x ∧
      (∀ s, v = text s → ∃ sp : Spelling, sp.Spells s ∧ sp.value.toDouble = x) ∧
      (v.displayAmount? = some x ↔ ∀ (s : String) (sp : Spelling), v = text s → sp.Spells s →
        ∃ d, sp.amount? = some d ∧ d.toDouble = x) ∧
      ∀ (s : String) (sp : Spelling), v = text s → sp.Spells s → sp.Plain →
        v.displayAmount? = some x := by
  cases v with
  | null | bool | date | moment | error => simp [looksNumeric] at numeric
  | int n =>
      cases nearest : Double.ofInt? n with
      | none => simp [looksNumeric, intNumber, nearest, bind, Except.bind] at numeric
      | some x =>
          refine ⟨x, Double.isFinite_of_ofInt? nearest, ?_, nearest, ?_⟩
          · simp [number?, intNumber, nearest, bind, Except.bind, pure, Except.pure]
          · simp [displayAmount?, displayNumber?, nearest]
  | float x =>
      have finite : x.isFinite = true := by simpa [looksNumeric] using numeric
      exact ⟨x, finite, by simp [number?, displayNumber?, displayAmount?, finite?, finite]⟩
  | text s =>
      have read : (readNumber? s).isSome = true := by simpa [looksNumeric] using numeric
      obtain ⟨x, read⟩ := Option.isSome_iff_exists.mp read
      obtain ⟨sp, spells, value, finite⟩ := exists_spells read
      refine ⟨x, finite, by simp [number?, read], by simp [displayNumber?, text?, read], ?_, ?_, ?_⟩
      · rintro _ ⟨⟩
        exact ⟨sp, spells, value⟩
      · constructor
        · rintro amount _ other ⟨⟩ spells'
          exact (displayAmount?_eq_some_iff spells' finite).mp amount
        · intro kept
          exact (displayAmount?_eq_some_iff spells finite).mpr (kept s sp rfl spells)
      · rintro _ other ⟨⟩ spells' plain
        refine (displayAmount?_eq_some_iff spells' finite).mpr ⟨_, plain.amount?, ?_⟩
        rw [spells'.value_eq spells, value]

/-- A currency sign and a comma are passed over by every reader. -/
theorem grouped_amount_read_alike :
    (text "-$1,234.50").looksNumeric = .ok true ∧
      ∃ x, (text "-$1,234.50").number? = .ok (some x) ∧
        (text "-$1,234.50").displayNumber? = some x ∧
        (text "-$1,234.50").displayAmount? = some x := by
  have numeric : (text "-$1,234.50").looksNumeric = .ok true := by decide +kernel
  obtain ⟨x, -, number, shown, -, -, plain⟩ := number_read_alike numeric
  have whole : ∀ c ∈ ['1', '2', '3', '4'], c.isDigit = true := by simp
  have fraction : ∀ c ∈ ['5', '0'], c.isDigit = true := by simp
  let sp : Spelling := ⟨some true, ['1', '2', '3', '4'], some ['5', '0'], none,
    fun c among => isDecimalDigit_of_isDigit (whole c among),
    fun c among => isDecimalDigit_of_isDigit (fraction c among), by decide⟩
  have cleaned : unscored ("-$1,234.50".toList.filter fun c => !isNumberNoise c) =
      ['-', '1', '2', '3', '4', '.', '5', '0'] := by decide +kernel
  have spells : sp.Spells "-$1,234.50" := cleaned
  have ascii : sp.Plain := ⟨whole, fraction, rfl⟩
  exact ⟨numeric, x, number, shown, plain _ sp rfl spells ascii⟩

/-- Without its mark the exponent becomes a part of the amount. -/
theorem exponent_runs_on :
    (text "$1e5").looksNumeric = .ok true ∧
      (text "$1e5").number? = .ok (some (Double.ofInt 100000)) ∧
      (text "$1e5").displayNumber? = some (Double.ofInt 100000) ∧
      (text "$1e5").displayAmount? = some (Double.ofInt 15) ∧
      Double.ofInt 15 ≠ Double.ofInt 100000 ∧
      (text "$1e5").display 2025 (some .currency) none = "$15.00" := by
  decide +kernel

end Cell

end Gridbook
