import Gridbook.Proofs.Number.Digits

/-! # Spellings of numbers

What is read as a number is spelled by a sign, digits, a point with more digits and an exponent,
with underscores between digits; and every such spelling is read as the number that it stands for.
Where no underscores are allowed, nothing else is read.
-/

namespace Gridbook.Numeral

def values (run : List Char) : List Nat :=
  run.map fun c => (Text.digitValue? c).getD 0

theorem values_append (run others : List Char) :
    values (run ++ others) = values run ++ values others :=
  List.map_append

/-- A sign in front of a number; `true` stands for minus. -/
def signText : Option Bool → List Char
  | none => []
  | some true => ['-']
  | some false => ['+']

/-- An exponent as it is spelled. -/
structure Power where
  mark : Char
  sign : Option Bool
  digits : List Char
  marked : mark = 'e' ∨ mark = 'E'
  each : ∀ c ∈ digits, Text.isDecimalDigit c = true
  filled : digits ≠ []

def Power.text (p : Power) : List Char := p.mark :: (signText p.sign ++ p.digits)

def Power.value (p : Power) : Int :=
  Double.signed (p.sign == some true) (ofDigits (values p.digits))

/-- A number as it is spelled. -/
structure Spelling where
  sign : Option Bool
  whole : List Char
  /-- The digits behind the point, if there is one. -/
  fraction : Option (List Char)
  power : Option Power
  wholeDigits : ∀ c ∈ whole, Text.isDecimalDigit c = true
  fractionDigits : ∀ c ∈ fraction.getD [], Text.isDecimalDigit c = true
  filled : whole ++ fraction.getD [] ≠ []

namespace Spelling

def text (sp : Spelling) : List Char :=
  signText sp.sign ++ (sp.whole ++ (sp.fraction.elim [] ('.' :: ·) ++ sp.power.elim [] Power.text))

def value (sp : Spelling) : Decimal :=
  ⟨sp.sign == some true, ofDigits (values (sp.whole ++ sp.fraction.getD [])),
    sp.power.elim 0 Power.value - (sp.fraction.getD []).length⟩

end Spelling

/-- A text without its underscores. -/
def unscored (s : List Char) : List Char := s.filter (· != '_')

variable (underscores : Bool) {s tail run : List Char}

theorem isDecimalDigit_iff {c : Char} :
    Text.isDecimalDigit c = true ↔ ∃ v, Text.digitValue? c = some v :=
  Option.isSome_iff_exists

theorem ne_of_isDecimalDigit {c d : Char} (digit : Text.isDecimalDigit c = true)
    (other : Text.isDecimalDigit d = false) : c ≠ d := by
  rintro rfl
  simp [digit] at other

theorem isDecimalDigit_of_isDigit {c : Char} (digit : c.isDigit = true) :
    Text.isDecimalDigit c = true := by
  simp [Text.isDecimalDigit, Text.digitValue?, digit]

/-- No digit and no underscore stands at the start of a text. -/
def EndsDigits (s : List Char) : Prop :=
  ∀ c rest, s = c :: rest → Text.isDecimalDigit c = false ∧ c ≠ '_'

theorem passUnderscore_of_ne (other : ∀ c rest, s = c :: rest → c ≠ '_') :
    passUnderscore s = s := by
  unfold passUnderscore
  split
  · exact absurd rfl (other _ _ rfl)
  · rfl

theorem unscored_passUnderscore (s : List Char) : unscored (passUnderscore s) = unscored s := by
  unfold passUnderscore
  split
  · split <;> simp [unscored]
  · rfl

theorem digitRun_ends (ends : EndsDigits tail) : digitRun underscores tail = ([], tail) := by
  cases tail with
  | nil => rw [digitRun]
  | cons c rest =>
      have none : Text.digitValue? c = none := by
        simpa [Text.isDecimalDigit] using (ends c rest rfl).1
      rw [digitRun, none]

theorem digitRun_append (each : ∀ c ∈ run, Text.isDecimalDigit c = true) (ends : EndsDigits tail) :
    digitRun underscores (run ++ tail) = (values run, tail) := by
  induction run with
  | nil => exact digitRun_ends underscores ends
  | cons c run ih =>
      rw [List.forall_mem_cons] at each
      obtain ⟨v, value⟩ := isDecimalDigit_iff.mp each.1
      have passed : passUnderscore (run ++ tail) = run ++ tail := by
        refine passUnderscore_of_ne fun d rest shape => ?_
        cases run with
        | nil => exact (ends d rest shape).2
        | cons e run =>
            obtain ⟨rfl, -⟩ := List.cons.inj shape
            exact ne_of_isDecimalDigit (each.2 _ List.mem_cons_self) (by decide)
      rw [List.cons_append, digitRun, value]
      simp only [passed, ite_self, ih each.2]
      simp [values, value]

theorem exists_of_digitRun {underscores : Bool} {digits : List Nat}
    (read : digitRun underscores s = (digits, tail)) :
    ∃ run, (∀ c ∈ run, Text.isDecimalDigit c = true) ∧ digits = values run ∧
      unscored s = run ++ unscored tail := by
  fun_induction digitRun underscores s generalizing digits with
  | case1 | case2 =>
      cases read
      exact ⟨[], by simp, rfl, rfl⟩
  | case3 c rest v value others after here ih =>
      cases read
      obtain ⟨run, each, spelled, text⟩ := ih here
      have digit : Text.isDecimalDigit c = true := isDecimalDigit_iff.mpr ⟨v, value⟩
      have solid : c ≠ '_' := ne_of_isDecimalDigit digit (by decide)
      have passed : unscored rest = run ++ unscored tail := by
        rw [← text]
        split
        · exact (unscored_passUnderscore rest).symm
        · rfl
      refine ⟨c :: run, List.forall_mem_cons.mpr ⟨digit, each⟩, by simp [values, value, spelled], ?_⟩
      rw [unscored, List.filter_cons_of_pos (by simpa using solid)]
      exact congrArg (c :: ·) passed

/-- No sign stands at the start of a text. -/
def Unsigned (s : List Char) : Prop :=
  ∀ c rest, s = c :: rest → c ≠ '-' ∧ c ≠ '+'

theorem sign_signText (g : Option Bool) (unsigned : g = none → Unsigned s) :
    sign (signText g ++ s) = (g == some true, s) := by
  match g with
  | some true | some false => rfl
  | none =>
      cases s with
      | nil => rfl
      | cons c rest =>
          obtain ⟨minus, plus⟩ := unsigned rfl c rest rfl
          simp [signText, sign, minus, plus]

theorem exists_of_sign (s : List Char) :
    ∃ g, s = signText g ++ (sign s).2 ∧ (sign s).1 = (g == some true) := by
  unfold sign
  split
  · exact ⟨some true, rfl, rfl⟩
  · exact ⟨some false, rfl, rfl⟩
  · exact ⟨none, rfl, rfl⟩

theorem unscored_signText (g : Option Bool) (s : List Char) :
    unscored (signText g ++ s) = signText g ++ unscored s := by
  match g with
  | none | some true | some false => rfl

theorem unsigned_of_digits (each : ∀ c ∈ run, Text.isDecimalDigit c = true) (filled : run ≠ []) :
    Unsigned (run ++ tail) := by
  intro c rest shape
  obtain ⟨d, others, rfl⟩ := List.exists_cons_of_ne_nil filled
  obtain ⟨rfl, -⟩ := List.cons.inj shape
  have digit := each d List.mem_cons_self
  exact ⟨ne_of_isDecimalDigit digit (by decide), ne_of_isDecimalDigit digit (by decide)⟩

theorem exponent_append (p : Power) (ends : EndsDigits tail) :
    exponent underscores (p.text ++ tail) = (p.value, tail) := by
  have signs := sign_signText (s := p.digits ++ tail) p.sign
    fun _ => unsigned_of_digits p.each p.filled
  have run := digitRun_append underscores p.each ends
  obtain ⟨c, digits, shape⟩ := List.exists_cons_of_ne_nil p.filled
  have mark : (p.mark == 'e' || p.mark == 'E') = true := by simpa using p.marked
  rw [Power.text, List.cons_append, List.append_assoc, exponent, if_pos mark, signs]
  simp only [run, Power.value]
  rw [shape]
  rfl

theorem exponent_none (other : ∀ c rest, s = c :: rest → c ≠ 'e' ∧ c ≠ 'E') :
    exponent underscores s = (0, s) := by
  unfold exponent
  split
  · obtain ⟨lower, upper⟩ := other _ _ rfl
    simp [lower, upper]
  · rfl

theorem exists_of_exponent {underscores : Bool} {e : Int} (read : exponent underscores s = (e, tail)) :
    ∃ p? : Option Power, p?.elim 0 Power.value = e ∧
      unscored s = p?.elim [] Power.text ++ unscored tail := by
  unfold exponent at read
  split at read
  case h_2 =>
    cases read
    exact ⟨none, rfl, rfl⟩
  case h_1 c rest =>
    split at read
    case isFalse =>
      cases read
      exact ⟨none, rfl, rfl⟩
    case isTrue marked =>
      have mark : c = 'e' ∨ c = 'E' := by simpa using marked
      obtain ⟨g, signed, negative⟩ := exists_of_sign rest
      simp only at read
      split at read
      case h_1 =>
        cases read
        exact ⟨none, rfl, rfl⟩
      case h_2 ds after found here =>
        obtain ⟨run, each, digits, text⟩ := exists_of_digitRun here
        cases read
        have filled : run ≠ [] := by
          rintro rfl
          exact found digits
        refine ⟨some ⟨c, g, run, mark, each, filled⟩, ?_, ?_⟩
        · rw [Option.elim_some, Power.value, negative]
          exact congrArg _ (congrArg ofDigits digits.symm)
        · have solid : c ≠ '_' := by
            rcases mark with rfl | rfl <;> decide
          rw [unscored, List.filter_cons_of_pos (by simpa using solid), ← unscored, signed,
            unscored_signText, text]
          simp [Power.text]

/-- The digits behind a point and what follows them, if a text starts with a point. -/
def behindPoint (underscores : Bool) : List Char → List Nat × List Char
  | '.' :: rest => digitRun underscores rest
  | rest => ([], rest)

theorem exists_of_behindPoint {underscores : Bool} {digits : List Nat}
    (read : behindPoint underscores s = (digits, tail)) :
    ∃ f? : Option (List Char), (∀ c ∈ f?.getD [], Text.isDecimalDigit c = true) ∧
      digits = values (f?.getD []) ∧ unscored s = f?.elim [] ('.' :: ·) ++ unscored tail := by
  unfold behindPoint at read
  split at read
  case h_1 rest =>
    obtain ⟨run, each, digits, text⟩ := exists_of_digitRun read
    refine ⟨some run, each, digits, ?_⟩
    rw [unscored, List.filter_cons_of_pos (by decide), ← unscored, text]
    rfl
  case h_2 =>
    cases read
    exact ⟨none, by simp, rfl, rfl⟩

theorem leading?_eq_some_iff {underscores : Bool} {d : Decimal} :
    leading? underscores s = some (d, tail) ↔
      ∃ whole afterWhole fraction afterFraction e,
        digitRun underscores (sign s).2 = (whole, afterWhole) ∧
        behindPoint underscores afterWhole = (fraction, afterFraction) ∧
        whole ++ fraction ≠ [] ∧ exponent underscores afterFraction = (e, tail) ∧
        d = ⟨(sign s).1, ofDigits (whole ++ fraction), e - fraction.length⟩ := by
  have shape : leading? underscores s =
      let whole := digitRun underscores (sign s).2
      let fraction := behindPoint underscores whole.2
      let e := exponent underscores fraction.2
      if whole.1.isEmpty && fraction.1.isEmpty then none
      else some (⟨(sign s).1, ofDigits (whole.1 ++ fraction.1), e.1 - fraction.1.length⟩, e.2) := rfl
  rw [shape]
  constructor
  · intro read
    simp only [Option.ite_none_left_eq_some, Bool.and_eq_true, List.isEmpty_iff,
      Option.some.injEq, Prod.mk.injEq] at read
    obtain ⟨filled, value, rest⟩ := read
    refine ⟨_, _, (behindPoint underscores (digitRun underscores (sign s).2).2).1, _, _, rfl, rfl,
      ?_, Prod.ext rfl rest, value.symm⟩
    simpa using filled
  · rintro ⟨whole, afterWhole, fraction, afterFraction, e, run, behind, filled, power, rfl⟩
    simp only [run, behind, power]
    rw [if_neg (by simpa using filled)]

/-- What follows a text that is read as a number belongs to no number. -/
structure EndsNumber (s : List Char) : Prop where
  digits : EndsDigits s
  other : ∀ c rest, s = c :: rest → c ≠ '.' ∧ c ≠ 'e' ∧ c ≠ 'E'

theorem EndsNumber.nil : EndsNumber [] := ⟨by simp [EndsDigits], by simp⟩

theorem EndsNumber.power (ends : EndsNumber tail) (p? : Option Power) :
    EndsDigits (p?.elim [] Power.text ++ tail) ∧
      (∀ c rest, p?.elim [] Power.text ++ tail = c :: rest → c ≠ '.') ∧
      exponent underscores (p?.elim [] Power.text ++ tail) = (p?.elim 0 Power.value, tail) := by
  cases p? with
  | none =>
      refine ⟨ends.digits, fun c rest shape => (ends.other c rest shape).1, ?_⟩
      exact exponent_none underscores fun c rest shape => (ends.other c rest shape).2
  | some p =>
      have first {c : Char} {rest : List Char} (shape : p.text ++ tail = c :: rest) :
          c = 'e' ∨ c = 'E' := by
        rw [← (List.cons.inj shape).1]
        exact p.marked
      refine ⟨fun c rest shape => ?_, fun c rest shape => ?_, exponent_append underscores p ends.digits⟩
      · rcases first shape with rfl | rfl <;> decide
      · rcases first shape with rfl | rfl <;> decide

theorem Spelling.unsigned (sp : Spelling) :
    Unsigned (sp.whole ++ (sp.fraction.elim [] ('.' :: ·) ++ tail)) := by
  cases front : sp.whole with
  | cons c rest =>
      rw [← front]
      exact unsigned_of_digits sp.wholeDigits (by simp [front])
  | nil =>
      cases behind : sp.fraction with
      | none => exact absurd (by simp [front, behind]) sp.filled
      | some f =>
          intro c rest shape
          obtain ⟨rfl, -⟩ := List.cons.inj shape
          decide

/-- A spelling is read up to its end, whatever follows that belongs to no number. -/
theorem leading?_append (sp : Spelling) (ends : EndsNumber tail) :
    leading? underscores (sp.text ++ tail) = some (sp.value, tail) := by
  obtain ⟨noDigit, noPoint, power⟩ := ends.power underscores sp.power
  have text : sp.text ++ tail = signText sp.sign ++ (sp.whole ++
      (sp.fraction.elim [] ('.' :: ·) ++ (sp.power.elim [] Power.text ++ tail))) := by
    simp [Spelling.text]
  have signs := sign_signText (s := sp.whole ++ (sp.fraction.elim [] ('.' :: ·) ++
    (sp.power.elim [] Power.text ++ tail))) sp.sign fun _ => sp.unsigned
  rw [text, leading?_eq_some_iff, signs]
  have filled := sp.filled
  have each := sp.fractionDigits
  have value : sp.value = ⟨sp.sign == some true, ofDigits (values sp.whole ++
      values (sp.fraction.getD [])), sp.power.elim 0 Power.value -
        (values (sp.fraction.getD [])).length⟩ := by
    simp [Spelling.value, values]
  have spelled : values sp.whole ++ values (sp.fraction.getD []) ≠ [] := by
    simpa [values] using filled
  refine ⟨_, _, _, _, _, digitRun_append underscores sp.wholeDigits ?_, ?_, spelled, power, value⟩
  · cases behind : sp.fraction with
    | none => exact noDigit
    | some f =>
        intro c rest shape
        obtain ⟨rfl, -⟩ := List.cons.inj shape
        decide
  · cases behind : sp.fraction with
    | none =>
        unfold behindPoint
        split
        · exact absurd rfl (noPoint _ _ ‹_›)
        · rfl
    | some f =>
        rw [behind] at each
        exact digitRun_append underscores each noDigit

theorem leading?_no_digits {g : Option Bool} {f? : Option (List Char)} (bare : f?.getD [] = [])
    (ends : EndsNumber tail) (unsigned : g = none → f? = none → Unsigned tail) :
    leading? underscores (signText g ++ (f?.elim [] ('.' :: ·) ++ tail)) = none := by
  have noDigit := digitRun_ends underscores ends.digits
  have signs : sign (signText g ++ (f?.elim [] ('.' :: ·) ++ tail)) =
      (g == some true, f?.elim [] ('.' :: ·) ++ tail) := by
    refine sign_signText g fun missing => ?_
    cases f? with
    | none => exact unsigned missing rfl
    | some f =>
        intro c rest shape
        obtain ⟨rfl, -⟩ := List.cons.inj shape
        decide
  refine Option.eq_none_iff_forall_ne_some.mpr fun found read => ?_
  obtain ⟨_, _, _, _, _, run, behind, filled, -⟩ := leading?_eq_some_iff.mp read
  rw [signs] at run
  cases f? with
  | none =>
      obtain ⟨rfl, rfl⟩ := Prod.mk.inj (noDigit.symm.trans run)
      have noPoint : behindPoint underscores tail = ([], tail) := by
        unfold behindPoint
        split
        · exact absurd rfl (ends.other _ _ rfl).1
        · rfl
      rw [noPoint] at behind
      exact filled (by rw [← (Prod.mk.inj behind).1]; rfl)
  | some f =>
      obtain rfl : f = [] := bare
      have point : digitRun underscores ('.' :: tail) = ([], '.' :: tail) := by
        refine digitRun_ends underscores fun c rest shape => ?_
        obtain ⟨rfl, -⟩ := List.cons.inj shape
        decide
      obtain ⟨rfl, rfl⟩ := Prod.mk.inj (point.symm.trans run)
      rw [behindPoint, noDigit] at behind
      exact filled (by rw [← (Prod.mk.inj behind).1]; rfl)

theorem read?_text (sp : Spelling) : read? underscores sp.text = some sp.value := by
  have whole := leading?_append underscores sp .nil
  rw [List.append_nil] at whole
  rw [read?, whole]

theorem leading?_of_read? {underscores : Bool} {d : Decimal} (read : read? underscores s = some d) :
    leading? underscores s = some (d, []) := by
  unfold read? at read
  split at read
  · rename_i shape
    rw [shape, Option.some.inj read]
  · cases read

theorem exists_of_read? {underscores : Bool} {d : Decimal} (read : read? underscores s = some d) :
    ∃ sp : Spelling, unscored s = sp.text ∧ sp.value = d := by
  obtain ⟨wholeValues, afterWhole, fractionValues, afterFraction, e, run, behind, filled, power,
    rfl⟩ := leading?_eq_some_iff.mp (leading?_of_read? read)
  obtain ⟨g, signed, negative⟩ := exists_of_sign s
  obtain ⟨w, wholeDigits, readWhole, text⟩ := exists_of_digitRun run
  obtain ⟨f?, fractionDigits, readBehind, textBehind⟩ := exists_of_behindPoint behind
  obtain ⟨p?, value, textPower⟩ := exists_of_exponent power
  have spelled : w ++ f?.getD [] ≠ [] := by
    intro none
    rw [readWhole, readBehind, ← values_append, none] at filled
    exact filled rfl
  refine ⟨⟨g, w, f?, p?, wholeDigits, fractionDigits, spelled⟩, ?_, ?_⟩
  · rw [signed, unscored_signText, text, textBehind, textPower]
    simp [Spelling.text, unscored]
  · rw [Spelling.value, negative, readWhole, readBehind, value]
    simp [values]

theorem count_digitRun (s : List Char) : (digitRun false s).2.count '_' = s.count '_' := by
  fun_induction digitRun false s with
  | case1 => rfl
  | case2 => rfl
  | case3 c rest v value digits tail run ih =>
      have solid : c ≠ '_' := ne_of_isDecimalDigit (isDecimalDigit_iff.mpr ⟨v, value⟩) (by decide)
      rw [run] at ih
      simpa [solid] using ih

theorem count_sign (s : List Char) : (sign s).2.count '_' = s.count '_' := by
  unfold sign
  split <;> simp

theorem count_behindPoint (s : List Char) : (behindPoint false s).2.count '_' = s.count '_' := by
  unfold behindPoint
  split
  · rw [count_digitRun]
    simp
  · rfl

theorem count_exponent (s : List Char) : (exponent false s).2.count '_' = s.count '_' := by
  unfold exponent
  split
  case h_2 => rfl
  case h_1 c rest =>
    split
    case isFalse => rfl
    case isTrue marked =>
      have mark : c ≠ '_' := by
        rintro rfl
        cases marked
      have digits := count_digitRun (sign rest).2
      simp only
      split
      case h_1 => rfl
      case h_2 run =>
        rw [run, count_sign] at digits
        simpa [mark] using digits

theorem count_of_read? {d : Decimal} (read : read? false s = some d) : s.count '_' = 0 := by
  obtain ⟨_, afterWhole, _, afterFraction, _, run, behind, -, power, -⟩ :=
    leading?_eq_some_iff.mp (leading?_of_read? read)
  rw [← count_sign, ← count_digitRun, run, ← count_behindPoint, behind, ← count_exponent, power]
  rfl

theorem read?_eq_none_iff : read? false s = none ↔ ∀ sp : Spelling, s ≠ sp.text := by
  constructor
  · rintro none sp rfl
    cases none.symm.trans (read?_text false sp)
  · intro unspelled
    by_contra read
    obtain ⟨d, read⟩ := Option.ne_none_iff_exists'.mp read
    obtain ⟨sp, spelled, -⟩ := exists_of_read? read
    have plain := List.count_eq_zero.mp (count_of_read? read)
    apply unspelled sp
    rw [← spelled, unscored, List.filter_eq_self.mpr]
    intro c among
    rw [bne_iff_ne]
    rintro rfl
    exact plain among

end Gridbook.Numeral
