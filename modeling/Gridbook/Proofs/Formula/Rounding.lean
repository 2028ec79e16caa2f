import Gridbook.Proofs.Cell.Tame
import Gridbook.Proofs.Formula.Meaning
import Gridbook.Proofs.Number.Fewest
import Gridbook.Proofs.Number.Integer
import Gridbook.Proofs.Number.Written

/-! # Rounding in formulas

A number is rounded to the multiple of a power of ten that is nearest to the decimal it is written
as, ties away from zero. If the multiple needs more than 28 digits there is no result, and a formula
that asks for it fails.
-/

namespace Gridbook

def Cell.GivesPlaces (c : Cell) (places : Int) : Prop :=
  ∃ x, c.number? = .ok (some x) ∧ x.truncate? = some places

variable {a b : Cell} {x : Double} {places : Int}

theorem Cell.givesPlaces_int (bounded : places.natAbs ≤ 2 ^ 53) :
    (int places).GivesPlaces places := by
  refine ⟨.ofInt places, ?_, Double.truncate?_ofInt bounded⟩
  simp [number?, intNumber, Double.ofInt?_of_bounded bounded, bind, Except.bind, pure, Except.pure]

namespace Function

theorem apply_round (number : a.number? = .ok (some x)) (gives : b.GivesPlaces places) :
    round.apply [a, b] = match roundDecimal x places with
      | .ok decimal => .ok (.float decimal.toDouble)
      | .error refusal => .error (.decimal refusal) := by
  obtain ⟨y, second, truncated⟩ := gives
  have admitted : round.checkArity 2 = .ok () := rfl
  simp only [apply, List.length_cons, List.length_nil, admitted, rounded, number, second, truncated,
    Option.getD_some, bind, Except.bind]
  cases roundDecimal x places <;> rfl

theorem roundDecimal_nearest (low : -999999 ≤ places) (high : places ≤ 999999) :
    ∃ n : ℤ, NearestMultiple x.shortest.rational (10 ^ (-places)) n ∧
      (digitCount n.natAbs ≤ 28 → ∃ r, roundDecimal x places = .ok r ∧
        r.rational = n * 10 ^ (-places)) ∧
      (28 < digitCount n.natAbs → roundDecimal x places = .error .invalidOperation) := by
  have unit : Decimal.unitExponent (-places) = .ok (-places) := by
    rw [Decimal.unitExponent, Decimal.maxExponent, Decimal.minExponent, Decimal.precision,
      if_neg (by omega), if_neg (by omega), max_eq_right (by omega)]
  have rounded : roundDecimal x places = x.shortest.roundTo (-places) := by
    rw [roundDecimal, unit]
    rfl
  rw [rounded]
  exact Decimal.roundTo_nearest x.shortest (-places)

end Function

def Formula.Calls (scope : Scope) (formula : Formula) (f : Function) (cells : List Cell) : Prop :=
  ∃ name arguments, formula = .call name arguments ∧ scope.registry.function? name = some f ∧
    evalAll? scope arguments = some cells

theorem Formula.Calls.evaluate {scope : Scope} {formula : Formula} {f : Function}
    {cells : List Cell} (calls : formula.Calls scope f cells) (eager : f.isLazy = false)
    (values : cells.find? Cell.isError = none) :
    formula.evaluate scope = match f.apply cells with
      | .ok cell => cell.normalized
      | .error _ => .failure := by
  obtain ⟨name, arguments, rfl, found, evaluated⟩ := calls
  rw [Formula.evaluate, eval?_eager found eager, evaluated]
  simp only [Option.bind_eq_bind, Option.bind_some, values]
  cases f.apply cells <;> rfl

/-- Rounding a cell to so many places has an outcome, whichever cell gives the places, and a formula
that asks for it has the value. -/
def Function.RoundsTo (a : Cell) (places : Int) (outcome : Except Fault Cell) : Prop :=
  ∀ b : Cell, b.GivesPlaces places → round.apply [a, b] = outcome ∧
    ∀ (scope : Scope) (formula : Formula), formula.Calls scope .round [a, b] →
      formula.evaluate scope = match outcome with
        | .ok cell => cell.normalized
        | .error _ => .failure

theorem Function.roundsTo (number : a.number? = .ok (some x)) (places : Int) :
    RoundsTo a places (match roundDecimal x places with
      | .ok decimal => .ok (.float decimal.toDouble)
      | .error refusal => .error (.decimal refusal)) := by
  intro b gives
  have applied := apply_round number gives
  obtain ⟨y, second, -⟩ := gives
  have values : [a, b].find? Cell.isError = none := by
    simp [Cell.not_isError_of_number? number, Cell.not_isError_of_number? second]
  refine ⟨applied, fun scope formula calls => ?_⟩
  rw [calls.evaluate rfl values, applied]

/-- A number is rounded to the multiple of `10 ^ (-places)` that is nearest to the shortest decimal
it is written as, ties away from zero, if the multiple takes at most 28 digits down to that place.
If it takes more, the call is refused, and a formula fails. -/
theorem round_nearest (number : a.number? = .ok (some x)) (low : -999999 ≤ places)
    (high : places ≤ 999999) :
    ∃ (written : Decimal) (n : ℤ),
      Numeral.read? false x.text.toList = some written ∧ written.toDouble = x ∧
      (∃ shortest, Decimal.IsShortest x shortest ∧ written.rational = shortest.rational) ∧
      NearestMultiple written.rational (10 ^ (-places)) n ∧
      (∀ other, NearestMultiple written.rational (10 ^ (-places)) other → other = n) ∧
      (x.isZero = true ∨ digitCount n.natAbs ≤ 28 →
        ∃ r, Function.roundDecimal x places = .ok r ∧ r.rational = n * 10 ^ (-places) ∧
          Function.RoundsTo a places (.ok (.float r.toDouble))) ∧
      (¬(x.isZero = true ∨ digitCount n.natAbs ≤ 28) →
        Function.roundDecimal x places = .error .invalidOperation ∧
          Function.RoundsTo a places (.error (.decimal .invalidOperation))) ∧
      (Cell.int places).GivesPlaces places := by
  have finite := Cell.isFinite_of_number? number
  obtain ⟨written, read, same, back⟩ := Double.read?_text_of_finite finite
  obtain ⟨n, nearest, fits, beyond⟩ := Function.roundDecimal_nearest (x := x) low high
  have unit := ten_zpow_pos (-places)
  have zero : x.isZero = true → digitCount n.natAbs ≤ 28 := by
    intro none
    rw [nearest.eq_zero unit (Double.rational_shortest_of_isZero none)]
    decide
  have outcome := Function.roundsTo number places
  rw [← same] at nearest
  refine ⟨written, n, read, back, ⟨_, Double.shortest_isShortest finite, same⟩, nearest,
    fun other => nearest.unique unit, ?_, ?_, ?_⟩
  · intro few
    obtain ⟨r, rounded, multiple⟩ := fits (few.elim zero id)
    rw [rounded] at outcome
    exact ⟨r, rounded, multiple, outcome⟩
  · intro many
    have refused := beyond (by omega)
    rw [refused] at outcome
    exact ⟨refused, outcome⟩
  · exact Cell.givesPlaces_int (by omega)

/-- A tie beneath zero is rounded away from it: to two places `-0.125` is `-0.13`. -/
theorem minus_eighth_rounded :
    (Cell.text "-0.125").number? = .ok (some (.ofQuotient true 1 8)) ∧
      ∃ r, Function.roundDecimal (.ofQuotient true 1 8) 2 = .ok r ∧
        r.rational = (-13 : ℤ) * 10 ^ (-2 : ℤ) ∧
        Function.RoundsTo (.text "-0.125") 2 (.ok (.float r.toDouble)) := by
  have number : (Cell.text "-0.125").number? = .ok (some (.ofQuotient true 1 8)) := by
    decide +kernel
  obtain ⟨written, n, read, -, -, -, only, fits, -⟩ :=
    round_nearest number (by decide : (-999999 : Int) ≤ 2) (by decide)
  have text : Numeral.read? false (Double.ofQuotient true 1 8).text.toList =
      some ⟨true, 125, -3⟩ := by decide +kernel
  obtain rfl := Option.some.inj (text.symm.trans read)
  have nearest : NearestMultiple (1 / 8) (10 ^ (-2 : ℤ)) (13 : ℕ) := by
    have center : (1 / 8 : ℚ) = 25 / 2 * 10 ^ (-2 : ℤ) := by norm_num
    rw [center]
    exact .of_bounds (by norm_num) (by norm_num) (by norm_num) (by norm_num)
  have mirrored : (⟨true, 125, -3⟩ : Decimal).rational = -(1 / 8) := by
    norm_num [Decimal.rational, Double.signed]
  obtain rfl : -13 = n := only _ (mirrored ▸ nearest.neg)
  exact ⟨number, fits (.inr (by decide))⟩

end Gridbook
