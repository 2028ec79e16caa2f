import Gridbook.Number.Double

/-! # Decimal numbers

A decimal is `± coefficient · 10 ^ exponent`, exactly. It is what a numeral stands for, what a
double is shown as, and what rounding to a number of places works on.
-/

namespace Gridbook

/-- The number `± coefficient · 10 ^ exponent`. -/
structure Decimal where
  negative : Bool
  coefficient : Nat
  exponent : Int
  deriving Repr, DecidableEq, Inhabited

namespace Decimal

/-- The double nearest to a decimal. Far beyond the range of doubles the power of ten is not
computed. -/
def toDouble (x : Decimal) : Double :=
  if x.coefficient = 0 then .signedZero x.negative
  else
    let magnitude := digitCount x.coefficient + x.exponent
    if magnitude > 400 then .infinite x.negative
    else if magnitude < -400 then .signedZero x.negative
    else
      Double.ofQuotient x.negative (x.coefficient * tenTo x.exponent)
        (tenTo (-x.exponent))

/-- The most digits that decimal arithmetic keeps. -/
def precision : Nat := 28

inductive Refusal where
  /-- The operation has no result of the allowed precision. -/
  | invalidOperation
  /-- The result is larger than any decimal. -/
  | overflow
  /-- The integer part of a remainder's quotient has too many digits. -/
  | divisionImpossible
  deriving Repr, DecidableEq

/-- The largest exponent of a decimal in scientific notation. -/
def maxExponent : Int := 999999

/-- The least exponent of a decimal's last digit. -/
def minExponent : Int := -1000026

/-- The exponent of the unit `10 ^ k`: powers beneath the least one are all taken for it. -/
def unitExponent (k : Int) : Except Refusal Int :=
  if 2 * (maxExponent + precision) < k.natAbs then .error .invalidOperation
  else if maxExponent < k then .error .overflow
  else .ok (max minExponent k)

/-- The multiple of `10 ^ k` nearest to a decimal, ties away from zero. It is refused when it
needs more digits than `precision`. -/
def roundTo (x : Decimal) (k : Int) : Except Refusal Decimal :=
  if x.coefficient = 0 then .ok ⟨x.negative, 0, k⟩
  else if k ≤ x.exponent then
    let shift := (x.exponent - k).toNat
    if precision < digitCount x.coefficient + shift then .error .invalidOperation
    else .ok ⟨x.negative, x.coefficient * tenTo shift, k⟩
  else
    let shift := (k - x.exponent).toNat
    if digitCount x.coefficient < shift then .ok ⟨x.negative, 0, k⟩
    else
      let c := roundQuotient .up x.coefficient (tenTo shift)
      if precision < digitCount c then .error .invalidOperation else .ok ⟨x.negative, c, k⟩

/-- A number without its digits behind the point, and those digits as a fraction. -/
def splitPoint (x : Decimal) : Nat × Decimal :=
  let unit := tenTo (-x.exponent)
  let scaled := x.coefficient * tenTo x.exponent
  (scaled / unit, ⟨false, scaled % unit, min 0 x.exponent⟩)

/-- A decimal with its coefficient rounded to `precision` digits, ties to even. -/
def toPrecision (x : Decimal) : Decimal :=
  let surplus := digitCount x.coefficient - precision
  if surplus = 0 then x
  else
    let c := roundQuotient .even x.coefficient (tenTo surplus)
    ⟨x.negative, c, x.exponent + surplus⟩

end Decimal

end Gridbook
