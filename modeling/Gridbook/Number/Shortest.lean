import Gridbook.Number.Decimal

/-! # Shortest decimals of doubles

A double is shown with the fewest digits that still read back as it, and among those as the
nearest. On the grid of decimals with a given number of digits only the two neighbours of the
double need to be tried.
-/

namespace Gridbook

/-- The largest `k` with `10 ^ k ≤ n / d`, for a positive quotient. -/
def decimalMagnitude (n d : Nat) : Int :=
  if d ≤ n then (digitCount (n / d) : Int) - 1
  else -(digitCount ((d + n - 1) / n - 1) : Int)

def Decimal.trimZeros (x : Decimal) : Decimal :=
  if h : x.coefficient = 0 then ⟨x.negative, 0, 0⟩
  else if x.coefficient % 10 = 0 then
    trimZeros ⟨x.negative, x.coefficient / 10, x.exponent + 1⟩
  else x
termination_by x.coefficient
decreasing_by omega

namespace Double

/-- The multiple of `10 ^ k` that is nearest to `± n / d` among its two neighbours there, if one
of them reads back as `x`. A tie between two that do goes to the even one. -/
def nearestOnGrid? (x : Double) (negative : Bool) (n d : Nat) (k : Int) : Option Decimal :=
  let top := n * tenTo (-k)
  let bottom := d * tenTo k
  let low : Decimal := ⟨negative, top / bottom, k⟩
  let high : Decimal := ⟨negative, top / bottom + 1, k⟩
  let nearest : Decimal := ⟨negative, roundQuotient .even top bottom, k⟩
  match decide (low.toDouble = x), decide (high.toDouble = x) with
  | true, true => some nearest
  | true, false => some low
  | false, true => some high
  | false, false => none

/-- The shortest decimal that reads back as a finite double; zero for any other. Seventeen
digits are always enough. -/
def shortest : Double → Decimal
  | .finite negative m e h =>
      if m = 0 then ⟨negative, 0, 0⟩
      else
        let n := m * twoTo e
        let d := twoTo (-e)
        let magnitude := decimalMagnitude n d
        let found := (List.range 17).findSome? fun (extra : Nat) =>
          nearestOnGrid? (.finite negative m e h) negative n d (magnitude - extra)
        (found.getD ⟨negative, 0, 0⟩).trimZeros
  | _ => default

/-- Digits padded with zeros in front to a least length. -/
def padDigits (width n : Nat) : List Char :=
  let digits := Nat.toDigits 10 n
  List.replicate (width - digits.length) '0' ++ digits

/-- The exponents of the first digit that are written in positional notation. -/
def isPositional (magnitude : Int) : Bool :=
  -4 ≤ magnitude && magnitude < 16

/-- How a decimal with nothing to trim is written: positional with at least one digit behind the
point, or with an exponent of at least two digits. -/
def showDecimal (x : Decimal) : List Char :=
  let sign := if x.negative then ['-'] else []
  let digits := Nat.toDigits 10 x.coefficient
  let magnitude : Int := x.exponent + digits.length - 1
  sign ++
    if x.coefficient = 0 then ['0', '.', '0']
    else if isPositional magnitude then
      if 0 ≤ x.exponent then digits ++ List.replicate x.exponent.toNat '0' ++ ['.', '0']
      else if 0 ≤ magnitude then
        digits.take (magnitude.toNat + 1) ++ '.' :: digits.drop (magnitude.toNat + 1)
      else '0' :: '.' :: List.replicate (-magnitude - 1).toNat '0' ++ digits
    else
      let fraction := if digits.length = 1 then [] else '.' :: digits.drop 1
      digits.take 1 ++ fraction ++
        'e' :: (if magnitude < 0 then '-' else '+') :: padDigits 2 magnitude.natAbs

def text : Double → String
  | .nan => "nan"
  | .infinite negative => if negative then "-inf" else "inf"
  | x => String.ofList (showDecimal x.shortest)

end Double

end Gridbook
