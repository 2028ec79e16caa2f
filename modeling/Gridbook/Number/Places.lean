import Gridbook.Number.Shortest

/-! # Fixed places

A double with a fixed number of decimal places, and digits in groups of three.
-/

namespace Gridbook

/-- The digits with the given separator before every complete group of three counted from the
right, where something stands before it. -/
def groupDigits (digits : List Char) : List Char :=
  let rec fromRight : Nat → List Char → List Char
    | _, [] => []
    | 3, c :: rest => ',' :: c :: fromRight 1 rest
    | n, c :: rest => c :: fromRight (n + 1) rest
  (fromRight 0 digits.reverse).reverse

/-- An integer's digits, in groups when asked. -/
def showInteger (grouped : Bool) (n : Int) : List Char :=
  let digits := Nat.toDigits 10 n.natAbs
  (if n < 0 then ['-'] else []) ++ if grouped then groupDigits digits else digits

/-- A finite double rounded to a number of places, ties to even. The sign stays when the rounding
gives zero. -/
def showPlaces (grouped : Bool) (places : Nat) : Double → List Char
  | .finite negative m e _ =>
      let units := roundQuotient .even (m * twoTo e * tenTo places) (twoTo (-e))
      let whole := Nat.toDigits 10 (units / tenTo places)
      let sign := if negative then ['-'] else []
      let point :=
        if places = 0 then [] else '.' :: Double.padDigits places (units % tenTo places)
      sign ++ (if grouped then groupDigits whole else whole) ++ point
  | x => x.text.toList

/-- Text behind whose point no zeros stand at the end, and no bare point either. -/
def dropFractionZeros (s : List Char) : List Char :=
  if s.contains '.' then
    ((s.reverse.dropWhile (· == '0')).dropWhile (· == '.')).reverse
  else s

end Gridbook
