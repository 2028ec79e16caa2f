/-! # Powers and quotients of naturals

Scaling by a power of which the exponent may have either sign: a number times `2 ^ e` is the
quotient of the number times `twoTo e` by `twoTo (-e)`, one of which is one. A quotient is rounded
to the nearest natural, with the rule for a tie as a parameter.
-/

namespace Gridbook

/-- The power of two to an exponent; a negative exponent counts as zero. -/
def twoTo (e : Int) : Nat := Nat.pow 2 e.toNat

/-- The power of ten to an exponent; a negative exponent counts as zero. -/
def tenTo (k : Int) : Nat := Nat.pow 10 k.toNat

/-- Which neighbour a number halfway between two neighbours goes to. -/
inductive Tie where
  /-- The even neighbour. -/
  | even
  /-- The larger neighbour. -/
  | up
  deriving Repr, DecidableEq

/-- Whether a tie above `floor` goes to `floor + 1`. -/
def Tie.roundsUp (tie : Tie) (floor : Nat) : Bool :=
  match tie with
  | .even => floor % 2 == 1
  | .up => true

/-- The natural nearest to `n / d`. -/
def roundQuotient (tie : Tie) (n d : Nat) : Nat :=
  let floor := n / d
  let twice := 2 * (n % d)
  if twice < d then floor
  else if d < twice then floor + 1
  else if tie.roundsUp floor then floor + 1 else floor

/-- The number of decimal digits of a natural; zero has one. -/
def digitCount (n : Nat) : Nat :=
  (Nat.toDigits 10 n).length

/-- An integer's decimal digits after a minus sign when it is negative. -/
def intDigits (n : Int) : String :=
  if n < 0 then "-" ++ String.ofList (Nat.toDigits 10 n.natAbs)
  else String.ofList (Nat.toDigits 10 n.natAbs)

end Gridbook
