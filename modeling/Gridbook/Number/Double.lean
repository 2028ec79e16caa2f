import Gridbook.Number.Rounding

/-! # Double-precision numbers

A finite double is a sign, a significand of at most 53 bits and a power of two, kept in one
canonical form, so that equal data are equal values. Every operation is the exact operation on
rationals followed by one rounding to the nearest double, ties to the even significand.
-/

namespace Gridbook

/-- The least natural that takes more than 53 bits. -/
def significandLimit : Nat := 0x20000000000000

/-- The least natural that takes 53 bits. -/
def leastNormal : Nat := 0x10000000000000

/-- The form in which a finite double is kept: 53 bits unless the exponent is the least. -/
def Double.Canonical (significand : Nat) (exponent : Int) : Prop :=
  significand < significandLimit ∧ -1074 ≤ exponent ∧ exponent ≤ 971 ∧
    (leastNormal ≤ significand ∨ exponent = -1074)

instance (m : Nat) (e : Int) : Decidable (Double.Canonical m e) := by
  unfold Double.Canonical; infer_instance

/-- A number in double precision; `finite` stands for `± significand · 2 ^ exponent`. -/
inductive Double where
  | nan
  | infinite (negative : Bool)
  | finite (negative : Bool) (significand : Nat) (exponent : Int)
      (canonical : Double.Canonical significand exponent)
  deriving DecidableEq

namespace Double

def signedZero (negative : Bool) : Double :=
  .finite negative 0 (-1074) (by decide)

def zero : Double := signedZero false

instance : Inhabited Double := ⟨zero⟩

/-- A canonical pair as a double; what is too large for one is infinite. -/
def pack (negative : Bool) (significand : Nat) (exponent : Int) : Double :=
  if h : Canonical significand exponent then .finite negative significand exponent h
  else .infinite negative

/-- The exponent that gives `n / d` a significand of 53 bits, or the least exponent. -/
def exponentFor (n d : Nat) : Int :=
  let e : Int := (n.log2 : Int) - d.log2 - 52
  let short := n * twoTo (-e) < leastNormal * d * twoTo e
  max (-1074) (if short then e - 1 else e)

/-- The double nearest to `± n / d`. -/
def ofQuotient (negative : Bool) (n d : Nat) : Double :=
  if n = 0 then signedZero negative
  else
    let e := exponentFor n d
    let m := roundQuotient .even (n * twoTo (-e)) (d * twoTo e)
    if m < significandLimit then pack negative m e else pack negative leastNormal (e + 1)

/-- The double nearest to `± m · 2 ^ e`. -/
def ofScaled (negative : Bool) (m : Nat) (e : Int) : Double :=
  ofQuotient negative (m * twoTo e) (twoTo (-e))

/-- The double nearest to an integer, infinite when there is none so large. -/
def ofInt (n : Int) : Double :=
  ofQuotient (n < 0) n.natAbs 1

def isFinite : Double → Bool
  | .finite .. => true
  | _ => false

/-- Whether the sign is the minus sign; not-a-number has none. -/
def isNegative : Double → Bool
  | .nan => false
  | .infinite negative => negative
  | .finite negative .. => negative

def isZero : Double → Bool
  | .finite _ m _ _ => m == 0
  | _ => false

def signed (negative : Bool) (m : Nat) : Int :=
  if negative then -(m : Int) else m

def neg : Double → Double
  | .nan => .nan
  | .infinite negative => .infinite !negative
  | .finite negative m e h => .finite (!negative) m e h

def abs : Double → Double
  | .nan => .nan
  | .infinite _ => .infinite false
  | .finite _ m e h => .finite false m e h

/-- The sum; a zero sum is negative only if both summands are. -/
def add : Double → Double → Double
  | .finite s₁ m₁ e₁ _, .finite s₂ m₂ e₂ _ =>
      let e := min e₁ e₂
      let total := signed s₁ (m₁ * twoTo (e₁ - e)) + signed s₂ (m₂ * twoTo (e₂ - e))
      if total = 0 then signedZero (s₁ && s₂) else ofScaled (total < 0) total.natAbs e
  | .infinite s₁, .infinite s₂ => if s₁ = s₂ then .infinite s₁ else .nan
  | .infinite s, .finite .. => .infinite s
  | .finite .., .infinite s => .infinite s
  | .nan, _ => .nan
  | _, .nan => .nan

def sub (a b : Double) : Double :=
  a.add b.neg

def mul : Double → Double → Double
  | .finite s₁ m₁ e₁ _, .finite s₂ m₂ e₂ _ => ofScaled (s₁ != s₂) (m₁ * m₂) (e₁ + e₂)
  | .nan, _ => .nan
  | _, .nan => .nan
  | a, b =>
      if a.isZero || b.isZero then .nan else .infinite (a.isNegative != b.isNegative)

/-- The quotient; a nonzero number divided by zero is infinite. -/
def div : Double → Double → Double
  | .finite s₁ m₁ e₁ _, .finite s₂ m₂ e₂ _ =>
      if m₂ = 0 then
        if m₁ = 0 then .nan else .infinite (s₁ != s₂)
      else
        ofQuotient (s₁ != s₂) (m₁ * twoTo (e₁ - e₂)) (m₂ * twoTo (e₂ - e₁))
  | .nan, _ => .nan
  | _, .nan => .nan
  | .infinite _, .infinite _ => .nan
  | .infinite s₁, b => .infinite (s₁ != b.isNegative)
  | a, .infinite s₂ => signedZero (a.isNegative != s₂)

instance : Add Double := ⟨add⟩
instance : Sub Double := ⟨sub⟩
instance : Mul Double := ⟨mul⟩
instance : Div Double := ⟨div⟩
instance : Neg Double := ⟨neg⟩

/-- How two doubles compare as numbers; not-a-number compares with none. -/
def compare? : Double → Double → Option Ordering
  | .nan, _ => none
  | _, .nan => none
  | .infinite s₁, .infinite s₂ =>
      some (if s₁ = s₂ then .eq else if s₁ then .lt else .gt)
  | .infinite s, .finite .. => some (if s then .lt else .gt)
  | .finite .., .infinite s => some (if s then .gt else .lt)
  | .finite s₁ m₁ e₁ _, .finite s₂ m₂ e₂ _ =>
      let e := min e₁ e₂
      some (compare (signed s₁ (m₁ * twoTo (e₁ - e))) (signed s₂ (m₂ * twoTo (e₂ - e))))

/-- The largest integer not above a finite double. -/
def floor? : Double → Option Int
  | .finite s m e _ =>
      some ((signed s (m * twoTo e)).fdiv (twoTo (-e) : Int))
  | _ => none

/-- A finite double without the digits behind its point. -/
def truncate? : Double → Option Int
  | .finite s m e _ => some (signed s (m * twoTo e / twoTo (-e)))
  | _ => none

def toInt? : Double → Option Int
  | .finite s m e _ =>
      if m * twoTo e % twoTo (-e) = 0 then
        some (signed s (m * twoTo e / twoTo (-e)))
      else none
  | _ => none

def half : Double := ofQuotient false 1 2

def one : Double := ofInt 1

def hundred : Double := ofInt 100

/-- The double nearest to an integer, if there is one so large. -/
def ofInt? (n : Int) : Option Double :=
  match ofInt n with
  | .infinite _ => none
  | d => some d

end Double

end Gridbook
