import Gridbook.Number.Decimal
import Gridbook.Text.Digit

/-! # Numerals

Reading decimal numerals, with digits of any script: an optional sign, digits with an optional
point, and an optional exponent that counts only when it is complete.
-/

namespace Gridbook.Numeral

/-- Text without an underscore at its start that a digit follows. -/
def passUnderscore : List Char → List Char
  | '_' :: next :: rest => if Text.isDecimalDigit next then next :: rest else '_' :: next :: rest
  | s => s

theorem length_passUnderscore_le (s : List Char) : (passUnderscore s).length ≤ s.length := by
  unfold passUnderscore
  split
  · split <;> simp
  · exact Nat.le_refl _

/-- The digits at the start of a text and what follows them. An underscore between two digits is
passed over when `underscores` is set. -/
def digitRun (underscores : Bool) : List Char → List Nat × List Char
  | [] => ([], [])
  | c :: rest =>
      match Text.digitValue? c with
      | none => ([], c :: rest)
      | some v =>
          let (digits, tail) :=
            digitRun underscores (if underscores then passUnderscore rest else rest)
          (v :: digits, tail)
termination_by s => s.length
decreasing_by
  have := length_passUnderscore_le rest
  split <;> simp only [List.length_cons] <;> omega

def ofDigits (digits : List Nat) : Nat :=
  digits.foldl (fun n v => n * 10 + v) 0

/-- A sign at the start of a text; `true` stands for minus. -/
def sign : List Char → Bool × List Char
  | '-' :: rest => (true, rest)
  | '+' :: rest => (false, rest)
  | s => (false, s)

/-- An exponent at the start of a text, if a complete one stands there. -/
def exponent (underscores : Bool) : List Char → Int × List Char
  | e :: rest =>
      if e == 'e' || e == 'E' then
        let (negative, unsigned) := sign rest
        match digitRun underscores unsigned with
        | ([], _) => (0, e :: rest)
        | (digits, tail) => (Double.signed negative (ofDigits digits), tail)
      else (0, e :: rest)
  | [] => (0, [])

/-- The longest numeral at the start of a text and what follows it. -/
def leading? (underscores : Bool) (s : List Char) : Option (Decimal × List Char) :=
  let (negative, unsigned) := sign s
  let (whole, afterWhole) := digitRun underscores unsigned
  let (fraction, afterFraction) :=
    match afterWhole with
    | '.' :: rest => digitRun underscores rest
    | rest => ([], rest)
  if whole.isEmpty && fraction.isEmpty then none
  else
    let (e, tail) := exponent underscores afterFraction
    some (⟨negative, ofDigits (whole ++ fraction), e - fraction.length⟩, tail)

/-- The number that a whole text spells. -/
def read? (underscores : Bool) (s : List Char) : Option Decimal :=
  match leading? underscores s with
  | some (x, []) => some x
  | _ => none

/-- An integer numeral: its sign, its digits and nothing else. -/
def integer? (s : List Char) : Option (Bool × List Nat) :=
  let (negative, unsigned) := sign s
  match digitRun false unsigned with
  | ([], _) => none
  | (digits, []) => some (negative, digits)
  | _ => none

end Gridbook.Numeral
