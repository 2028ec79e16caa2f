import Gridbook.Calendar.Date
import Gridbook.Text.Digit

/-! # Year, month and day among up to three numbers

The numbers of a date are collected in the order in which they stand, some of them already known
to be the year or the month. What is left is decided by size and position: a number above 31 is a
year, month before day unless the number is too large for a month, the year last.
-/

namespace Gridbook.FreeForm

/-- What a number of a date is known to be. -/
inductive Part where
  | year
  | month
  deriving Repr, DecidableEq

/-- The numbers of a date in order, the positions of those known, and whether a year was written
with its century. -/
structure Parts where
  numbers : List Nat := []
  yearAt : Option Nat := none
  monthAt : Option Nat := none
  fullYear : Bool := false
  deriving Repr, DecidableEq

namespace Parts

/-- Adds a number. Refused when the part is known already. -/
def push? (parts : Parts) (n : Nat) (part : Option Part) : Option Parts :=
  let position := parts.numbers.length
  let parts := { parts with numbers := parts.numbers ++ [n] }
  match part with
  | none => some parts
  | some .year => if parts.yearAt.isSome then none else some { parts with yearAt := some position }
  | some .month =>
      if parts.monthAt.isSome then none else some { parts with monthAt := some position }

/-- Adds a number that is too long or too large to be anything but a year with its century. -/
def pushFullYear? (parts : Parts) (n : Nat) (part : Option Part) : Option Parts :=
  if part == some .month then none
  else { parts with fullYear := true }.push? n (some .year)

def natural? (s : List Char) : Option Nat :=
  if s.isEmpty then none
  else (s.mapM Text.digitValue?).map Numeral.ofDigits

/-- Adds a number as it is written; more than two digits are a full year. -/
def pushText? (parts : Parts) (s : List Char) (part : Option Part) : Option Parts :=
  match natural? s with
  | none => none
  | some n => if 2 < s.length then parts.pushFullYear? n part else parts.push? n part

/-- Adds a number by its value, without what stands behind its point; above 100 it is a full
year. -/
def pushValue? (parts : Parts) (value : Decimal) : Option Parts :=
  let (whole, fraction) := value.splitPoint
  if 100 < whole || (whole == 100 && fraction.coefficient != 0) then
    parts.pushFullYear? whole none
  else parts.push? whole none

/-- Whether a value may still be the day, given what is known of year and month. Where the year
is unknown, February has 29 days. -/
def couldBeDay (parts : Parts) (value : Decimal) : Bool :=
  let (whole, fraction) := value.splitPoint
  let month := parts.monthAt.bind (parts.numbers[·]?)
  let year := (parts.yearAt.bind (parts.numbers[·]?)).getD 2000
  let limit := match month with
    | none => 31
    | some m => daysInMonth year m
  1 ≤ whole && (whole < limit || (whole == limit && fraction.coefficient == 0))

/-- The year, month and day, each if it is given. -/
structure Resolved where
  year : Option Nat := none
  month : Option Nat := none
  day : Option Nat := none
  deriving Repr, DecidableEq

/-- The position among three that is neither of the two given. -/
def thirdPosition (a b : Nat) : Nat :=
  3 - a - b

/-- Which numbers are year, month and day. -/
def resolve? (parts : Parts) : Option Resolved :=
  let get (i : Nat) := parts.numbers[i]?
  match parts.numbers, parts.yearAt, parts.monthAt with
  | [], _, _ => some {}
  | [_, _, _], some y, some m =>
      some ⟨get y, get m, get (thirdPosition y m)⟩
  | [_, _], some y, some m => some ⟨get y, get m, none⟩
  | [_], some y, none => some ⟨get y, none, none⟩
  | [_], _, some m => some ⟨none, get m, none⟩
  | [a], none, none => some (if 31 < a then ⟨a, none, none⟩ else ⟨none, none, a⟩)
  | [a, b], none, some m =>
      let other := if m = 0 then b else a
      some (if 31 < other then ⟨other, get m, none⟩ else ⟨none, get m, other⟩)
  | [a, b], _, none =>
      some (if 31 < a then ⟨a, b, none⟩ else if 31 < b then ⟨b, a, none⟩ else ⟨none, a, b⟩)
  | [a, b, c], none, some 0 => some (if 31 < b then ⟨b, a, c⟩ else ⟨c, a, b⟩)
  | [a, b, c], none, some 1 => some (if 31 < a then ⟨a, b, c⟩ else ⟨c, b, a⟩)
  | [a, b, c], none, some _ => some (if 31 < b then ⟨b, c, a⟩ else ⟨a, c, b⟩)
  | [a, b, c], y, none =>
      some (if 31 < a || y == some 0 then ⟨a, b, c⟩
        else if 12 < a then ⟨c, b, a⟩
        else ⟨c, a, b⟩)
  | _, _, _ => none

end Parts

end Gridbook.FreeForm
