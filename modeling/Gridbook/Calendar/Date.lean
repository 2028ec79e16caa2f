import Gridbook.Number.Shortest
import Gridbook.Number.Numeral

/-! # Dates and moments

Dates of the Gregorian calendar in the years 1 to 9999, and moments, which are dates with a time
of day and perhaps a distance from universal time.
-/

namespace Gridbook

/-- Whether a year has a 29 February. -/
def isLeapYear (year : Nat) : Bool :=
  year % 4 == 0 && (year % 100 != 0 || year % 400 == 0)

/-- The number of days of a month; there is no month outside 1 to 12. -/
def daysInMonth (year month : Nat) : Nat :=
  match month with
  | 2 => if isLeapYear year then 29 else 28
  | 4 | 6 | 9 | 11 => 30
  | 1 | 3 | 5 | 7 | 8 | 10 | 12 => 31
  | _ => 0

def daysInYear (year : Nat) : Nat :=
  if isLeapYear year then 366 else 365

/-- The days that the calendar has. -/
def Date.Valid (year month day : Nat) : Prop :=
  1 ≤ year ∧ year ≤ 9999 ∧ 1 ≤ day ∧ day ≤ daysInMonth year month

instance (y m d : Nat) : Decidable (Date.Valid y m d) := by
  unfold Date.Valid; infer_instance

/-- A day of the calendar. -/
structure Date where
  year : Nat
  month : Nat
  day : Nat
  valid : Date.Valid year month day
  deriving DecidableEq

namespace Date

/-- The date with these numbers, if the calendar has it. -/
def of? (year month day : Nat) : Option Date :=
  if h : Valid year month day then some ⟨year, month, day, h⟩ else none

/-- The month and day of the `n`-th day of a year from a month on, counted from zero. -/
def inMonths (year : Nat) : List Nat → Nat → Nat × Nat
  | [], n => (12, n + 1)
  | month :: later, n =>
      if n < daysInMonth year month then (month, n + 1)
      else inMonths year later (n - daysInMonth year month)

/-- The date that comes `n` days after the first day of a year. -/
def afterNewYear? (year n : Nat) : Option Date :=
  if _h : daysInYear year ≤ n then afterNewYear? (year + 1) (n - daysInYear year)
  else
    let (month, day) := inMonths year (List.range' 1 12) n
    of? year month day
termination_by n
decreasing_by
  have : 0 < daysInYear year := by unfold daysInYear; split <;> decide
  omega

/-- The date of a serial number, counted in days with 30 December 1899 as number zero. -/
def ofSerial? (serial : Nat) : Option Date :=
  afterNewYear? 1899 (363 + serial)

/-- Days before the first day of a year, counted from the first day of year 1. -/
def daysBeforeYear (year : Nat) : Nat :=
  let y := year - 1
  365 * y + y / 4 - y / 100 + y / 400

/-- The number of a day; 1 January of year 1 has number 1. -/
def dayNumber (d : Date) : Nat :=
  let daysBeforeMonth :=
    (List.range' 1 (d.month - 1)).foldl (fun n month => n + daysInMonth d.year month) 0
  daysBeforeYear d.year + daysBeforeMonth + d.day

/-- The day of the week, with Monday as 0. -/
def weekday (d : Date) : Nat :=
  (d.dayNumber + 6) % 7

/-- A date as year, month and day of fixed width. -/
def text (d : Date) : String :=
  String.ofList (Double.padDigits 4 d.year ++ '-' :: Double.padDigits 2 d.month ++
    '-' :: Double.padDigits 2 d.day)

/-- A natural spelled by exactly `width` ASCII digits at the start of a text. -/
def fixedNumber? (width : Nat) (s : List Char) : Option (Nat × List Char) :=
  let digits := s.take width
  if digits.length = width && digits.all Char.isDigit then
    some (Numeral.ofDigits (digits.map fun c => c.toNat - 48), s.drop width)
  else none

/-- A date at the start of a text, in the form that `text` writes. -/
def leading? (s : List Char) : Option (Date × List Char) := do
  let (year, rest) ← fixedNumber? 4 s
  let '-' :: rest := rest | none
  let (month, rest) ← fixedNumber? 2 rest
  let '-' :: rest := rest | none
  let (day, rest) ← fixedNumber? 2 rest
  let date ← of? year month day
  some (date, rest)

/-- The date that a text in the form of `text` shows. -/
def read? (s : String) : Option Date :=
  match leading? s.toList with
  | some (date, []) => some date
  | _ => none

end Date

/-- A day with a time of day and, for a moment fixed on earth, the seconds by which its clock is
ahead of universal time. -/
structure Moment where
  date : Date
  hour : Nat
  minute : Nat
  second : Nat
  microsecond : Nat
  offset : Option Int
  deriving DecidableEq

namespace Moment

/-- The distance from universal time, with seconds only where they are not zero. -/
def offsetText (offset : Int) : List Char :=
  let n := offset.natAbs
  let seconds := if n % 60 = 0 then [] else ':' :: Double.padDigits 2 (n % 60)
  (if offset < 0 then '-' else '+') :: Double.padDigits 2 (n / 3600) ++
    ':' :: Double.padDigits 2 (n / 60 % 60) ++ seconds

/-- A moment with the given character between date and time; microseconds are shown only where
they are not zero. -/
def textWith (separator : Char) (m : Moment) : String :=
  let micros := if m.microsecond = 0 then [] else '.' :: Double.padDigits 6 m.microsecond
  m.date.text ++ String.ofList (separator :: Double.padDigits 2 m.hour ++
    ':' :: Double.padDigits 2 m.minute ++ ':' :: Double.padDigits 2 m.second ++ micros ++
      (m.offset.map offsetText).getD [])

def text (m : Moment) : String :=
  m.textWith ' '

/-- Microseconds since the start of year 1 on the moment's own clock. -/
def clockMicroseconds (m : Moment) : Int :=
  (((m.date.dayNumber * 24 + m.hour) * 60 + m.minute) * 60 + m.second) * 1000000 + m.microsecond

/-- Whether two moments are the same. Fixed moments are compared in universal time, and are
never the same as one that is not fixed. -/
def same (a b : Moment) : Bool :=
  match a.offset, b.offset with
  | none, none => a.clockMicroseconds == b.clockMicroseconds
  | some x, some y =>
      a.clockMicroseconds - x * 1000000 == b.clockMicroseconds - y * 1000000
  | _, _ => false

/-- A distance from universal time in the form that `offsetText` writes. -/
def readOffset? : List Char → Option (Option Int)
  | [] => some none
  | c :: rest => do
      guard (c == '+' || c == '-')
      let (hours, rest) ← Date.fixedNumber? 2 rest
      let ':' :: rest := rest | none
      let (minutes, rest) ← Date.fixedNumber? 2 rest
      let seconds ← match rest with
        | [] => some 0
        | ':' :: rest => (Date.fixedNumber? 2 rest).map (·.1)
        | _ => none
      some (some (Double.signed (c == '-') (hours * 3600 + minutes * 60 + seconds)))

/-- The moment that a text in the form of `textWith` shows. -/
def read? (s : String) : Option Moment := do
  let (date, rest) ← Date.leading? s.toList
  let _ :: rest := rest | none
  let (hour, rest) ← Date.fixedNumber? 2 rest
  let ':' :: rest := rest | none
  let (minute, rest) ← Date.fixedNumber? 2 rest
  let ':' :: rest := rest | none
  let (second, rest) ← Date.fixedNumber? 2 rest
  let (microsecond, rest) ← match rest with
    | '.' :: rest => Date.fixedNumber? 6 rest
    | rest => some (0, rest)
  let offset ← readOffset? rest
  some ⟨date, hour, minute, second, microsecond, offset⟩

end Moment

end Gridbook
