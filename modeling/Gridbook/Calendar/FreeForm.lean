import Gridbook.Calendar.FreeForm.Parts
import Gridbook.Calendar.FreeForm.Token
import Gridbook.Calendar.FreeForm.Vocabulary

/-! # Dates in free form

Reads a date from text such as `March 5th, 2024`, `2024-03-05T10:20` or `5/3/24 3pm`. The text is
read token by token; numbers are taken for parts of the date or of the time by their length and
by what stands around them. A part of the date that the text leaves out comes from 1 January
2000, and a weekday without a day moves forward to the first such day.
-/

namespace Gridbook.FreeForm

inductive Stop where
  /-- The text is no date. -/
  | noDate
  /-- A number has too many digits before its point to be divided into units of time. -/
  | tooManyDigits
  deriving Repr, DecidableEq

/-- What has been read so far. -/
structure Reading where
  parts : Parts := {}
  weekday : Option Nat := none
  hour : Option Nat := none
  minute : Option Nat := none
  second : Option Nat := none
  microsecond : Option Nat := none
  zone : Option String := none
  zoneOffset : Option Int := none
  /-- A sign follows that counts from the named zone towards universal time. -/
  signReversed : Bool := false
  deriving Repr, DecidableEq

def orStop (x : Option α) : Except Stop α :=
  match x with
  | some a => .ok a
  | none => .error .noDate

/-- The natural that a token of decimal digits spells. -/
def number (token : List Char) : Except Stop Nat :=
  orStop (Parts.natural? token)

def value? (token : String) : Option Decimal :=
  Numeral.read? true token.toList

/-- A value's whole part and the sixtieths that its fraction amounts to, if it has one. -/
def wholeAndSixtieths (value : Decimal) : Except Stop (Nat × Option Nat) :=
  let (whole, fraction) := value.splitPoint
  if Decimal.precision < digitCount whole then .error .tooManyDigits
  else if fraction.coefficient = 0 then .ok (whole, none)
  else
    let kept := fraction.toPrecision
    let sixtieths := { kept with coefficient := 60 * kept.coefficient : Decimal }.toPrecision
    .ok (whole, some sixtieths.splitPoint.1)

/-- Seconds and microseconds of a token, which may have one point. -/
def seconds (token : List Char) : Except Stop (Nat × Nat) :=
  let whole := token.takeWhile (· != '.')
  match token.dropWhile (· != '.') with
  | [] => do return (← number token, 0)
  | _ :: fraction => do
      let micros := fraction ++ List.replicate (6 - fraction.length) '0'
      return (← number whole, ← number (micros.take 6))

def inHalf (hour : Nat) (afterNoon : Bool) : Nat :=
  if hour < 12 && afterNoon then hour + 12
  else if hour == 12 && !afterNoon then 0
  else hour

/-- Whether a token may name the zone of what has been read, given the offset known so far. -/
def Reading.admitsZone (r : Reading) (offset : Option Int) (token : String) : Bool :=
  r.hour.isSome && r.zone.isNone && offset.isNone && looksLikeZone token

/-- Two digits from a position on. -/
def pair (s : List Char) (i : Nat) : Except Stop Nat :=
  number ((s.drop i).take 2)

/-- The position of the word that says which unit of time the number at `i` counts. -/
def unitPosition? (tokens : Array String) (i : Nat) : Option Nat :=
  let names (j : Nat) := ((tokens[j]?).bind timeUnit?).isSome
  if names (i + 1) then some (i + 1)
  else if tokens[i + 1]? == some " " && names (i + 2) then some (i + 2)
  else if 0 < i && names (i - 1) then some (i - 1)
  else if 1 < i && i + 1 == tokens.size && tokens[i - 1]? == some " " && names (i - 2) then
    some (i - 2)
  else none

/-- Takes a number for a count of hours, minutes or seconds. -/
def Reading.setUnit (r : Reading) (unit : Nat) (token : String) (value : Decimal) :
    Except Stop Reading := do
  match unit with
  | 0 =>
      let (hour, minutes) ← wholeAndSixtieths value
      return { r with hour := some hour, minute := minutes <|> r.minute }
  | 1 =>
      let (minute, secs) ← wholeAndSixtieths value
      return { r with minute := some minute, second := secs }
  | 2 =>
      let (second, micros) ← seconds token.toList
      return { r with second := some second, microsecond := some micros }
  | _ => return r

/-- Reads the number at position `i` and says how many more tokens it took. -/
def Reading.addNumber (r : Reading) (tokens : Array String) (i : Nat) (token : String)
    (value : Decimal) : Except Stop (Reading × Nat) := do
  let s := token.toList
  let next := tokens[i + 1]?
  let length := s.length
  let withParts (parts : Option Parts) : Except Stop Reading := do
    return { r with parts := ← orStop parts }
  if r.parts.numbers.length == 3 && (length == 2 || length == 4) && r.hour.isNone
      && (next.all fun t => t != ":" && (timeUnit? t).isNone) then
    let hour ← pair s 0
    if length == 4 then
      return ({ r with hour := some hour, minute := some (← pair s 2) }, 0)
    else return ({ r with hour := some hour }, 0)
  else if length == 6 || (6 < length && s.idxOf? '.' == some 6) then
    if r.parts.numbers.isEmpty && !s.contains '.' then
      let parts := do
        let p ← r.parts.pushText? (s.take 2) none
        let p ← p.pushText? ((s.drop 2).take 2) none
        p.pushText? (s.drop 4) none
      return (← withParts parts, 0)
    else
      let hour ← pair s 0
      let minute ← pair s 2
      let (second, micros) ← seconds (s.drop 4)
      return ({ r with hour := some hour, minute := some minute, second := some second,
                       microsecond := some micros }, 0)
  else if length == 8 || length == 12 || length == 14 then
    let parts := do
      let p ← r.parts.pushText? (s.take 4) (some .year)
      let p ← p.pushText? ((s.drop 4).take 2) none
      p.pushText? ((s.drop 6).take 2) none
    let r ← withParts parts
    if length == 8 then return (r, 0)
    else
      let r := { r with hour := some (← pair s 8), minute := some (← pair s 10) }
      if length == 12 then return (r, 0)
      else return ({ r with second := some (← number (s.drop 12)) }, 0)
  else
    match unitPosition? tokens i with
    | some j =>
        let unit := ((tokens[j]?).bind timeUnit?).getD 0
        if i < j then return (← r.setUnit unit token value, j - i)
        else return (← r.setUnit (unit + 1) token value, 0)
    | none =>
    if i + 2 < tokens.size && next == some ":" then
      let minutes ← orStop ((tokens[i + 2]?).bind value?)
      let (minute, second) ← wholeAndSixtieths minutes
      let r := { r with hour := some value.splitPoint.1, minute := some minute, second := second }
      match tokens[i + 3]?, tokens[i + 4]? with
      | some ":", some t =>
          let (second, micros) ← seconds t.toList
          return ({ r with second := some second, microsecond := some micros }, 4)
      | _, _ => return (r, 2)
    else if next == some "-" || next == some "/" || next == some "." then
      let r ← withParts (r.parts.pushText? s none)
      match tokens[i + 2]? with
      | none => return (r, 1)
      | some second =>
          if isFiller second then return (r, 1)
          else
            let parts :=
              if !second.isEmpty && second.toList.all Text.isDigitLike then
                r.parts.pushText? second.toList none
              else (month? second).bind fun m => r.parts.push? m (some .month)
            let r := { r with parts := ← orStop parts }
            if tokens[i + 3]? == next then
              let third ← orStop tokens[i + 4]?
              let parts := match month? third with
                | some m => r.parts.push? m (some .month)
                | none => r.parts.pushText? third.toList none
              return ({ r with parts := ← orStop parts }, 4)
            else return (r, 2)
    else if next.all isFiller then
      match (tokens[i + 2]?).bind halfDay? with
      | some half => return ({ r with hour := some (inHalf value.splitPoint.1 half) }, 2)
      | none => return (← withParts (r.parts.pushValue? value), 1)
    else
      match next.bind halfDay? with
      | some half =>
          if value.splitPoint.1 < 24 then
            return ({ r with hour := some (inHalf value.splitPoint.1 half) }, 1)
          else if r.parts.couldBeDay value then
            return (← withParts (r.parts.pushValue? value), 0)
          else .error .noDate
      | none =>
          if r.parts.couldBeDay value then return (← withParts (r.parts.pushValue? value), 0)
          else .error .noDate

/-- A year with its century: one of two digits lies within fifty years of this year. -/
def fullYear (thisYear year : Nat) : Nat :=
  if 100 ≤ year then year
  else
    let candidate := year + thisYear / 100 * 100
    if thisYear + 50 ≤ candidate then candidate - 100
    else if candidate + 50 < thisYear then candidate + 100
    else candidate

/-- Reads the month name at position `i` with the day or year that is written next to it. -/
def Reading.addMonth (thisYear : Nat) (r : Reading) (tokens : Array String) (i month : Nat) :
    Except Stop (Reading × Nat) := do
  let next := tokens[i + 1]?
  let parts ← orStop (r.parts.push? month (some .month))
  if next == some "-" || next == some "/" then
    let second ← orStop tokens[i + 2]?
    let parts ← orStop (parts.pushText? second.toList none)
    if tokens[i + 3]? == next then
      let third ← orStop tokens[i + 4]?
      return ({ r with parts := ← orStop (parts.pushText? third.toList none) }, 4)
    else return ({ r with parts := parts }, 2)
  else if next == some " " && tokens[i + 3]? == some " " &&
      (tokens[i + 2]?).any (Text.lower · == "of") then
    match tokens[i + 4]? with
    | none => return ({ r with parts := parts }, 0)
    | some year =>
        if !year.isEmpty && year.toList.all Text.isDigitLike then
          let year ← number year.toList
          let spelled := Nat.toDigits 10 (fullYear thisYear year)
          return ({ r with parts := ← orStop (parts.pushText? spelled (some .year)) }, 4)
        else return ({ r with parts := parts }, 4)
  else return ({ r with parts := parts }, 0)

/-- Reads the distance from universal time whose sign stands at position `i`. -/
def Reading.addOffset (r : Reading) (tokens : Array String) (i : Nat) (ahead : Bool) :
    Except Stop (Reading × Nat) := do
  let token ← orStop tokens[i + 1]?
  let s := token.toList
  let (seconds, taken) ←
    if s.length == 4 then pure ((← pair s 0) * 3600 + (← pair s 2) * 60, 0)
    else if tokens[i + 2]? == some ":" then
      let minutes ← orStop tokens[i + 3]?
      pure ((← number s) * 3600 + (← number minutes.toList) * 60, 2)
    else if s.length ≤ 2 then pure ((← number s) * 3600, 0)
    else .error .noDate
  let r := { r with zoneOffset := some (Double.signed (ahead == r.signReversed) seconds),
                    signReversed := false }
  let j := i + taken
  match tokens[j + 2]?, tokens[j + 3]?, tokens[j + 4]?, tokens[j + 5]? with
  | some filler, some "(", some name, some ")" =>
      if isFiller filler && 3 ≤ name.length && r.admitsZone none name then
        return ({ r with zone := some name }, taken + 5)
      else return (r, taken + 1)
  | _, _, _, _ => return (r, taken + 1)

/-- Reads the token at position `i` and says how many more tokens it took. -/
def Reading.add (thisYear : Nat) (r : Reading) (tokens : Array String) (i : Nat)
    (token : String) : Except Stop (Reading × Nat) :=
  if namesNoNumber token then .error .noDate
  else match value? token with
  | some value => r.addNumber tokens i token value
  | none =>
  match weekday? token with
  | some weekday => .ok ({ r with weekday := some weekday }, 0)
  | none =>
  match month? token with
  | some month => r.addMonth thisYear tokens i month
  | none =>
  match halfDay? token with
  | some half =>
      match r.hour with
      | some hour =>
          if hour ≤ 12 then .ok ({ r with hour := some (inHalf hour half) }, 0)
          else .error .noDate
      | none => .error .noDate
  | none =>
  if r.admitsZone r.zoneOffset token then
    let signed := tokens[i + 1]? == some "+" || tokens[i + 1]? == some "-"
    let offset := if token == "z" && !signed then some 0 else none
    let zone := if signed && namesUniversalTime token then none else some token
    .ok ({ r with zone, zoneOffset := offset, signReversed := signed }, 0)
  else if r.hour.isSome && (token == "+" || token == "-") then
    r.addOffset tokens i (token == "+")
  else if isFiller token then .ok (r, 0)
  else .error .noDate

/-- Reads the tokens from position `i` on. -/
def Reading.addAll (thisYear : Nat) (r : Reading) (tokens : Array String) (i : Nat) :
    Except Stop Reading :=
  if h : i < tokens.size then
    match r.add thisYear tokens i tokens[i] with
    | .ok (r, taken) => r.addAll thisYear tokens (i + taken + 1)
    | .error stop => .error stop
  else .ok r
termination_by tokens.size - i

/-- Whether nothing at all has been read. -/
def Reading.isEmpty (r : Reading) : Bool :=
  r.parts.numbers.isEmpty && r.weekday.isNone && r.hour.isNone && r.minute.isNone
    && r.second.isNone && r.microsecond.isNone && r.zone.isNone && r.zoneOffset.isNone

/-- Whether the distance from universal time is one that a moment may have. A zone that names
universal time has none. -/
def Reading.hasZone (r : Reading) : Bool :=
  r.zone.any namesUniversalTime || ((r.zoneOffset.getD 0).fdiv 86400).natAbs ≤ 999999999

/-- The date that has been read, if it and its time are on the calendar and the clock. -/
def Reading.date? (thisYear : Nat) (r : Reading) : Option Date := do
  guard (!r.isEmpty)
  let parts ← r.parts.resolve?
  let year :=
    (parts.year.map fun y => if r.parts.fullYear then y else fullYear thisYear y).getD 2000
  let date ← Date.of? year (parts.month.getD 1) (parts.day.getD 1)
  guard (r.hour.all (· < 24) && r.minute.all (· < 60) && r.second.all (· < 60))
  guard r.hasZone
  match r.weekday, parts.day with
  | some weekday, none =>
      let ahead := (weekday + 7 - date.weekday) % 7
      Date.of? date.year date.month (date.day + ahead)
  | _, _ => some date

end FreeForm

/-- The date in a text, read in free form when the clock shows this year. -/
def Date.ofText (thisYear : Nat) (text : String) : Except Decimal.Refusal (Option Date) :=
  if (Text.trim text).isEmpty then .ok none
  else
    match FreeForm.Reading.addAll thisYear {} (FreeForm.tokens text).toArray 0 with
    | .ok r => .ok (r.date? thisYear)
    | .error .noDate => .ok none
    | .error .tooManyDigits => .error .divisionImpossible

end Gridbook
