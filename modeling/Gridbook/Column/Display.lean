import Gridbook.Column.Inference
import Gridbook.Number.Places

/-! # Displaying cells

A cell is shown by the type and format tag of its column. A cell that cannot be read as that type
is shown as its plain text, so every cell is shown.
-/

namespace Gridbook

namespace Cell

/-- The finite number at the start of a text, blanks aside. -/
def leadingNumber? (s : String) : Option Double :=
  (Numeral.leading? false (Text.trimChars s.toList)).bind fun (x, _) => finite? x.toDouble

def displayNumber? (c : Cell) : Option Double :=
  match c with
  | .bool b => some (if b then Double.one else Double.zero)
  | .int n => Double.ofInt? n
  | .float x => finite? x
  | c => c.text?.bind fun s => readNumber? s <|> leadingNumber? s

/-- The amount that the display of a cell starts from. In a text everything but digits, points
and minus signs is passed over. -/
def displayAmount? (c : Cell) : Option Double :=
  match c with
  | .text s =>
      let kept := s.toList.filter fun ch => ch.isDigit || ch == '.' || ch == '-'
      leadingNumber? (String.ofList kept)
  | c => c.displayNumber?

/-- The integer nearest to a double; halves go up. -/
def nearestInteger (x : Double) : Int :=
  ((x + Double.half).floor?).getD 0

/-- A number in groups with up to three digits behind the point. -/
def showTrimmed (x : Double) : List Char :=
  let s := dropFractionZeros (showPlaces true 3 x)
  if s = ['-', '0'] then ['0'] else s

def showNumber (tag : Option String) (x : Double) : List Char :=
  match tag with
  | some "0" => showInteger false (nearestInteger x)
  | some "0.0" => showPlaces false 1 x
  | some "0.00" => showPlaces false 2 x
  | some "0,0" => showInteger true (nearestInteger x)
  | some "0,0.00" => showPlaces true 2 x
  | _ => showTrimmed x

def showAmount (tag : Option String) (x : Double) : List Char :=
  '$' :: match tag with
    | some "$0,0" => showInteger true (nearestInteger x)
    | some "$0.00" => showPlaces false 2 x
    | _ => showPlaces true 2 x

/-- The date that a cell is displayed as. Five digits are a serial number; other texts are read
in free form, and count from the year 1901 on. -/
def displayDate? (thisYear : Nat) (c : Cell) : Option Date :=
  match c with
  | .moment m => some m.date
  | .date d => some d
  | c => do
      let s := Text.trim (← c.text?)
      match Numeral.digitRun false s.toList with
      | (digits, []) =>
          if digits.length = 5 then Date.ofSerial? (Numeral.ofDigits digits) else ofFreeForm s
      | _ => ofFreeForm s
where
  /-- A text as a date of the twentieth century or later. -/
  ofFreeForm (s : String) : Option Date :=
    match Date.ofText thisYear s with
    | .ok (some d) => if 1900 < d.year then some d else none
    | _ => none

def monthNames : List String :=
  ["Jan", "Feb", "Mar", "Apr", "May", "Jun", "Jul", "Aug", "Sep", "Oct", "Nov", "Dec"]

def showDate (tag : Option String) (d : Date) : String :=
  let year := toString d.year
  let month := String.ofList (Double.padDigits 2 d.month)
  let day := String.ofList (Double.padDigits 2 d.day)
  let name := (monthNames[d.month - 1]?).getD ""
  match tag with
  | some "DD/MM/YYYY" => day ++ "/" ++ month ++ "/" ++ year
  | some "YYYY-MM-DD" => year ++ "-" ++ month ++ "-" ++ day
  | some "MMM DD, YYYY" => name ++ " " ++ day ++ ", " ++ year
  | some "DD MMM YYYY" => day ++ " " ++ name ++ " " ++ year
  | _ => month ++ "/" ++ day ++ "/" ++ year

def showTruth? (c : Cell) : Option String := do
  let s := Text.lower (Text.trim (← c.text?))
  if ["true", "1", "yes"].contains s then some "Yes"
  else if ["false", "0", "no"].contains s then some "No"
  else none

/-- A cell by the type and tag of its column, if it reads as that type. -/
def shownAs? (thisYear : Nat) (type : ColumnType) (tag : Option String) (c : Cell) :
    Option String :=
  match type with
  | .text => none
  | .number => c.displayNumber?.map fun x => String.ofList (showNumber tag x)
  | .currency => c.displayAmount?.map fun x => String.ofList (showAmount tag x)
  | .date => (c.displayDate? thisYear).map (showDate tag)
  | .boolean => c.showTruth?

/-- A cell as it is displayed. Without a type it is shown as its plain text. -/
def display (thisYear : Nat) (type : Option ColumnType) (tag : Option String) (c : Cell) :
    String :=
  if c.isEmpty then ""
  else
    let tag := tag.filter (· != defaultFormat)
    ((type.bind fun t => c.shownAs? thisYear t tag) <|> c.text?).getD ""

end Cell

end Gridbook
