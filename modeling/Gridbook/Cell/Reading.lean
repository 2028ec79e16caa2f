import Gridbook.Cell
import Gridbook.Text.Blank

/-! # Cells as numbers, texts and conditions

How inference, display and formulas look at a cell. All of them read numbers in texts the same
way: blanks, commas and currency signs are passed over.
-/

namespace Gridbook

def currencySigns : List Char := ['$', '€', '£', '¥']

/-- Whether a text holds a currency sign. -/
def hasCurrencySign (s : String) : Bool :=
  s.toList.any currencySigns.contains

def isNumberNoise (c : Char) : Bool :=
  currencySigns.contains c || c == ',' || Text.isBlank c

def readNumber? (s : String) : Option Double :=
  match Numeral.read? true (s.toList.filter fun c => !isNumberNoise c) with
  | some x => if x.toDouble.isFinite then some x.toDouble else none
  | none => none

namespace Cell

/-- A finite double, if it is one. -/
def finite? (x : Double) : Option Double :=
  if x.isFinite then some x else none

def intNumber (n : Int) : Except Fault Double :=
  match Double.ofInt? n with
  | some x => .ok x
  | none => .error .integerBeyondDouble

/-- The number that a cell stands for, if any: nothing and empty texts stand for none. -/
def number? : Cell → Except Fault (Option Double)
  | .bool b => .ok (some (if b then Double.one else Double.zero))
  | .int n => do return some (← intNumber n)
  | .float x => .ok (finite? x)
  | .text s => .ok (readNumber? s)
  | _ => .ok none

/-- A cell as text for formulas: nothing is empty, and a double that is an integer is written
as one. -/
def formulaText : Cell → Except Fault String
  | .null => .ok ""
  | .bool b => .ok (if b then "true" else "false")
  | .float x =>
      match x.toInt? with
      | some n => (Cell.int n).plain
      | none => (Cell.float x).plain
  | c => c.plain

def holds : Cell → Bool
  | .null => false
  | .bool b => b
  | .int n => n != 0
  | .float x => !x.isZero
  | .text s => !(["", "false", "0", "no"].contains (Text.lower (Text.trim s)))
  | _ => true

/-- A double that is an integer as that integer; every other cell as it is. -/
def normalized : Cell → Cell
  | .float x =>
      match x.toInt? with
      | some n => .int n
      | none => .float x
  | c => c

end Cell

end Gridbook
