import Gridbook.Calendar.Date
import Gridbook.Fault
import Gridbook.Text.Case

/-! # Cells

The values of a table. Integers and doubles are different values, and a formula that fails gives
a value too: an error with a code.
-/

namespace Gridbook

/-- The value of one cell. -/
inductive Cell where
  /-- Nothing at all; an empty text is a value of its own. -/
  | null
  | bool (b : Bool)
  | text (s : String)
  | int (n : Int)
  | float (x : Double)
  | date (d : Date)
  | moment (m : Moment)
  /-- The outcome of a formula that has none; codes are in upper case. -/
  | error (code : String)
  deriving DecidableEq, Inhabited

namespace Cell

def errorOf (code : String) : Cell := .error (Text.upper code)

def failure : Cell := .error "ERROR"

def isError : Cell → Bool
  | .error _ => true
  | _ => false

/-- Whether a cell counts as empty: nothing, an empty text, or an error without a code. -/
def isEmpty : Cell → Bool
  | .null => true
  | .text s => s = ""
  | .error code => code = ""
  | _ => false

/-- An integer's text. Integers of more than `Json.maxIntegerDigits` digits are not written out. -/
def intText? (n : Int) : Option String :=
  if digitCount n.natAbs ≤ Json.maxIntegerDigits then some (intDigits n) else none

/-- A cell's plain text; only an integer that is too long has none. -/
def text? : Cell → Option String
  | .null => some "None"
  | .bool b => some (if b then "True" else "False")
  | .text s => some s
  | .int n => intText? n
  | .float x => some x.text
  | .date d => some d.text
  | .moment m => some m.text
  | .error code => some code

def plain (c : Cell) : Except Fault String :=
  match c.text? with
  | some s => .ok s
  | none => .error .integerTooLong

/-- The integer that a cell is; the two truth values are 0 and 1. -/
def integer? : Cell → Option Int
  | .bool b => some (if b then 1 else 0)
  | .int n => some n
  | _ => none

def double? : Cell → Option Double
  | .float x => some x
  | _ => none

/-- Whether a cell equals the error with a code: it is that error, or a text that gives the code in
any case. -/
def equalsError (code : String) : Cell → Bool
  | .error other => code == other
  | .text s => code == Text.upper s
  | _ => false

/-- Whether two cells match as keys. Numbers match by value whatever their kind, an error matches
a text that is its code, and a date never matches a moment. -/
def matchesKey (a b : Cell) : Bool :=
  match a, b with
  | .null, .null => true
  | .text s, .text t => s == t
  | .date d, .date e => d == e
  | .moment m, .moment n => m.same n
  | .error code, .error other => code == other
  | .error code, .text s => code == s
  | .text s, .error code => s == code
  | a, b =>
      match a.integer?, b.integer?, a.double?, b.double? with
      | some m, some n, _, _ => m == n
      | some m, _, _, some y => y.toInt? == some m
      | _, some n, some x, _ => x.toInt? == some n
      | _, _, some x, some y => x.compare? y == some .eq
      | _, _, _, _ => false

end Cell

end Gridbook
