import Gridbook.Calendar.FreeForm
import Gridbook.Cell.Reading

/-! # Inferring column types

The type of a column is guessed from its first values that are not empty: all numbers, and then
currency if one bears a currency sign; all truth values; all dates; otherwise text.
-/

namespace Gridbook

namespace Cell

/-- Whether a cell reads as a number. Truth values do not. -/
def looksNumeric : Cell → Except Fault Bool
  | .int n => do let _ ← intNumber n; return true
  | .float x => .ok x.isFinite
  | .text s => .ok (readNumber? s).isSome
  | _ => .ok false

def bearsCurrencySign : Cell → Bool
  | .text s => hasCurrencySign s
  | _ => false

/-- The texts that read as truth values. -/
def truthTokens : List String := ["true", "false", "1", "0", "yes", "no"]

/-- A cell's plain text without blanks around it and in lower case. -/
def token (c : Cell) : Except Fault String := do
  return Text.lower (Text.trim (← c.plain))

/-- Whether a cell reads as a truth value. -/
def looksBoolean (c : Cell) : Except Fault Bool := do
  return truthTokens.contains (← c.token)

def looksDate (thisYear : Nat) : Cell → Except Fault Bool
  | .date _ => .ok true
  | .moment _ => .ok true
  | .text s =>
      match Date.ofText thisYear s with
      | .ok d => .ok d.isSome
      | .error refusal => .error (.decimal refusal)
  | _ => .ok false

end Cell

/-- How many values of a column its type is inferred from, and in which year. -/
structure Inference where
  sampleSize : Int
  thisYear : Nat
  deriving Repr, DecidableEq

namespace ColumnType

/-- The first cells that are not empty, at least one of them. -/
def sample (size : Int) (cells : List Cell) : List Cell :=
  (cells.filter fun c => !c.isEmpty).take (max 1 size.toNat)

/-- The type of a column whose sample is given. -/
def ofSample (thisYear : Nat) (cells : List Cell) : Except Fault ColumnType := do
  if cells.isEmpty then return .text
  else if ← cells.allM Cell.looksNumeric then
    return if cells.any Cell.bearsCurrencySign then .currency else .number
  else if ← cells.allM Cell.looksBoolean then return .boolean
  else if ← cells.allM (Cell.looksDate thisYear) then return .date
  else return .text

def infer (inference : Inference) (cells : List Cell) : Except Fault ColumnType :=
  ofSample inference.thisYear (sample inference.sampleSize cells)

end ColumnType

end Gridbook
