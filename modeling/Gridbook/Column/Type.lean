/-! # Column types

What the values of a column stand for, and the display formats that each type offers.
-/

namespace Gridbook

/-- What the values of a column stand for. -/
inductive ColumnType where
  | text
  | number
  | date
  | boolean
  | currency
  deriving Repr, DecidableEq

namespace ColumnType

def name : ColumnType → String
  | .text => "text"
  | .number => "number"
  | .date => "date"
  | .boolean => "boolean"
  | .currency => "currency"

def all : List ColumnType := [.text, .number, .date, .boolean, .currency]

def ofName? (name : String) : Option ColumnType :=
  all.find? fun t => t.name = name

theorem ofName?_name (t : ColumnType) : ofName? t.name = some t := by
  cases t <;> decide

end ColumnType

/-- The format tag that stands for a type's usual display. -/
def defaultFormat : String := "default"

/-- The format tags that a type offers; a type without any takes every tag. -/
def ColumnType.formats : ColumnType → List String
  | .text => []
  | .number => [defaultFormat, "0", "0.0", "0.00", "0,0", "0,0.00"]
  | .currency => [defaultFormat, "$0,0", "$0,0.00", "$0.00"]
  | .date => [defaultFormat, "DD/MM/YYYY", "YYYY-MM-DD", "MMM DD, YYYY", "DD MMM YYYY"]
  | .boolean => []

end Gridbook
