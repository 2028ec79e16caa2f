import Gridbook.Column.Display
import Gridbook.Formula.Evaluation
import Gridbook.Table

/-! # Editing tables

Calculated columns are added at the end and can be removed again; the type and format of any
column can be changed.
-/

namespace Gridbook

def ColumnType.ofName (name : String) : Except Fault ColumnType :=
  match ColumnType.ofName? name with
  | some type => .ok type
  | none => .error (.unknownType name)

namespace Table

/-- Adds a calculated column. Each of its cells is the formula's value on the cells of its row, so
a formula that fails gives error cells. -/
def materialize (registry : Registry) (name formula : String) (table : Table) :
    Except Fault Table :=
  let name := Text.trim name
  let formula := Text.trim formula
  if name = "" then .error .incompleteField
  else if h : formula = "" then .error .incompleteField
  else if table.columns.contains name then .error (.columnExists name)
  else do
    let cells ← Formula.evaluateRows registry table.columns formula table.rows
    return table.addColumn (ColumnInfo.calculated name formula h) cells

def remove (index : Int) (table : Table) : Except Fault Table :=
  if 0 ≤ index ∧ index < table.columns.length then
    match table.info[index.toNat]? with
    | none => .error .indexOutOfRange
    | some info =>
        if info.isCalculated then .ok (table.dropColumn index.toNat)
        else .error (.notCalculated info.name)
  else .error (.noSuchColumn index)

/-- Changes what is known about the column at an index. -/
def updateInfo (index : Int) (f : ColumnInfo → Except Fault ColumnInfo) (table : Table) :
    Except Fault Table := do
  let info ← f (← table.infoAt index)
  return table.setInfo ((position? table.info.length index).getD 0) info

/-- Changes the type of a column, which gets its default format. -/
def setType (index : Int) (type : ColumnType) (table : Table) : Except Fault Table :=
  table.updateInfo index fun info => .ok { info with type, format := some defaultFormat }

def setFormat (index : Int) (tag : Option String) (table : Table) : Except Fault Table :=
  table.updateInfo index fun info =>
    match tag with
    | none => .ok { info with format := none }
    | some tag =>
        if info.type.formats.isEmpty || info.type.formats.contains tag then
          .ok { info with format := some tag }
        else .error (.formatNotOffered tag info.type)

def displayColumn (thisYear : Nat) (table : Table) (index : Int) :
    Except Fault (List String) := do
  let info ← table.infoAt index
  return (← table.columnCells index).map (Cell.display thisYear (some info.type) info.format)

end Table

end Gridbook
