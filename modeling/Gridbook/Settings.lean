import Gridbook.Assoc
import Gridbook.Column.Type
import Gridbook.Fault
import Gridbook.Json.Writer

/-! # Table settings

What is kept about a table besides its source: the types and formats of its columns, its
calculated fields and the widths at which its columns are shown.
-/

namespace Gridbook

structure StoredColumn where
  name : String
  type : ColumnType
  format : Option String
  deriving Repr, DecidableEq

/-- A calculated field: its name and its formula. -/
structure StoredField where
  name : String
  formula : String
  name_ne : name ≠ ""
  formula_ne : formula ≠ ""
  deriving DecidableEq

/-- Everything that is kept about a table. -/
structure Settings where
  version : Int
  /-- Widths by column index; no index stands twice. -/
  widths : List (Int × Int)
  columns : List StoredColumn
  fields : List StoredField
  deriving DecidableEq

namespace Settings

/-- The version of the records that are written. -/
def currentVersion : Int := 2

def empty : Settings := ⟨currentVersion, [], [], []⟩

def width (settings : Settings) (index default : Int) : Int :=
  (settings.widths.lookup index).getD default

/-- What is stored for a column; of two entries with one name the first counts. -/
def column? (settings : Settings) (name : String) : Option StoredColumn :=
  settings.columns.find? fun c => c.name == name

end Settings

def StoredColumn.toJson (c : StoredColumn) : Json :=
  .obj [("name", .str c.name), ("data_type", .str c.type.name),
    ("format", match c.format with | some tag => .str tag | none => .null)]

def StoredField.toJson (f : StoredField) : Json :=
  .obj [("name", .str f.name), ("formula", .str f.formula)]

namespace Settings

def toJson (settings : Settings) : Json :=
  .obj [("schema_version", .int settings.version),
    ("column_widths", .obj (settings.widths.map fun (i, w) => (intDigits i, .int w))),
    ("column_metadata", .arr (settings.columns.map StoredColumn.toJson)),
    ("calculated_fields", .arr (settings.fields.map StoredField.toJson))]

def integers (settings : Settings) : List Int :=
  settings.version :: settings.widths.flatMap fun (i, w) => [i, w]

/-- Settings as a document; an integer that is too long cannot be written. -/
def text (layout : Json.Layout) (settings : Settings) : Except Fault String :=
  if settings.integers.all fun n => digitCount n.natAbs ≤ Json.maxIntegerDigits then
    .ok (settings.toJson.render layout)
  else .error .integerTooLong

end Settings

end Gridbook
