import Gridbook.Settings.Check
import Gridbook.Text.Case

/-! # Older settings records

Records of the first version, which need not carry a version number, spell their members in camel
case and list calculated columns among the others. They are brought to the current version before
they are checked.
-/

namespace Gridbook.Settings

/-- The items of a list of entries. Nothing, or nothing in it, is a list without items; an object
and a text are gone through by their names and characters. -/
def entries (list : Option Json) : Except Fault (List Json) :=
  match list with
  | none => .ok []
  | some value =>
      if !value.isGiven then .ok []
      else match value with
        | .arr items => .ok items
        | .obj members => .ok (members.map fun (name, _) => .str name)
        | .str s => .ok (s.toList.map fun c => .str (String.singleton c))
        | value => .error (.notAList value.kindName)

def membersOf : Json → Except Fault (List (String × Json))
  | .obj members => .ok members
  | value => .error (.notAnObject value.kindName)

/-- A member, if it is given. -/
def given? (members : List (String × Json)) (name : String) : Option Json :=
  (members.lookup name).filter Json.isGiven

def needed (members : List (String × Json)) (name : String) : Except Fault Json :=
  match members.lookup name with
  | some value => .ok value
  | none => .error (.missingMember name)

/-- An entry of the columns in current form; calculated columns give none. -/
def currentColumn (entry : Json) : Except Fault (Option Json) := do
  let members ← membersOf entry
  if (given? members "isCalculated").isSome then return none
  else
    let name ← needed members "name"
    let type := ((given? members "dataType").getD (.str "text")).plainText
    return some (.obj [("name", name), ("data_type", .str (Text.lower type)),
      ("format", (members.lookup "format").getD .null)])

/-- An entry of the calculated fields in current form; a field without a formula gives none. -/
def currentField (entry : Json) : Except Fault (Option Json) := do
  let members ← membersOf entry
  match given? members "formula" with
  | none => return none
  | some formula => return some (.obj [("name", ← needed members "name"), ("formula", formula)])

/-- A record of the first version in current form. -/
def fromFirst (members : List (String × Json)) : Except Fault Json := do
  let columns ← (← entries (members.lookup "columnMetadata")).mapM currentColumn
  let fields ← (← entries (members.lookup "calculatedFields")).mapM currentField
  return .obj [("schema_version", .int currentVersion),
    ("column_widths", (given? members "columnWidths").getD (.obj [])),
    ("column_metadata", .arr (columns.filterMap id)),
    ("calculated_fields", .arr (fields.filterMap id))]

/-- The version of a record: a positive integer, or true for the first. -/
def recordVersion (members : List (String × Json)) : Except Fault Int :=
  let value := (members.lookup "schema_version").getD (.int 1)
  let version := match value with
    | .int n => n
    | .bool b => if b then 1 else 0
    | _ => 0
  if version < 1 then .error (.invalidVersion value.shown) else .ok version

def migrate (record : Json) : Except Fault Json := do
  let members ← membersOf record
  let version ← recordVersion members
  if currentVersion < version then throw (.newerVersion version)
  else if version < currentVersion then fromFirst members
  else return record

def ofRecord (record : Json) : Except Fault Settings := do
  ofJson (← migrate record)

end Gridbook.Settings
