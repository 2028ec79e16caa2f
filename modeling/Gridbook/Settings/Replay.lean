import Gridbook.Settings.Store
import Gridbook.Table.Edit

/-! # Tables and their settings

Settings are taken from a table and applied to one that was made anew from its source.
-/

namespace Gridbook

/-- The calculated field behind a column, if it is calculated. A field without a name cannot be
stored. -/
def ColumnInfo.field? (info : ColumnInfo) : Option (Except Fault StoredField) :=
  match h : info.formula with
  | none => none
  | some formula => some <|
      if hn : info.name ≠ "" then
        .ok ⟨info.name, formula, hn, fun he => info.formula_ne (by rw [h, he])⟩
      else .error (.invalidSettings [⟨["name"], .stringTooShort⟩])

/-- A column as it is stored, if it is not calculated. -/
def ColumnInfo.stored? (info : ColumnInfo) : Option StoredColumn :=
  if info.isCalculated then none else some ⟨info.name, info.type, info.format⟩

def ColumnInfo.restored (settings : Settings) (info : ColumnInfo) : ColumnInfo :=
  if info.isCalculated then info
  else match settings.column? info.name with
    | some stored => { info with type := stored.type, format := stored.format }
    | none => info

namespace Table

/-- The settings of a table, without widths. -/
def settings (table : Table) : Except Fault Settings := do
  let fields ← (table.info.filterMap ColumnInfo.field?).mapM id
  return { Settings.empty with columns := table.info.filterMap ColumnInfo.stored?, fields }

def snapshot (table : Table) (widths : Json) : Except Fault Settings := do
  (← table.settings).withWidths widths

/-- Adds a stored calculated field, unless its name is taken. -/
def restoreField (registry : Registry) (table : Table) (field : StoredField) : Report Table :=
  if table.columns.contains field.name then do
    Report.note (.takenName field.name)
    return table
  else Report.ofExcept (table.materialize registry field.name field.formula)

/-- Applies stored types and formats, then adds the stored calculated fields in order. -/
def replay (registry : Registry) (settings : Settings) (table : Table) : Report Table := do
  let present := (table.info.filterMap ColumnInfo.stored?).map StoredColumn.name
  match (settings.columns.map StoredColumn.name).filter fun name => !present.contains name with
  | [] => pure ()
  | absent => Report.note (.absentColumns absent)
  settings.fields.foldlM (restoreField registry) (table.mapInfo (ColumnInfo.restored settings))

/-- Saves the settings of a table. Stored widths are kept unless others are given. -/
def save (table : Table) (id : String) (widths : Option Json) (store : Store) :
    Report (Store × Settings) :=
  store.update id fun current =>
    match widths with
    | some document => table.snapshot document
    | none => do
        let kept := current.elim [] Settings.widths
        return { ← table.settings with widths := kept }

end Table

/-- The view of a source: column types are inferred, then its stored settings are applied. -/
def Source.view (inference : Inference) (registry : Registry) (store : Store) (source : Source) :
    Report Table := do
  let table ← Table.ofSource inference source
  match ← store.load source.id with
  | none => return table
  | some settings => table.replay registry settings

end Gridbook
