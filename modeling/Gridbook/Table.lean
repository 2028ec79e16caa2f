import Gridbook.Column.Inference

/-! # Tables

A source is a table as it is delivered: columns and rows. A table is the typed view of one, with
what is known about each of its columns, and it may have calculated columns. In both, every row is
as wide as the columns.
-/

namespace Gridbook

/-- The first row that is not of a width, by its index and width. -/
def raggedRow? (width : Nat) (rows : List (List Cell)) : Option (Nat × Nat) :=
  (rows.zipIdx.find? fun (row, _) => row.length != width).map fun (row, i) => (i, row.length)

/-- Stops at the first row that is not as wide as the columns. -/
def raggedFault (columns : List String) (rows : List (List Cell)) : Fault :=
  match raggedRow? columns.length rows with
  | some (i, width) => .raggedRow i width columns
  | none => .raggedRow 0 0 columns

/-- Whether every row is as wide as the columns. -/
def Rectangular (columns : List String) (rows : List (List Cell)) : Prop :=
  ∀ row ∈ rows, row.length = columns.length

instance (columns : List String) (rows : List (List Cell)) :
    Decidable (Rectangular columns rows) := by
  unfold Rectangular; infer_instance

/-- A table as it is delivered. -/
structure Source where
  id : String
  columns : List String
  rows : List (List Cell)
  rectangular : Rectangular columns rows
  deriving DecidableEq

namespace Source

/-- The source with these columns and rows, if they fit. -/
def of (id : String) (columns : List String) (rows : List (List Cell)) : Except Fault Source :=
  if h : Rectangular columns rows then .ok ⟨id, columns, rows, h⟩
  else .error (raggedFault columns rows)

def column (source : Source) (i : Nat) : List Cell :=
  source.rows.map fun row => row.getD i .null

end Source

/-- What is known about a column. A calculated column has a formula, and no other has one. -/
structure ColumnInfo where
  name : String
  type : ColumnType
  format : Option String
  formula : Option String
  /-- A formula is never empty. -/
  formula_ne : formula ≠ some ""
  deriving DecidableEq

namespace ColumnInfo

def isCalculated (info : ColumnInfo) : Bool :=
  info.formula.isSome

def plain (name : String) (type : ColumnType) (format : Option String) : ColumnInfo :=
  ⟨name, type, format, none, by simp⟩

/-- A calculated column; it holds numbers. -/
def calculated (name formula : String) (h : formula ≠ "") : ColumnInfo :=
  ⟨name, .number, none, some formula, by simpa using h⟩

/-- A column that is said to be calculated or not, if that agrees with its formula. -/
def of (name : String) (type : ColumnType) (format : Option String) (calculated : Bool)
    (formula : Option String) : Except Fault ColumnInfo :=
  if h : formula = some "" then
    .error (if calculated then .calculatedWithoutFormula name else .sourceWithFormula name)
  else if calculated && formula.isNone then .error (.calculatedWithoutFormula name)
  else if !calculated && formula.isSome then .error (.sourceWithFormula name)
  else .ok ⟨name, type, format, formula, h⟩

end ColumnInfo

/-- The typed view of a table. -/
structure Table where
  columns : List String
  rows : List (List Cell)
  info : List ColumnInfo
  aligned : info.length = columns.length
  rectangular : Rectangular columns rows
  deriving DecidableEq

namespace Table

/-- The table with these columns, rows and column information, if they fit. -/
def of (columns : List String) (rows : List (List Cell)) (info : List ColumnInfo) :
    Except Fault Table :=
  if ha : info.length = columns.length then
    if hr : Rectangular columns rows then .ok ⟨columns, rows, info, ha, hr⟩
    else .error (raggedFault columns rows)
  else .error (.metadataCount info.length columns.length)

/-- What is inferred about each of some columns, the first of which has index `i`. -/
def inferInfo (inference : Inference) (source : Source) (i : Nat) :
    List String → Except Fault (List ColumnInfo)
  | [] => .ok []
  | name :: rest => do
      let type ← ColumnType.infer inference (source.column i)
      return ColumnInfo.plain name type none :: (← inferInfo inference source (i + 1) rest)

theorem length_inferInfo {inference : Inference} {source : Source} {i : Nat} {names : List String}
    {info : List ColumnInfo} (h : inferInfo inference source i names = .ok info) :
    info.length = names.length := by
  induction names generalizing i info with
  | nil => simp [inferInfo] at h; subst h; rfl
  | cons name rest ih =>
      cases ht : ColumnType.infer inference (source.column i) with
      | error e => simp [inferInfo, ht, bind, Except.bind] at h
      | ok type =>
          cases hr : inferInfo inference source (i + 1) rest with
          | error e => simp [inferInfo, ht, hr, bind, Except.bind] at h
          | ok later =>
              simp [inferInfo, ht, hr, bind, Except.bind, pure, Except.pure] at h
              subst h
              simp [ih hr]

def ofSource (inference : Inference) (source : Source) : Except Fault Table :=
  match h : inferInfo inference source 0 source.columns with
  | .ok info => .ok ⟨source.columns, source.rows, info, length_inferInfo h, source.rectangular⟩
  | .error fault => .error fault

def index? (table : Table) (name : String) : Option Nat :=
  table.columns.idxOf? name

/-- The position that an index stands for in a list of some length. A negative index counts from
the end. -/
def position? (length : Nat) (index : Int) : Option Nat :=
  let i := if index < 0 then index + length else index
  if 0 ≤ i ∧ i < length then some i.toNat else none

/-- The cells of a column. Without rows there is no index that is out of range. -/
def columnCells (table : Table) (index : Int) : Except Fault (List Cell) :=
  table.rows.mapM fun row =>
    match (position? row.length index).bind (row[·]?) with
    | some cell => .ok cell
    | none => .error .indexOutOfRange

def infoAt (table : Table) (index : Int) : Except Fault ColumnInfo :=
  match (position? table.info.length index).bind (table.info[·]?) with
  | some info => .ok info
  | none => .error .indexOutOfRange

def calculatedColumns (table : Table) : List ColumnInfo :=
  table.info.filter ColumnInfo.isCalculated

/-- A table with every column's information changed. -/
def mapInfo (table : Table) (f : ColumnInfo → ColumnInfo) : Table :=
  { table with info := table.info.map f, aligned := by simpa using table.aligned }

def setInfo (table : Table) (i : Nat) (info : ColumnInfo) : Table :=
  { table with info := table.info.set i info, aligned := by simpa using table.aligned }

theorem rectangular_append {columns : List String} {rows : List (List Cell)}
    (h : Rectangular columns rows) (name : String) (cells : List Cell) :
    Rectangular (columns ++ [name]) (List.zipWith (fun row cell => row ++ [cell]) rows cells) := by
  induction rows generalizing cells with
  | nil => intro row hr; simp at hr
  | cons first rest ih =>
      cases cells with
      | nil => intro row hr; simp at hr
      | cons cell cells =>
          intro row hr
          rw [List.zipWith_cons_cons, List.mem_cons] at hr
          rcases hr with rfl | hr
          · simp [h first (by simp)]
          · exact ih (fun r m => h r (by simp [m])) cells row hr

def addColumn (table : Table) (info : ColumnInfo) (cells : List Cell) : Table where
  columns := table.columns ++ [info.name]
  rows := List.zipWith (fun row cell => row ++ [cell]) table.rows cells
  info := table.info ++ [info]
  aligned := by simp [table.aligned]
  rectangular := rectangular_append table.rectangular info.name cells

def dropColumn (table : Table) (i : Nat) : Table where
  columns := table.columns.eraseIdx i
  rows := table.rows.map fun row => row.eraseIdx i
  info := table.info.eraseIdx i
  aligned := by simp [List.length_eraseIdx, table.aligned]
  rectangular := by
    intro row hr
    obtain ⟨old, ho, rfl⟩ := List.mem_map.1 hr
    simp [List.length_eraseIdx, table.rectangular old ho]

end Table

end Gridbook
