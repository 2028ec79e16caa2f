import Gridbook.Merge.Join
import Gridbook.Table

/-! # Merges

A merge chains joins: the first reads two tables, and each later one joins one more table onto
the result so far.
-/

namespace Gridbook

/-- A chain of joins. -/
structure Merge where
  /-- The table on the left of the first join. -/
  leftTable : String
  first : Join
  later : List Join
  deriving Repr, DecidableEq

namespace Merge

/-- The name that stands for the result so far in column names. -/
def runningName : String := "merged"

/-- A merge of one join or more, the first of which names its left table. -/
def of : List Join → Except Fault Merge
  | [] => .error .emptyMerge
  | first :: later =>
      match first.leftTable with
      | none | some "" => .error .unnamedLeftTable
      | some table => .ok ⟨table, first, later⟩

def joins (merge : Merge) : List Join :=
  merge.first :: merge.later

/-- Every table that a merge reads, in the order of first use. -/
def sourceIds (merge : Merge) : List String :=
  (merge.leftTable :: merge.joins.map (·.rightTable)).eraseDups

/-- A name, or another one where it is not given or empty. -/
def nameOr (name : Option String) (other : String) : String :=
  match name with
  | none | some "" => other
  | some given => given

def source (sources : List (String × Source)) (id : String) : Except Fault Source :=
  match sources.lookup id with
  | some source => .ok source
  | none => .error (.unknownTable id)

/-- Joins one more table onto what there is. -/
def step (sources : List (String × Source)) (left : JoinSide) (join : Join) :
    Except Fault JoinSide := do
  let right ← source sources join.rightTable
  let (columns, rows) ← join.run left
    ⟨nameOr join.rightName join.rightTable, right.columns, right.rows⟩
  return ⟨runningName, columns, rows⟩

/-- The source that a merge gives: nothing in a cell becomes an empty text. -/
def joined (merge : Merge) (sources : List (String × Source)) : Except Fault Source := do
  let _ ← merge.sourceIds.mapM (source sources)
  let left ← source sources merge.leftTable
  let start : JoinSide := ⟨nameOr merge.first.leftName merge.leftTable, left.columns, left.rows⟩
  let result ← merge.joins.foldlM (step sources) start
  Source.of runningName result.columns
    (result.rows.map fun row => row.map fun c => if c = .null then .text "" else c)

/-- Runs a merge and infers the column types of the result. -/
def run (merge : Merge) (inference : Inference) (sources : List (String × Source)) :
    Except Fault Table := do
  Table.ofSource inference (← merge.joined sources)

end Merge

end Gridbook
