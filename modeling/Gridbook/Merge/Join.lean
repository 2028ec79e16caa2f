import Gridbook.Cell
import Gridbook.Text.Case

/-! # Joins

A join puts the rows of two tables side by side where their key cells match. Left rows come in
order, each with its matches in order; rows without a match are kept or not as the kind of join
says.
-/

namespace Gridbook

/-- Which rows without a match a join keeps. -/
inductive JoinKind where
  | inner
  | left
  | right
  | full
  deriving Repr, DecidableEq

namespace JoinKind

/-- The join kind with a name, in any case. -/
def ofName (name : String) : Except Fault JoinKind :=
  match Text.upper name with
  | "INNER" => .ok inner
  | "LEFT" => .ok left
  | "RIGHT" => .ok right
  | "FULL" => .ok full
  | other => .error (.unknownJoin other)

/-- Whether left rows without a match are kept. -/
def keepsLeft : JoinKind → Bool
  | left | full => true
  | _ => false

/-- Whether right rows without a match are kept. -/
def keepsRight : JoinKind → Bool
  | right | full => true
  | _ => false

end JoinKind

/-- One step of a merge. -/
structure Join where
  /-- The table on the left; only the first join of a merge reads it. -/
  leftTable : Option String
  rightTable : String
  leftKey : String
  rightKey : String
  kind : JoinKind
  /-- The name that stands for the left table in column names, if not its own. -/
  leftName : Option String
  /-- The name that stands for the right table in column names, if not its own. -/
  rightName : Option String
  /-- The columns that are taken over from the left; all of them when it is not given. -/
  selectedLeft : Option (List String)
  /-- The columns that are taken over from the right; all of them when it is not given. -/
  selectedRight : Option (List String)
  deriving Repr, DecidableEq

structure JoinSide where
  name : String
  columns : List String
  rows : List (List Cell)

namespace JoinSide

def require (side : JoinSide) (names : List String) : Except Fault Unit :=
  match names.filter fun name => !side.columns.contains name with
  | [] => .ok ()
  | missing => .error (.missingColumns side.name missing)

def cellAt (row : List Cell) (position : Nat) : Except Fault Cell :=
  match row[position]? with
  | some cell => .ok cell
  | none => .error .indexOutOfRange

/-- The rows of a side, each with its key cell. -/
def keyed (side : JoinSide) (key : String) : Except Fault (List (Cell × List Cell)) :=
  side.rows.mapM fun row => do return (← cellAt row (side.columns.idxOf key), row)

/-- The cells of selected columns in a row; a missing row has nothing in them. -/
def select (side : JoinSide) (names : List String) : Option (List Cell) → Except Fault (List Cell)
  | none => .ok (names.map fun _ => .null)
  | some row => names.mapM fun name => cellAt row (side.columns.idxOf name)

end JoinSide

/-- The rows of a table by key: each key with the positions of its rows in order. -/
structure KeyIndex where
  entries : List (Cell × List Nat)
  deriving DecidableEq

namespace KeyIndex

/-- Entries with the position of one more row, which stands under the first key that matches its
own. -/
def insertAt (key : Cell) (position : Nat) : List (Cell × List Nat) → List (Cell × List Nat)
  | [] => [(key, [position])]
  | (known, positions) :: rest =>
      if known.matchesKey key then (known, positions ++ [position]) :: rest
      else (known, positions) :: insertAt key position rest

def ofKeys (keys : List Cell) : KeyIndex :=
  ⟨keys.zipIdx.foldl (fun entries (key, i) => insertAt key i entries) []⟩

def positions (index : KeyIndex) (key : Cell) : List Nat :=
  ((index.entries.find? fun entry => entry.1.matchesKey key).map fun entry => entry.2).getD []

end KeyIndex

namespace Join

/-- A column's name in the output: the table's name and an underscore are put in front as long as
the name is taken. Each such name is longer than those before, so none comes up twice. -/
def outputName (table : String) (taken : List String) (name : String) : String :=
  if name ∈ taken then outputName table (taken.erase name) (table ++ "_" ++ name) else name
termination_by taken.length
decreasing_by
  rename_i h
  have := List.length_pos_of_mem h
  rw [List.length_erase_of_mem h]
  omega

/-- The output names of one table's columns, behind names that are taken already. -/
def outputNames (table : String) (taken : List String) : List String → List String
  | [] => []
  | name :: rest =>
      let new := outputName table taken name
      new :: outputNames table (taken ++ [new]) rest

/-- The rows of both sides that stand beside each other. Right rows are found by their keys, and
those that no left row has found are alone. -/
def pairs (kind : JoinKind) (left right : List (Cell × List Cell)) :
    List (Option (List Cell) × Option (List Cell)) :=
  let index := KeyIndex.ofKeys (right.map fun r => r.1)
  let beside := left.flatMap fun l =>
    match index.positions l.1 with
    | [] => if kind.keepsLeft then [(some l.2, none)] else []
    | hits => hits.map fun i => (some l.2, right[i]?.map fun r => r.2)
  let found := left.flatMap fun l => index.positions l.1
  let alone := right.zipIdx.filter fun (_, i) => !found.contains i
  if kind.keepsRight then beside ++ alone.map fun (r, _) => (none, some r.2) else beside

/-- Joins two tables: the columns and rows of the result. -/
def run (join : Join) (left right : JoinSide) : Except Fault (List String × List (List Cell)) := do
  left.require [join.leftKey]
  right.require [join.rightKey]
  let fromLeft := join.selectedLeft.getD left.columns
  let fromRight := join.selectedRight.getD right.columns
  left.require fromLeft
  right.require fromRight
  let leftNames := outputNames left.name [] fromLeft
  let rightNames := outputNames right.name leftNames fromRight
  let keyedRight ← right.keyed join.rightKey
  let keyedLeft ← left.keyed join.leftKey
  let rows ← (pairs join.kind keyedLeft keyedRight).mapM fun (l, r) => do
    return (← left.select fromLeft l) ++ (← right.select fromRight r)
  return (leftNames ++ rightNames, rows)

end Join

end Gridbook
