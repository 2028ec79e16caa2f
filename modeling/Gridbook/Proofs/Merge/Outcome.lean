import Gridbook.Proofs.Merge.NestedLoop

/-! # What a join gives

A join comes to its end exactly if it finds every column and every cell that it looks for. Then its
columns are those that it takes over, under their output names, and its rows are the rows that stand
beside each other, cell by cell.
-/

namespace Gridbook

namespace JoinSide

variable {side : JoinSide} {row : List Cell} {key name : String} {names : List String}

/-- A row has a cell in each of some columns. -/
def Reaches (side : JoinSide) (row : List Cell) (names : List String) : Prop :=
  ∀ name ∈ names, side.columns.idxOf name < row.length

theorem Even.reaches (even : side.Even) (member : row ∈ side.rows)
    (known : ∀ name ∈ names, name ∈ side.columns) : side.Reaches row names := by
  intro name among
  rw [even row member]
  exact List.idxOf_lt_length_of_mem (known name among)

theorem length_cells (side : JoinSide) (names : List String) (row? : Option (List Cell)) :
    (side.cells names row?).length = names.length := by
  cases row? <;> simp [JoinSide.cells]

theorem require_eq_ok_iff {done : Unit} :
    side.require names = .ok done ↔ ∀ name ∈ names, name ∈ side.columns :=
  ⟨require_ok, require_known⟩

theorem cellAt_eq_ok_iff {cell : Cell} :
    cellAt row (side.columns.idxOf name) = .ok cell ↔
      side.columns.idxOf name < row.length ∧ cell = side.cell row name := by
  by_cases reach : side.columns.idxOf name < row.length
  · simp [cellAt_cell reach, reach, eq_comm]
  · simp [cellAt, reach]

theorem keyed_eq_ok_iff {entries : List (Cell × List Cell)} :
    side.keyed key = .ok entries ↔
      (∀ row ∈ side.rows, side.Reaches row [key]) ∧
        entries = side.rows.map fun row => (side.cell row key, row) := by
  apply mapM_ok_iff
  intro row _ entry
  simp only [bind_ok_iff, cellAt_eq_ok_iff, Reaches, List.forall_mem_singleton]
  constructor
  · rintro ⟨cell, ⟨reach, rfl⟩, made⟩
    cases made
    exact ⟨reach, rfl⟩
  · rintro ⟨reach, rfl⟩
    exact ⟨_, ⟨reach, rfl⟩, rfl⟩

theorem select_eq_ok_iff {row? : Option (List Cell)} {cells : List Cell} :
    side.select names row? = .ok cells ↔
      (∀ row, row? = some row → side.Reaches row names) ∧ cells = side.cells names row? := by
  cases row? with
  | none => simp [select, JoinSide.cells, eq_comm]
  | some row =>
      have selected : side.select names (some row) = .ok cells ↔
          side.Reaches row names ∧ cells = side.cells names (some row) :=
        mapM_ok_iff fun name _ cell => cellAt_eq_ok_iff
      simpa using selected

end JoinSide

namespace Join

def fromLeft (join : Join) (left : JoinSide) : List String :=
  join.selectedLeft.getD left.columns

def fromRight (join : Join) (right : JoinSide) : List String :=
  join.selectedRight.getD right.columns

/-- The rows of two sides that stand beside each other. -/
def paired (join : Join) (left right : JoinSide) : List (Option (List Cell) × Option (List Cell)) :=
  pairs join.kind (left.rows.map fun row => (left.cell row join.leftKey, row))
    (right.rows.map fun row => (right.cell row join.rightKey, row))

def labels (join : Join) (left right : JoinSide) : List String :=
  let first := outputNames left.name [] (join.fromLeft left)
  first ++ outputNames right.name first (join.fromRight right)

/-- The cells of two rows that stand beside each other. -/
def cells (join : Join) (left right : JoinSide)
    (pair : Option (List Cell) × Option (List Cell)) : List Cell :=
  left.cells (join.fromLeft left) pair.1 ++ right.cells (join.fromRight right) pair.2

/-- A join finds every column and every cell that it looks for. -/
structure Finds (join : Join) (left right : JoinSide) : Prop where
  leftColumns : ∀ name ∈ join.leftKey :: join.fromLeft left, name ∈ left.columns
  rightColumns : ∀ name ∈ join.rightKey :: join.fromRight right, name ∈ right.columns
  leftKeys : ∀ row ∈ left.rows, left.Reaches row [join.leftKey]
  rightKeys : ∀ row ∈ right.rows, right.Reaches row [join.rightKey]
  leftCells : ∀ pair ∈ join.paired left right, ∀ row, pair.1 = some row →
    left.Reaches row (join.fromLeft left)
  rightCells : ∀ pair ∈ join.paired left right, ∀ row, pair.2 = some row →
    right.Reaches row (join.fromRight right)

variable {join : Join} {left right : JoinSide}

/-- A join has a result exactly if it finds what it looks for, and there is one such result. -/
theorem run_eq_ok_iff {columns : List String} {rows : List (List Cell)} :
    join.run left right = .ok (columns, rows) ↔
      join.Finds left right ∧ columns = join.labels left right ∧
        rows = (join.paired left right).map (join.cells left right) := by
  have joined {pairs : List (Option (List Cell) × Option (List Cell))}
      {rows : List (List Cell)} :
      (pairs.mapM fun pair => do
        return (← left.select (join.fromLeft left) pair.1) ++
          (← right.select (join.fromRight right) pair.2)) = .ok rows ↔
        (∀ pair ∈ pairs, (∀ row, pair.1 = some row → left.Reaches row (join.fromLeft left)) ∧
          ∀ row, pair.2 = some row → right.Reaches row (join.fromRight right)) ∧
        rows = pairs.map (join.cells left right) := by
    apply mapM_ok_iff
    intro pair _ cells
    simp only [bind_ok_iff, JoinSide.select_eq_ok_iff]
    constructor
    · rintro ⟨_, ⟨inLeft, rfl⟩, _, ⟨inRight, rfl⟩, made⟩
      cases made
      exact ⟨⟨inLeft, inRight⟩, rfl⟩
    · rintro ⟨⟨inLeft, inRight⟩, rfl⟩
      exact ⟨_, ⟨inLeft, rfl⟩, _, ⟨inRight, rfl⟩, rfl⟩
  simp only [run, bind_ok_iff, JoinSide.require_eq_ok_iff, JoinSide.keyed_eq_ok_iff]
  constructor
  · rintro ⟨_, leftKey, _, rightKey, _, fromLeft, _, fromRight, _, ⟨rightKeys, rfl⟩, _,
      ⟨leftKeys, rfl⟩, rows, passed, made⟩
    obtain ⟨found, rfl⟩ := joined.mp passed
    cases made
    refine ⟨⟨?_, ?_, leftKeys, rightKeys, fun pair among => (found pair among).1,
      fun pair among => (found pair among).2⟩, rfl, rfl⟩
    · exact List.forall_mem_cons.mpr ⟨leftKey _ (List.mem_singleton_self _), fromLeft⟩
    · exact List.forall_mem_cons.mpr ⟨rightKey _ (List.mem_singleton_self _), fromRight⟩
  · rintro ⟨finds, rfl, rfl⟩
    have leftKnown := List.forall_mem_cons.mp finds.leftColumns
    have rightKnown := List.forall_mem_cons.mp finds.rightColumns
    refine ⟨(), List.forall_mem_singleton.mpr leftKnown.1, (),
      List.forall_mem_singleton.mpr rightKnown.1, (), leftKnown.2, (), rightKnown.2, _,
      ⟨finds.rightKeys, rfl⟩, _, ⟨finds.leftKeys, rfl⟩, _, joined.mpr ⟨?_, rfl⟩, rfl⟩
    exact fun pair among => ⟨finds.leftCells pair among, finds.rightCells pair among⟩

theorem exists_run_iff :
    (∃ result, join.run left right = .ok result) ↔ join.Finds left right := by
  rw [Prod.exists]
  constructor
  · rintro ⟨columns, rows, ran⟩
    exact (run_eq_ok_iff.mp ran).1
  · intro finds
    exact ⟨_, _, run_eq_ok_iff.mpr ⟨finds, rfl, rfl⟩⟩

/-- Rows that stand beside each other are rows of the two sides. -/
theorem rows_of_paired {l r : Option (List Cell)} (member : (l, r) ∈ join.paired left right) :
    (∀ row, l = some row → row ∈ left.rows) ∧ ∀ row, r = some row → row ∈ right.rows := by
  obtain ⟨inLeft, inRight⟩ := paired_of_mem member
  constructor
  · intro row same
    obtain ⟨entry, inside, rfl⟩ := inLeft row same
    obtain ⟨row, member, rfl⟩ := List.mem_map.mp inside
    exact member
  · intro row same
    obtain ⟨entry, inside, rfl⟩ := inRight row same
    obtain ⟨row, member, rfl⟩ := List.mem_map.mp inside
    exact member

theorem finds_of_even (leftEven : left.Even) (rightEven : right.Even)
    (leftKnown : ∀ name ∈ join.leftKey :: join.fromLeft left, name ∈ left.columns)
    (rightKnown : ∀ name ∈ join.rightKey :: join.fromRight right, name ∈ right.columns) :
    join.Finds left right := by
  have leftParts := List.forall_mem_cons.mp leftKnown
  have rightParts := List.forall_mem_cons.mp rightKnown
  constructor
  case leftColumns => exact leftKnown
  case rightColumns => exact rightKnown
  case leftKeys =>
    intro row member
    exact leftEven.reaches member (List.forall_mem_singleton.mpr leftParts.1)
  case rightKeys =>
    intro row member
    exact rightEven.reaches member (List.forall_mem_singleton.mpr rightParts.1)
  case leftCells =>
    intro pair among row same
    exact leftEven.reaches ((rows_of_paired among).1 row same) leftParts.2
  case rightCells =>
    intro pair among row same
    exact rightEven.reaches ((rows_of_paired among).2 row same) rightParts.2

end Join

end Gridbook
