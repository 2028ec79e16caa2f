import Gridbook.Proofs.Merge.Outcome

/-! # Columns of one name

A table may have several columns of one name. A join looks each of its columns up by name and finds
the first one every time, so that a row comes through whole exactly if it has the same cell in all
columns of one name.
-/

namespace Gridbook

namespace JoinSide

variable {side : JoinSide} {row : List Cell}

/-- All cells of a row; a missing row has nothing in each of them. -/
def whole (side : JoinSide) : Option (List Cell) → List Cell
  | none => List.replicate side.columns.length .null
  | some row => row

def Agrees (side : JoinSide) (row : List Cell) : Prop :=
  ∀ a ∈ side.columns.zip row, ∀ b ∈ side.columns.zip row, a.1 = b.1 → a.2 = b.2

instance (side : JoinSide) (row : List Cell) : Decidable (side.Agrees row) :=
  inferInstanceAs (Decidable (∀ a ∈ side.columns.zip row, ∀ b ∈ side.columns.zip row,
    a.1 = b.1 → a.2 = b.2))

theorem agrees_of_nodup (distinct : side.columns.Nodup) (even : row.length = side.columns.length) :
    side.Agrees row := by
  have names : (side.columns.zip row).map Prod.fst = side.columns :=
    List.map_fst_zip (by omega)
  rw [← names] at distinct
  intro a inA b inB same
  exact congrArg Prod.snd (List.inj_on_of_nodup_map distinct inA inB same)

theorem cell_mem_zip {name : String} (known : name ∈ side.columns)
    (even : row.length = side.columns.length) :
    (name, side.cell row name) ∈ side.columns.zip row := by
  have inside := List.idxOf_lt_length_of_mem known
  have reach : side.columns.idxOf name < row.length := by omega
  have found : (side.columns.zip row)[side.columns.idxOf name]? =
      some (name, side.cell row name) := by
    simp [cell, inside, reach]
  exact List.mem_of_getElem? found

theorem map_eq_iff_zip {α β : Type} {f : α → β} {xs : List α} {ys : List β}
    (even : ys.length = xs.length) : xs.map f = ys ↔ ∀ p ∈ xs.zip ys, f p.1 = p.2 := by
  induction xs generalizing ys with
  | nil => simpa [eq_comm] using even
  | cons x xs ih =>
      cases ys with
      | nil => cases even
      | cons y ys => simp [ih (Nat.succ.inj even)]

theorem cells_eq_whole_iff (even : row.length = side.columns.length) :
    side.cells side.columns (some row) = row ↔ side.Agrees row := by
  rw [cells, map_eq_iff_zip even]
  constructor
  · intro found a inA b inB same
    rw [← found a inA, ← found b inB, same]
  · intro agrees p member
    obtain ⟨name, c⟩ := p
    have known : name ∈ side.columns := (List.of_mem_zip member).1
    exact agrees _ (cell_mem_zip known even) _ member rfl

theorem cells_none (side : JoinSide) : side.cells side.columns none = side.whole none := by
  rw [cells, whole, List.map_const']

theorem length_whole {row? : Option (List Cell)} (even : side.Even)
    (member : ∀ row, row? = some row → row ∈ side.rows) :
    (side.whole row?).length = side.columns.length := by
  cases row? with
  | none => simp [whole]
  | some row => exact even row (member row rfl)

theorem cells_eq_whole {row? : Option (List Cell)} (even : side.Even)
    (member : ∀ row, row? = some row → row ∈ side.rows) :
    side.cells side.columns row? = side.whole row? ↔ ∀ row, row? = some row → side.Agrees row := by
  cases row? with
  | none => simp [cells_none]
  | some row => simp [whole, cells_eq_whole_iff (even row (member row rfl))]

end JoinSide

namespace Join

variable {join : Join} {left right : JoinSide}

/-- Without a selection, a pair of rows comes through whole exactly if both rows do. -/
theorem cells_whole_iff (leftEven : left.Even) (rightEven : right.Even)
    (allLeft : join.selectedLeft = none) (allRight : join.selectedRight = none)
    {l r : Option (List Cell)} (member : (l, r) ∈ join.paired left right) :
    join.cells left right (l, r) = left.whole l ++ right.whole r ↔
      (∀ row, l = some row → left.Agrees row) ∧ ∀ row, r = some row → right.Agrees row := by
  obtain ⟨inLeft, inRight⟩ := rows_of_paired member
  have taken : join.cells left right (l, r) =
      left.cells left.columns l ++ right.cells right.columns r := by
    simp [Join.cells, fromLeft, fromRight, allLeft, allRight]
  have widths : (left.cells left.columns l).length = (left.whole l).length := by
    rw [left.length_cells, JoinSide.length_whole leftEven inLeft]
  rw [taken, List.append_eq_append_iff_of_size_eq_left widths, JoinSide.cells_eq_whole leftEven inLeft,
    JoinSide.cells_eq_whole rightEven inRight]

/-- What a join would give if all rows came through whole. -/
def wholes (join : Join) (left right : JoinSide) : List (List Cell) :=
  (join.paired left right).map fun (l, r) => left.whole l ++ right.whole r

/-- A join of even sides without selections has all columns of both sides in its rows, each with the
cell of the first column of its name. Its rows are the whole rows that stand beside each other
exactly if each of these has the same cell in all columns of one name; where names are different,
nothing is lost. -/
theorem rows_whole_iff (leftEven : left.Even) (rightEven : right.Even)
    (allLeft : join.selectedLeft = none) (allRight : join.selectedRight = none)
    (leftKey : join.leftKey ∈ left.columns) (rightKey : join.rightKey ∈ right.columns) :
    ∃ columns rows, join.run left right = .ok (columns, rows) ∧
      rows = ((join.paired left right).map fun (l, r) =>
        left.cells left.columns l ++ right.cells right.columns r) ∧
      (rows = join.wholes left right ↔ ∀ l r, (l, r) ∈ join.paired left right →
        (∀ row, l = some row → left.Agrees row) ∧ ∀ row, r = some row → right.Agrees row) ∧
      (left.columns.Nodup → right.columns.Nodup → rows = join.wholes left right) := by
  have fromLeft : join.fromLeft left = left.columns := by simp [Join.fromLeft, allLeft]
  have fromRight : join.fromRight right = right.columns := by simp [Join.fromRight, allRight]
  have finds : join.Finds left right := by
    apply finds_of_even leftEven rightEven
    · rw [fromLeft, List.forall_mem_cons]
      exact ⟨leftKey, fun name known => known⟩
    · rw [fromRight, List.forall_mem_cons]
      exact ⟨rightKey, fun name known => known⟩
  have whole : (join.paired left right).map (join.cells left right) = join.wholes left right ↔
      ∀ l r, (l, r) ∈ join.paired left right →
        (∀ row, l = some row → left.Agrees row) ∧ ∀ row, r = some row → right.Agrees row := by
    rw [wholes, List.map_inj_left, Prod.forall]
    apply forall_congr'
    intro l
    apply forall_congr'
    intro r
    apply forall_congr'
    intro member
    exact cells_whole_iff leftEven rightEven allLeft allRight member
  refine ⟨_, _, run_eq_ok_iff.mpr ⟨finds, rfl, rfl⟩, ?_, whole, ?_⟩
  · apply List.map_congr_left
    rintro ⟨l, r⟩ -
    rw [Join.cells, fromLeft, fromRight]
  · intro leftDistinct rightDistinct
    apply whole.mpr
    intro l r member
    obtain ⟨inLeft, inRight⟩ := rows_of_paired member
    constructor
    · intro row same
      exact JoinSide.agrees_of_nodup leftDistinct (leftEven row (inLeft row same))
    · intro row same
      exact JoinSide.agrees_of_nodup rightDistinct (rightEven row (inRight row same))

/-- Counts of items, each taken twice. -/
def counts : JoinSide where
  name := "counts"
  columns := ["item", "count", "count"]
  rows := [[.text "pen", .int 1, .int 1], [.text "ink", .int 4, .int 4]]

def colours : JoinSide where
  name := "colours"
  columns := ["item", "colour"]
  rows := [[.text "pen", .text "red"], [.text "cap", .text "green"]]

/-- Puts colours beside counts and keeps all rows. -/
def coloured : Join :=
  ⟨some "counts", "colours", "item", "item", .full, none, none, none, none⟩

/-- Counts that agree come through whole, and so do rows without a match. -/
theorem agreeing_counts_whole : counts.Even ∧ colours.Even ∧
    (∀ row ∈ counts.rows, counts.Agrees row) ∧
    ∃ columns, coloured.run counts colours = .ok (columns, coloured.wholes counts colours) ∧
      coloured.wholes counts colours =
        [[.text "pen", .int 1, .int 1, .text "pen", .text "red"],
          [.text "ink", .int 4, .int 4, .null, .null],
          [.null, .null, .null, .text "cap", .text "green"]] := by
  have leftEven : counts.Even := by decide
  have rightEven : colours.Even := by decide
  have agree : ∀ row ∈ counts.rows, counts.Agrees row := by decide
  obtain ⟨columns, rows, ran, -, whole, -⟩ :=
    @rows_whole_iff coloured _ _ leftEven rightEven rfl rfl (by decide) (by decide)
  have all : rows = coloured.wholes counts colours := by
    apply whole.mpr
    intro l r member
    obtain ⟨inLeft, inRight⟩ := rows_of_paired member
    constructor
    · intro row same
      exact agree row (inLeft row same)
    · intro row same
      exact JoinSide.agrees_of_nodup (by decide) (rightEven row (inRight row same))
  exact ⟨leftEven, rightEven, agree, columns, all ▸ ran, by decide +kernel⟩

def recounts : JoinSide :=
  { counts with rows := [[.text "pen", .int 1, .int 2]] }

/-- The second count is lost: in its place stands the first one, and no row of the result is a whole
left row with a whole right row behind it. -/
theorem second_count_lost :
    coloured.run recounts { colours with rows := [[.text "pen", .text "red"]] } =
      .ok (["item", "count", "counts_count", "colours_item", "colour"],
        [[.text "pen", .int 1, .int 1, .text "pen", .text "red"]]) ∧
    ¬ ∃ l ∈ recounts.rows, ∃ r ∈ [[.text "pen", .text "red"]],
      l ++ r = [.text "pen", .int 1, .int 1, .text "pen", .text "red"] := by
  decide +kernel

end Join

end Gridbook
