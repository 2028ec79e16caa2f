import Gridbook.Proofs.Merge.NestedLoop

/-! # Joins and blanks

At its end a merge turns nothing in a cell into an empty text. A join may be given its left rows
before or after that: as long as no left key is concerned the same rows stand beside each other, and
once the result is treated in the same way nothing tells which it was.
-/

namespace Gridbook

/-- A cell with an empty text in the place of nothing. -/
def Cell.blanked (c : Cell) : Cell :=
  if c = .null then .text "" else c

/-- A row with an empty text in the place of nothing. -/
def blankedRow (row : List Cell) : List Cell :=
  row.map Cell.blanked

@[simp] theorem Cell.blanked_blanked (c : Cell) : c.blanked.blanked = c.blanked := by
  unfold blanked
  split <;> simp_all

theorem Cell.blanked_of_ne {c : Cell} (some : c ≠ .null) : c.blanked = c :=
  if_neg some

@[simp] theorem blankedRow_blankedRow (row : List Cell) :
    blankedRow (blankedRow row) = blankedRow row := by
  simp [blankedRow]

namespace JoinSide

variable {side : JoinSide} {key : String}

def blanked (side : JoinSide) : JoinSide :=
  { side with rows := side.rows.map blankedRow }

def KeysFilled (side : JoinSide) (key : String) : Prop :=
  ∀ row ∈ side.rows, side.cell row key ≠ .null ∧ side.cell row key ≠ .text ""

instance (side : JoinSide) (key : String) : Decidable (side.KeysFilled key) :=
  inferInstanceAs
    (Decidable (∀ row ∈ side.rows, side.cell row key ≠ .null ∧ side.cell row key ≠ .text ""))

theorem cellAt_blankedRow (row : List Cell) (i : Nat) :
    cellAt (blankedRow row) i = Cell.blanked <$> cellAt row i := by
  simp only [cellAt, blankedRow, List.getElem?_map]
  cases row[i]? <;> rfl

theorem keyed_blanked (some : ∀ row ∈ side.rows, side.cell row key ≠ .null) :
    side.blanked.keyed key = List.map (Prod.map id blankedRow) <$> side.keyed key := by
  rw [keyed, blanked, List.mapM_map]
  refine mapM_map_of fun row member => ?_
  simp only [Function.comp_apply, cellAt_blankedRow]
  have here := some row member
  unfold cellAt
  unfold cell at here
  rw [List.getD_eq_getElem?_getD] at here
  cases found : row[side.columns.idxOf key]? with
  | none => rfl
  | some c =>
      rw [found] at here
      have kept : c.blanked = c := Cell.blanked_of_ne here
      simp [kept]

theorem select_blanked (side : JoinSide) (names : List String) (row? : Option (List Cell)) :
    blankedRow <$> side.blanked.select names (row?.map blankedRow) =
      blankedRow <$> side.select names row? := by
  cases row? with
  | none => rfl
  | some row =>
      have cells : names.mapM (fun name => cellAt (blankedRow row) (side.columns.idxOf name)) =
          blankedRow <$> names.mapM fun name => cellAt row (side.columns.idxOf name) :=
        mapM_map_of fun name _ => cellAt_blankedRow row _
      rw [Option.map_some, select, select, blanked, cells]
      cases names.mapM fun name => cellAt row (side.columns.idxOf name) with
      | error fault => rfl
      | ok found => exact congrArg Except.ok (blankedRow_blankedRow found)

end JoinSide

namespace Join

/-- Which rows stand beside each other depends on nothing of the left rows but their keys. -/
theorem pairs_map_left (f : List Cell → List Cell) (kind : JoinKind)
    (left right : List (Cell × List Cell)) :
    pairs kind (left.map (Prod.map id f)) right =
      (pairs kind left right).map (Prod.map (Option.map f) id) := by
  have found : ((left.map (Prod.map id f)).flatMap fun l =>
      (KeyIndex.ofKeys (right.map fun r => r.1)).positions l.1) =
        left.flatMap fun l => (KeyIndex.ofKeys (right.map fun r => r.1)).positions l.1 :=
    List.flatMap_map ..
  unfold pairs
  simp only [found, apply_ite (List.map (Prod.map (Option.map f) id)), List.map_append,
    List.map_map, List.flatMap_map, List.map_flatMap]
  refine if_congr Iff.rfl (congrArg (· ++ _) ?_) ?_
  all_goals
    refine List.flatMap_congr fun l _ => ?_
    simp only [Prod.map_fst, Prod.map_snd, id_eq]
    cases (KeyIndex.ofKeys (right.map fun r => r.1)).positions l.1 with
    | nil => cases kind.keepsLeft <;> rfl
    | cons i more => simp

variable {join : Join} {left right : JoinSide}

theorem rows_blanked (left right : JoinSide) (fromLeft fromRight : List String)
    (pairs : List (Option (List Cell) × Option (List Cell))) :
    (List.map blankedRow <$> (pairs.map (Prod.map (Option.map blankedRow) id)).mapM fun (l, r) => do
        return (← left.blanked.select fromLeft l) ++ (← right.select fromRight r)) =
      List.map blankedRow <$> pairs.mapM fun (l, r) => do
        return (← left.select fromLeft l) ++ (← right.select fromRight r) := by
  rw [List.mapM_map]
  refine (mapM_map_of fun _ _ => rfl).symm.trans (mapM_map_of ?_)
  rintro ⟨l, r⟩ -
  have same := left.select_blanked fromLeft l
  simp only [Function.comp_apply, Prod.map_apply, id_eq]
  cases right.select fromRight r <;>
    cases blank : left.blanked.select fromLeft (l.map blankedRow) <;>
      cases raw : left.select fromLeft l <;>
        simp_all [Functor.map, Except.map, bind, Except.bind, pure, Except.pure, blankedRow]

theorem run_blanked (some : ∀ row ∈ left.rows, left.cell row join.leftKey ≠ .null) :
    Prod.map id (List.map blankedRow) <$> join.run left.blanked right =
      Prod.map id (List.map blankedRow) <$> join.run left right := by
  have required (names : List String) : left.blanked.require names = left.require names := rfl
  have columns : left.blanked.columns = left.columns := rfl
  have name : left.blanked.name = left.name := rfl
  simp only [run, required, columns, name, JoinSide.keyed_blanked some, map_bind, bind_map_left,
    pairs_map_left]
  refine bind_congr fun _ => bind_congr fun _ => bind_congr fun _ => bind_congr fun _ => ?_
  refine bind_congr fun keyedRight => bind_congr fun keyedLeft => ?_
  have rows := rows_blanked left right
    (join.selectedLeft.getD left.columns) (join.selectedRight.getD right.columns)
    (pairs join.kind keyedLeft keyedRight)
  have named := congrArg (Prod.mk (outputNames left.name [] (join.selectedLeft.getD left.columns) ++
    outputNames right.name (outputNames left.name [] (join.selectedLeft.getD left.columns))
      (join.selectedRight.getD right.columns)) <$> ·) rows
  simp only [← comp_map] at named
  simp only [map_pure, Prod.map_apply, id_eq, bind_pure_comp]
  exact named

end Join

end Gridbook
