import Gridbook.Proofs.Merge.Outcome

/-! # Joins the other way round

A join goes through the left rows and looks right rows up. The other way round, with the sides
exchanged, it finds the same pairs: only the order of the rows and the order of the two blocks in
each row are different.
-/

namespace Gridbook

def JoinKind.mirrored : JoinKind → JoinKind
  | .inner => .inner
  | .left => .right
  | .right => .left
  | .full => .full

namespace JoinKind

@[simp] theorem keepsLeft_mirrored (kind : JoinKind) :
    kind.mirrored.keepsLeft = kind.keepsRight := by
  cases kind <;> rfl

@[simp] theorem keepsRight_mirrored (kind : JoinKind) :
    kind.mirrored.keepsRight = kind.keepsLeft := by
  cases kind <;> rfl

@[simp] theorem mirrored_mirrored (kind : JoinKind) : kind.mirrored.mirrored = kind := by
  cases kind <;> rfl

end JoinKind

namespace Join

section Loop

open scoped List

variable {α β : Type} {kind : JoinKind}

/-- Every left row with every right row that matches it. -/
def matching (same : α → β → Bool) (left : List α) (right : List β) :
    List (Option α × Option β) :=
  left.flatMap fun l => (right.filter (same l)).map fun r => (some l, some r)

/-- The left rows that are kept without a match. -/
def leftAlone (kind : JoinKind) (same : α → β → Bool) (left : List α) (right : List β) :
    List (Option α × Option β) :=
  (left.filter fun l => kind.keepsLeft && !right.any (same l)).map fun l => (some l, none)

theorem map_filter_eq_flatMap (f : α → β) (p : α → Bool) (items : List α) :
    (items.filter p).map f = items.flatMap fun a => if p a then [f a] else [] := by
  induction items with
  | nil => rfl
  | cons a items ih => cases kept : p a <;> simp [kept, ih]

/-- Going through the left rows or through the right rows gives the same matches. -/
theorem matching_perm (same : α → β → Bool) (left : List α) (right : List β) :
    matching (fun r l => same l r) right left ~ (matching same left right).map Prod.swap := by
  induction left with
  | nil => simp [matching]
  | cons l left ih =>
      have split : matching (fun r l => same l r) right (l :: left) =
          right.flatMap fun r => (if same l r then [(some r, some l)] else []) ++
            (left.filter fun l => same l r).map fun l => (some r, some l) := by
        apply List.flatMap_congr
        intro r _
        cases found : same l r <;> simp [found]
      have first : ((right.filter (same l)).map fun r => (some l, some r)).map Prod.swap =
          right.flatMap fun r => if same l r then [(some r, some l)] else [] := by
        rw [List.map_map]
        exact map_filter_eq_flatMap _ _ right
      calc matching (fun r l => same l r) right (l :: left)
        _ = _ := split
        _ ~ (right.flatMap fun r => if same l r then [(some r, some l)] else []) ++
            matching (fun r l => same l r) right left :=
          (List.flatMap_append_perm right _ _).symm
        _ ~ (right.flatMap fun r => if same l r then [(some r, some l)] else []) ++
            (matching same left right).map Prod.swap := List.Perm.append_left _ ih
        _ = (matching same (l :: left) right).map Prod.swap := by
          rw [← first, ← List.map_append]
          rfl

theorem besides_perm (same : α → β → Bool) (left : List α) (right : List β) :
    (left.flatMap fun l => besides kind l (right.filter (same l))) ~
      matching same left right ++ leftAlone kind same left right := by
  have each (l : α) : besides kind l (right.filter (same l)) =
      ((right.filter (same l)).map fun r => (some l, some r)) ++
        if kind.keepsLeft && !right.any (same l) then [(some l, none)] else [] := by
    cases hits : right.filter (same l) with
    | nil =>
        have none : right.any (same l) = false := by simpa using hits
        simp [besides, none]
    | cons r others =>
        have member : r ∈ right.filter (same l) := hits ▸ List.mem_cons_self
        have some : right.any (same l) = true :=
          List.any_eq_true.mpr ⟨r, List.mem_filter.mp member⟩
        simp [besides, some]
  simp only [each]
  rw [leftAlone, map_filter_eq_flatMap]
  exact (List.flatMap_append_perm left _ _).symm

/-- What nested loops put together are the matches and, on both sides, the rows alone. -/
theorem loop_perm (kind : JoinKind) (same : α → β → Bool) (left : List α) (right : List β) :
    loop kind same left right ~ matching same left right ++ leftAlone kind same left right ++
      (leftAlone kind.mirrored (fun r l => same l r) right left).map Prod.swap := by
  have alone : (if kind.keepsRight then (right.filter fun r => !left.any fun l => same l r).map
      fun r => ((none : Option α), some r) else []) =
        (leftAlone kind.mirrored (fun r l => same l r) right left).map Prod.swap := by
    cases keeps : kind.keepsRight <;> simp [leftAlone, keeps]
  rw [loop, alone]
  exact List.Perm.append_right _ (besides_perm same left right)

/-- Nested loops with the sides exchanged put the same rows together. -/
theorem loop_mirrored (same : α → β → Bool) (left : List α) (right : List β) :
    loop kind.mirrored (fun r l => same l r) right left ~
      (loop kind same left right).map Prod.swap := by
  have there := loop_perm kind.mirrored (fun r l => same l r) right left
  have here := (loop_perm kind same left right).map Prod.swap
  simp only [JoinKind.mirrored_mirrored, List.append_assoc] at there
  simp only [List.map_append, List.map_map, Prod.swap_swap_eq, List.map_id,
    List.append_assoc] at here
  -- the rows alone of the one side come before those of the other side, and then behind them
  have alone : leftAlone kind.mirrored (fun r l => same l r) right left ++
      (leftAlone kind same left right).map Prod.swap ~
        (leftAlone kind same left right).map Prod.swap ++
          leftAlone kind.mirrored (fun r l => same l r) right left := List.perm_append_comm
  exact there.trans (((matching_perm same left right).append alone).trans here.symm)

end Loop

/-- A join with the keys and selections of its sides exchanged. -/
def swapped (join : Join) : Join :=
  { join with
    leftKey := join.rightKey
    rightKey := join.leftKey
    kind := join.kind.mirrored
    selectedLeft := join.selectedRight
    selectedRight := join.selectedLeft }

/-- A row with its two blocks exchanged, the first of which has some width. -/
def exchanged (width : Nat) (row : List Cell) : List Cell :=
  row.drop width ++ row.take width

variable {join : Join} {left right : JoinSide}

@[simp] theorem swapped_swapped (join : Join) : join.swapped.swapped = join := by
  simp [swapped]

/-- The rows that stand beside each other are the same the other way round. -/
theorem paired_swapped (leftKeys : ∀ row ∈ left.rows, (left.cell row join.leftKey).IsKey)
    (rightKeys : ∀ row ∈ right.rows, (right.cell row join.rightKey).IsKey) :
    (join.swapped.paired right left).Perm ((join.paired left right).map Prod.swap) := by
  have there := pairs_keyed rightKeys leftKeys join.kind.mirrored
  simp only [eq_comm] at there
  have here := pairs_keyed leftKeys rightKeys join.kind
  unfold paired
  rw [here]
  refine (List.Perm.of_eq there).trans ?_
  exact loop_mirrored _ left.rows right.rows

/-- A pair of rows, the other way round, gives its two blocks the other way round. -/
theorem cells_swapped (pair : Option (List Cell) × Option (List Cell)) :
    join.swapped.cells right left pair.swap =
      exchanged (join.fromLeft left).length (join.cells left right pair) := by
  have width : (left.cells (join.fromLeft left) pair.1).length = (join.fromLeft left).length :=
    left.length_cells _ _
  have blocks : join.cells left right pair =
      left.cells (join.fromLeft left) pair.1 ++ right.cells (join.fromRight right) pair.2 := rfl
  rw [exchanged, blocks, ← width, List.drop_left, List.take_left]
  rfl

/-- What a join looks for, it looks for the other way round as well. -/
theorem Finds.swapped (finds : join.Finds left right)
    (leftKeys : ∀ row ∈ left.rows, (left.cell row join.leftKey).IsKey)
    (rightKeys : ∀ row ∈ right.rows, (right.cell row join.rightKey).IsKey) :
    join.swapped.Finds right left := by
  have back {pair : Option (List Cell) × Option (List Cell)}
      (among : pair ∈ join.swapped.paired right left) : pair.swap ∈ join.paired left right := by
    obtain ⟨twin, member, rfl⟩ :=
      List.mem_map.mp ((paired_swapped leftKeys rightKeys).mem_iff.mp among)
    rwa [Prod.swap_swap]
  constructor
  case leftColumns => exact finds.rightColumns
  case rightColumns => exact finds.leftColumns
  case leftKeys => exact finds.rightKeys
  case rightKeys => exact finds.leftKeys
  case leftCells =>
    intro pair among row same
    exact finds.rightCells pair.swap (back among) row same
  case rightCells =>
    intro pair among row same
    exact finds.leftCells pair.swap (back among) row same

/-- A join by keys that are values as they are delivered has a result exactly if it has one the
other way round, and up to their order the rows are the same, with the blocks of the two sides
exchanged. -/
theorem swapped_rows (leftKeys : ∀ row ∈ left.rows, (left.cell row join.leftKey).IsKey)
    (rightKeys : ∀ row ∈ right.rows, (right.cell row join.rightKey).IsKey) :
    ((∃ result, join.run left right = .ok result) ↔
      ∃ result, join.swapped.run right left = .ok result) ∧
    ∀ columns rows, join.run left right = .ok (columns, rows) →
      ∃ others mirrored, join.swapped.run right left = .ok (others, mirrored) ∧
        mirrored.Perm (rows.map (exchanged (join.fromLeft left).length)) := by
  constructor
  · rw [exists_run_iff, exists_run_iff]
    constructor
    · intro finds
      exact finds.swapped leftKeys rightKeys
    · intro finds
      have again : join.swapped.swapped.Finds left right := finds.swapped rightKeys leftKeys
      rwa [swapped_swapped] at again
  · intro columns rows ran
    obtain ⟨finds, -, rfl⟩ := run_eq_ok_iff.mp ran
    refine ⟨_, _, run_eq_ok_iff.mpr ⟨finds.swapped leftKeys rightKeys, rfl, rfl⟩, ?_⟩
    have paired := (paired_swapped leftKeys rightKeys).map (join.swapped.cells right left)
    rw [List.map_map] at paired
    rw [List.map_map]
    refine paired.trans (List.Perm.of_eq (List.map_congr_left ?_))
    intro pair _
    exact cells_swapped pair

def ordersFirst : Join :=
  { ordersWithClients with kind := .left }

/-- Orders with their clients, gone through by orders and by clients: what comes as a left row
without a match the one way is a right row without a match the other way, and comes last. -/
theorem orders_swapped :
    (∀ row ∈ orders.rows, (orders.cell row ordersFirst.leftKey).IsKey) ∧
    (∀ row ∈ clients.rows, (clients.cell row ordersFirst.rightKey).IsKey) ∧
    ∃ columns rows others, ordersFirst.run orders clients = .ok (columns, rows) ∧
      ordersFirst.swapped.run clients orders = .ok (others,
        [[.text "Riga", .text "Riga", .text "pen"], [.text "Riga", .text "Riga", .text "nib"],
          [.text "Oslo", .text "Oslo", .text "cap"], [.text "Cork", .text "Cork", .text "pen"],
          [.text "Cork", .text "Cork", .text "nib"], [.text "Bonn", .text "Bonn", .text "cap"],
          [.null, .null, .text "ink"]]) ∧
      ([[.text "Riga", .text "Riga", .text "pen"], [.text "Riga", .text "Riga", .text "nib"],
          [.text "Oslo", .text "Oslo", .text "cap"], [.text "Cork", .text "Cork", .text "pen"],
          [.text "Cork", .text "Cork", .text "nib"], [.text "Bonn", .text "Bonn", .text "cap"],
          [.null, .null, .text "ink"]] : List (List Cell)).Perm (rows.map (exchanged 1)) := by
  have leftKeys : ∀ row ∈ orders.rows, (orders.cell row ordersFirst.leftKey).IsKey := by
    decide +kernel
  have rightKeys : ∀ row ∈ clients.rows, (clients.cell row ordersFirst.rightKey).IsKey := by
    decide +kernel
  have backwards : ordersFirst.swapped.run clients orders =
      .ok (["town", "clients_town", "item"],
        [[.text "Riga", .text "Riga", .text "pen"], [.text "Riga", .text "Riga", .text "nib"],
          [.text "Oslo", .text "Oslo", .text "cap"], [.text "Cork", .text "Cork", .text "pen"],
          [.text "Cork", .text "Cork", .text "nib"], [.text "Bonn", .text "Bonn", .text "cap"],
          [.null, .null, .text "ink"]]) := by decide +kernel
  obtain ⟨either, same⟩ := swapped_rows leftKeys rightKeys
  obtain ⟨⟨columns, rows⟩, ran⟩ := either.mpr ⟨_, backwards⟩
  obtain ⟨others, mirrored, found, perm⟩ := same columns rows ran
  cases found.symm.trans backwards
  exact ⟨leftKeys, rightKeys, columns, rows, _, ran, backwards, perm⟩

end Join

end Gridbook
