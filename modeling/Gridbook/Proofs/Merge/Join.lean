import Gridbook.Merge
import Gridbook.Proofs.Escape

/-! # Joins of even tables

Every row of a source or of a view is as wide as its columns, and a join of such sides is such a
side again. A join therefore finds a cell wherever it looks for one, and nothing stops a merge
before inference but a table or a column that is missing.
-/

namespace Gridbook

/-- A table or some columns of one are missing. -/
inductive Fault.Missing : Fault → Prop
  | table (id : String) : Missing (.unknownTable id)
  | columns (table : String) (names : List String) : Missing (.missingColumns table names)

/-- A computation stops at nothing but missing tables and columns. -/
abbrev StopsAtMissing (outcome : Except Fault α) : Prop :=
  ¬ Stops (fun fault => ¬ fault.Missing) outcome

namespace JoinSide

/-- Every row of a side is as wide as its columns. -/
def Even (side : JoinSide) : Prop :=
  Rectangular side.columns side.rows

instance (side : JoinSide) : Decidable side.Even :=
  inferInstanceAs (Decidable (Rectangular side.columns side.rows))

theorem require_ok {side : JoinSide} {names : List String} (passed : side.require names = .ok ()) :
    ∀ name ∈ names, name ∈ side.columns := by
  unfold require at passed
  split at passed <;> rename_i missing
  · simpa using missing
  · cases passed

theorem require_missing (side : JoinSide) (names : List String) :
    StopsAtMissing (side.require names) := by
  unfold require
  split
  · exact Stops.ok ()
  · rw [StopsAtMissing, Stops.error, Classical.not_not]
    exact .columns _ _

theorem Even.cellAt {side : JoinSide} (even : side.Even) {row : List Cell} (member : row ∈ side.rows)
    {name : String} (known : name ∈ side.columns) :
    ∃ cell, cellAt row (side.columns.idxOf name) = .ok cell := by
  have inside : side.columns.idxOf name < row.length := by
    rw [even row member]
    exact List.idxOf_lt_length_of_mem known
  exact ⟨row[side.columns.idxOf name], by simp [JoinSide.cellAt, inside]⟩

theorem Even.keyed_missing {side : JoinSide} (even : side.Even) {key : String}
    (known : key ∈ side.columns) : StopsAtMissing (side.keyed key) := by
  apply Stops.not_mapM
  intro row member
  obtain ⟨cell, found⟩ := even.cellAt member known
  simp [found]

theorem keyed_rows {side : JoinSide} {key : String} {entries : List (Cell × List Cell)}
    (passed : side.keyed key = .ok entries) : ∀ entry ∈ entries, entry.2 ∈ side.rows := by
  intro entry member
  obtain ⟨row, among, found⟩ := mapM_ok_mem passed member
  obtain ⟨cell, -, found⟩ := bind_ok_iff.mp found
  cases found
  exact among

theorem Even.select_missing {side : JoinSide} (even : side.Even) {names : List String}
    (known : ∀ name ∈ names, name ∈ side.columns) {row? : Option (List Cell)}
    (member : ∀ row, row? = some row → row ∈ side.rows) :
    StopsAtMissing (side.select names row?) := by
  cases row? with
  | none => exact Stops.ok _
  | some row =>
      apply Stops.not_mapM
      intro name among
      obtain ⟨cell, found⟩ := even.cellAt (member row rfl) (known name among)
      simp [found]

theorem select_length {side : JoinSide} {names : List String} {row? : Option (List Cell)}
    {cells : List Cell} (passed : side.select names row? = .ok cells) :
    cells.length = names.length := by
  cases row? with
  | none =>
      cases passed
      simp
  | some row => exact mapM_ok_length passed

end JoinSide

namespace Join

theorem length_outputNames (table : String) (taken names : List String) :
    (outputNames table taken names).length = names.length := by
  induction names generalizing taken with
  | nil => rfl
  | cons name rest ih => simp [outputNames, ih]

/-- The rows that stand beside each other are rows of the two sides. -/
def Paired (left right : List (Cell × List Cell)) (l r : Option (List Cell)) : Prop :=
  (∀ row, l = some row → ∃ entry ∈ left, entry.2 = row) ∧
    ∀ row, r = some row → ∃ entry ∈ right, entry.2 = row

theorem beside_of_mem {index : KeyIndex} {kind : JoinKind} {left right : List (Cell × List Cell)}
    {l r : Option (List Cell)}
    (member : (l, r) ∈ left.flatMap fun entry => match index.positions entry.1 with
      | [] => if kind.keepsLeft then [(some entry.2, none)] else []
      | hits => hits.map fun i => (some entry.2, right[i]?.map fun hit => hit.2)) :
    ∃ entry ∈ left, l = some entry.2 ∧
      (r = none ∨ ∃ i : Nat, r = right[i]?.map fun hit => hit.2) := by
  obtain ⟨entry, among, found⟩ := List.mem_flatMap.mp member
  refine ⟨entry, among, ?_⟩
  split at found
  · split at found
    · cases List.mem_singleton.mp found
      exact ⟨rfl, .inl rfl⟩
    · cases found
  · obtain ⟨i, -, same⟩ := List.mem_map.mp found
    cases same
    exact ⟨rfl, .inr ⟨i, rfl⟩⟩

theorem paired_of_mem {kind : JoinKind} {left right : List (Cell × List Cell)}
    {l r : Option (List Cell)} (member : (l, r) ∈ pairs kind left right) :
    Paired left right l r := by
  have beside_or_alone : (∃ entry ∈ left, l = some entry.2 ∧
      (r = none ∨ ∃ i : Nat, r = right[i]?.map fun hit => hit.2)) ∨
      l = none ∧ ∃ hit ∈ right, r = some hit.2 := by
    unfold pairs at member
    simp only at member
    split at member
    · rcases List.mem_append.mp member with beside | alone
      · exact .inl (beside_of_mem beside)
      · obtain ⟨⟨hit, i⟩, among, same⟩ := List.mem_map.mp alone
        cases same
        exact .inr ⟨rfl, hit, List.fst_mem_of_mem_zipIdx (List.mem_filter.mp among).1, rfl⟩
    · exact .inl (beside_of_mem member)
  rcases beside_or_alone with ⟨entry, among, rfl, rfl | ⟨i, rfl⟩⟩ | ⟨rfl, hit, among, rfl⟩
  · exact ⟨by simpa using ⟨_, among⟩, by simp⟩
  · refine ⟨by simpa using ⟨_, among⟩, ?_⟩
    intro row here
    obtain ⟨hit, stands, rfl⟩ := Option.map_eq_some_iff.mp here
    exact ⟨hit, List.mem_of_getElem? stands, rfl⟩
  · exact ⟨by simp, by simpa using ⟨_, among⟩⟩

variable {join : Join} {left right : JoinSide}

theorem run_missing (leftEven : left.Even) (rightEven : right.Even) :
    StopsAtMissing (join.run left right) := by
  refine Stops.not_bind (left.require_missing _) fun _ leftKey => ?_
  refine Stops.not_bind (right.require_missing _) fun _ rightKey => ?_
  refine Stops.not_bind (left.require_missing _) fun _ fromLeft => ?_
  refine Stops.not_bind (right.require_missing _) fun _ fromRight => ?_
  have keyInLeft := JoinSide.require_ok leftKey join.leftKey (List.mem_singleton_self _)
  have keyInRight := JoinSide.require_ok rightKey join.rightKey (List.mem_singleton_self _)
  refine Stops.not_bind (rightEven.keyed_missing keyInRight) fun keyedRight rightRead => ?_
  refine Stops.not_bind (leftEven.keyed_missing keyInLeft) fun keyedLeft leftRead => ?_
  refine Stops.not_bind ?rows fun _ _ => Stops.pure _
  apply Stops.not_mapM
  rintro ⟨l, r⟩ member
  obtain ⟨inLeft, inRight⟩ := paired_of_mem member
  refine Stops.not_bind (leftEven.select_missing (JoinSide.require_ok fromLeft) ?left) ?_
  case left =>
    intro row same
    obtain ⟨entry, among, rfl⟩ := inLeft row same
    exact JoinSide.keyed_rows leftRead entry among
  intro cells _
  refine Stops.not_bind (rightEven.select_missing (JoinSide.require_ok fromRight) ?right) ?_
  case right =>
    intro row same
    obtain ⟨entry, among, rfl⟩ := inRight row same
    exact JoinSide.keyed_rows rightRead entry among
  exact fun _ _ => Stops.pure _

theorem run_even {columns : List String} {rows : List (List Cell)}
    (ran : join.run left right = .ok (columns, rows)) : Rectangular columns rows := by
  simp only [run, bind_ok_iff] at ran
  obtain ⟨_, -, _, -, _, -, _, -, keyedRight, -, keyedLeft, -, joined, passed, result⟩ := ran
  cases result
  intro row member
  obtain ⟨⟨l, r⟩, -, found⟩ := mapM_ok_mem passed member
  obtain ⟨fromLeft, leftRead, found⟩ := bind_ok_iff.mp found
  obtain ⟨fromRight, rightRead, found⟩ := bind_ok_iff.mp found
  cases found
  simp [length_outputNames, JoinSide.select_length leftRead, JoinSide.select_length rightRead]

end Join

namespace Merge

theorem source_missing (sources : List (String × Source)) (id : String) :
    StopsAtMissing (source sources id) := by
  unfold source
  split
  · exact Stops.ok _
  · rw [StopsAtMissing, Stops.error, Classical.not_not]
    exact .table id

theorem step_missing (sources : List (String × Source)) {left : JoinSide} (even : left.Even)
    (join : Join) : StopsAtMissing (step sources left join) := by
  refine Stops.not_bind (source_missing sources _) fun right _ => ?_
  exact Stops.not_bind (Join.run_missing even right.rectangular) fun _ _ => Stops.pure _

theorem step_even {sources : List (String × Source)} {left result : JoinSide} {join : Join}
    (stepped : step sources left join = .ok result) : result.Even := by
  obtain ⟨right, -, stepped⟩ := bind_ok_iff.mp stepped
  obtain ⟨⟨columns, rows⟩, ran, stepped⟩ := bind_ok_iff.mp stepped
  cases stepped
  exact Join.run_even ran

/-- Nothing stops a merge before inference but a table or a column that is missing; above all, what
the joins give is never too narrow or too wide. -/
theorem joined_missing (merge : Merge) (sources : List (String × Source)) :
    StopsAtMissing (merge.joined sources) := by
  refine Stops.not_bind (Stops.not_mapM fun id _ => source_missing sources id) fun _ _ => ?_
  refine Stops.not_bind (source_missing sources _) fun left _ => ?_
  refine Stops.not_bind ?_ fun result ran => ?_
  · exact Stops.not_foldlM (P := JoinSide.Even) left.rectangular
      (fun _ _ _ _ _ stepped => step_even stepped)
      (fun _ join _ even => step_missing sources even join)
  · have even : result.Even := foldlM_ok_of_step (fun _ _ _ stepped => step_even stepped) ran
    have rectangular : Rectangular result.columns
        (result.rows.map fun row => row.map fun c => if c = .null then .text "" else c) := by
      intro row member
      obtain ⟨raw, among, rfl⟩ := List.mem_map.mp member
      rw [List.length_map]
      exact even raw among
    rw [Source.of, dif_pos rectangular]
    exact Stops.ok _

theorem joined_fault {merge : Merge} {sources : List (String × Source)} {fault : Fault}
    (stopped : merge.joined sources = .error fault) : fault.Missing := by
  apply Classical.byContradiction
  intro other
  exact merge.joined_missing sources ⟨fault, stopped, other⟩

/-- Whatever stops a merge before inference stays with the table that is merged. -/
theorem joined_confined (merge : Merge) (sources : List (String × Source)) :
    ¬ Escapes (merge.joined sources) := by
  rintro ⟨fault, stopped, loose⟩
  cases joined_fault stopped <;> cases loose

end Merge

end Gridbook
