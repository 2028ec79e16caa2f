import Mathlib
import Gridbook.Proofs.Table.Removal

/-! # Taking calculated columns back

Calculated columns that were added one after another can be removed again in any order, and then the
table is what it was before the first of them. A removal moves the columns behind the one that goes
one step to the front and leaves all else of them, so a column is kept track of by its position.
-/

namespace Gridbook

namespace Table

/-- A calculated column that is asked for, with the functions that its formula may call. -/
structure Addition where
  registry : Registry
  name : String
  formula : String

def addAll (table : Table) (additions : List Addition) : Except Fault Table :=
  additions.foldlM (fun table added => table.materialize added.registry added.name added.formula)
    table

/-- The index of the column that stood at `q`, when the columns that stood at some other positions
are gone. Each of them that stood in front makes it one less. -/
def indexWithout (gone : List Nat) (q : Nat) : Nat :=
  q - gone.countP (· < q)

/-- The table behind the removal of the columns at some positions, one at a time in this order, each
by the index that it has when its turn comes. -/
def removeAll (table : Table) (order : List Nat) : Except Fault Table :=
  (order.mapIdx fun turn q => indexWithout (order.take turn) q).foldlM
    (fun (table : Table) (index : Nat) => table.remove index) table

variable {table next base start last : Table} {p q r : Nat}

theorem indexWithout_single (p q : Nat) : indexWithout [p] q = if p < q then q - 1 else q := by
  simp only [indexWithout, List.countP_singleton, decide_eq_true_eq]
  split <;> rfl

theorem indexWithout_lt_iff (first : q ≠ p) (second : r ≠ p) :
    indexWithout [p] q < indexWithout [p] r ↔ q < r := by
  grind [indexWithout_single]

/-- The column that comes to stand at `i` is the one there or the next, as `p` lies behind or not.
-/
theorem exists_indexWithout (p i : Nat) : ∃ q, q ≠ p ∧ indexWithout [p] q = i := by
  simp only [indexWithout_single]
  by_cases early : i < p
  · exact ⟨i, by omega, if_neg (by omega)⟩
  · exact ⟨i + 1, by omega, if_pos (by omega)⟩

/-- What is gone can be counted from the first column that goes. -/
theorem indexWithout_cons {gone : List Nat} (stays : q ≠ p) (fresh : p ∉ gone) :
    indexWithout (p :: gone) q =
      indexWithout (gone.map (indexWithout [p])) (indexWithout [p] q) := by
  have counted : (gone.map (indexWithout [p])).countP (· < indexWithout [p] q) =
      gone.countP (· < q) := by
    rw [List.countP_map]
    refine List.countP_congr fun g among => ?_
    have apart : g ≠ p := fun same => fresh (same ▸ among)
    simp [indexWithout_lt_iff apart stays]
  unfold indexWithout at counted ⊢
  rw [counted]
  simp only [List.countP_cons, List.countP_nil]
  omega

theorem getElem?_eraseIdx_indexWithout {α : Type} (xs : List α) (stays : q ≠ p) :
    (xs.eraseIdx p)[indexWithout [p] q]? = xs[q]? := by
  grind [indexWithout_single]

/-- Positions without gaps have none either when one of them is gone. -/
theorem perm_of_cons {w n : Nat} {rest : List Nat}
    (order : (p :: rest).Perm (List.range' w (n + 1))) :
    (rest.map (indexWithout [p])).Perm (List.range' w n) := by
  have distinct := order.nodup_iff.mpr List.nodup_range'
  obtain ⟨fresh, distinct⟩ := List.nodup_cons.mp distinct
  have apart : ∀ g ∈ rest, g ≠ p := fun g inRest same => fresh (same ▸ inRest)
  have among : ∀ g, g ∈ p :: rest ↔ w ≤ g ∧ g < w + (n + 1) := by
    intro g
    rw [order.mem_iff, List.mem_range'_1]
  have here := (among p).mp List.mem_cons_self
  have moved : (rest.map (indexWithout [p])).Nodup := by
    refine distinct.map_on fun g first h second same => ?_
    have before := indexWithout_lt_iff (apart g first) (apart h second)
    have behind := indexWithout_lt_iff (apart h second) (apart g first)
    omega
  rw [List.perm_ext_iff_of_nodup moved List.nodup_range']
  intro i
  rw [List.mem_map, List.mem_range'_1]
  constructor
  · rintro ⟨g, inRest, rfl⟩
    have inside := (among g).mp (List.mem_cons_of_mem _ inRest)
    have other := apart g inRest
    rw [indexWithout_single]
    split <;> omega
  · intro inside
    obtain ⟨g, other, rfl⟩ := exists_indexWithout p i
    have range : w ≤ g ∧ g < w + (n + 1) := by
      rw [indexWithout_single] at inside
      split at inside <;> omega
    exact ⟨g, (List.mem_cons.mp ((among g).mpr range)).resolve_left other, rfl⟩

theorem removeAll_cons {rest : List Nat} (fresh : p ∉ rest) :
    table.removeAll (p :: rest) =
      table.remove p >>= fun next => next.removeAll (rest.map (indexWithout [p])) := by
  have later : rest.mapIdx (fun turn q => indexWithout ((p :: rest).take (turn + 1)) q) =
      (rest.map (indexWithout [p])).mapIdx fun turn q =>
        indexWithout ((rest.map (indexWithout [p])).take turn) q := by
    refine List.ext_getElem (by simp) fun turn inside _ => ?_
    have listed : turn < rest.length := by simpa using inside
    have stays : rest[turn] ≠ p := fun same => fresh (same ▸ List.getElem_mem listed)
    simp only [List.getElem_mapIdx, List.getElem_map, List.take_succ_cons, ← List.map_take]
    exact indexWithout_cons stays fun early => fresh (List.mem_of_mem_take early)
  rw [removeAll, List.mapIdx_cons, later]
  rfl

/-- A table is another one without the column at `p`: every other column has the name, the
information and the cells that it had, and of two columns the same stands first. -/
structure LosesColumn (table : Table) (p : Nat) (next : Table) : Prop where
  name : ∀ q, q ≠ p → next.columns[indexWithout [p] q]? = table.columns[q]?
  info : ∀ q, q ≠ p → next.info[indexWithout [p] q]? = table.info[q]?
  cells : ∀ q, q ≠ p → next.rows.map (·[indexWithout [p] q]?) = table.rows.map (·[q]?)
  order : ∀ q r, q ≠ p → r ≠ p → (indexWithout [p] q < indexWithout [p] r ↔ q < r)
  narrower : next.columns.length + 1 = table.columns.length

theorem dropColumn_loses (inside : p < table.columns.length) :
    LosesColumn table p (table.dropColumn p) where
  name := fun q stays => getElem?_eraseIdx_indexWithout _ stays
  info := fun q stays => getElem?_eraseIdx_indexWithout _ stays
  cells := by
    intro q stays
    rw [dropColumn_rows, List.map_map]
    exact List.map_congr_left fun row _ => getElem?_eraseIdx_indexWithout row stays
  order := fun q r first second => indexWithout_lt_iff first second
  narrower := by
    rw [dropColumn_columns, List.length_eraseIdx_of_lt inside]
    omega

theorem remove_outside {index : Int} (outside : index < 0 ∨ table.columns.length ≤ index) :
    table.remove index = .error (.noSuchColumn index) := by
  apply if_neg
  omega

theorem lt_of_info {info : ColumnInfo} (here : table.info[p]? = some info) :
    p < table.columns.length := by
  rw [← table.aligned]
  exact (List.getElem?_eq_some_iff.mp here).1

theorem remove_at {info : ColumnInfo} (here : table.info[p]? = some info) :
    table.remove p = if info.isCalculated then .ok (table.dropColumn p)
      else .error (.notCalculated info.name) := by
  have inside := lt_of_info here
  rw [remove, if_pos ⟨by omega, by omega⟩, Int.toNat_natCast, here]

theorem rows_take_width (table : Table) :
    table.rows.map (List.take table.columns.length) = table.rows := by
  refine (List.map_congr_left fun row among => ?_).trans (List.map_id _)
  exact List.take_of_length_le (table.rectangular row among).le

/-- A table that comes from another by calculated columns that were added at its end. -/
structure Grown (base : Table) (added : List ColumnInfo) (table : Table) : Prop where
  columns : table.columns = base.columns ++ added.map ColumnInfo.name
  info : table.info = base.info ++ added
  cells : table.rows.map (List.take base.columns.length) = base.rows
  calculated : ∀ info ∈ added, info.isCalculated = true

namespace Grown

variable {added : List ColumnInfo}

theorem refl (base : Table) : Grown base [] base where
  columns := (List.append_nil _).symm
  info := (List.append_nil _).symm
  cells := rows_take_width base
  calculated := fun _ none => nomatch none

theorem eq_base (grown : Grown base [] table) : table = base := by
  have columns : table.columns = base.columns := grown.columns.trans (List.append_nil _)
  have rows : table.rows = base.rows := by
    rw [← grown.cells, ← columns, rows_take_width]
  exact eq_of_parts columns rows (grown.info.trans (List.append_nil _))

theorem materialize {registry : Registry} {name formula : String} (grown : Grown base added table)
    (done : table.materialize registry name formula = .ok next) :
    ∃ info, info.name = Text.trim name ∧ Grown base (added ++ [info]) next := by
  obtain ⟨field, compiled, -, named, -, -, rfl⟩ := materialize_cases done
  refine ⟨.calculated field.name field.formula field.formula_ne, named, ?_, ?_, ?_, ?_⟩
  · simp [grown.columns, ColumnInfo.calculated]
  · simp [grown.info]
  · refine (extend_front ?_).trans grown.cells
    rw [grown.columns, List.length_append]
    exact Nat.le_add_right ..
  · intro info among
    rcases List.mem_append.mp among with earlier | new
    · exact grown.calculated info earlier
    · cases List.mem_singleton.mp new
      rfl

theorem addAll {additions : List Addition} (done : start.addAll additions = .ok last) :
    ∃ added, Grown start added last ∧
      added.map ColumnInfo.name = additions.map fun a => Text.trim a.name := by
  -- The induction is on the additions from the last one, since each builds on all before it.
  induction additions using List.reverseRecOn generalizing last with
  | nil =>
      cases done
      exact ⟨[], .refl start, rfl⟩
  | append_singleton earlier a ih =>
      rw [Table.addAll, List.foldlM_append] at done
      obtain ⟨table, before, now⟩ := bind_ok_iff.mp done
      obtain ⟨added, grown, names⟩ := ih before
      simp only [List.foldlM_cons, List.foldlM_nil, bind_pure] at now
      obtain ⟨info, named, grown⟩ := grown.materialize now
      exact ⟨_, grown, by simp [names, named]⟩

/-- One of the added columns can be removed, and the others are still behind the table that they
were added to. -/
theorem remove (grown : Grown base added table) {i : Nat} (inside : i < added.length) :
    ∃ next, table.remove ((base.columns.length + i : Nat) : Int) = .ok next ∧
      Grown base (added.eraseIdx i) next := by
  have width : base.info.length = base.columns.length := base.aligned
  have here : table.info[base.columns.length + i]? = some added[i] := by
    rw [grown.info, ← width, List.getElem?_append_right (Nat.le_add_right ..)]
    simp [inside]
  refine ⟨table.dropColumn (base.columns.length + i), ?_, ?_, ?_, ?_, ?_⟩
  · rw [remove_at here, if_pos (grown.calculated _ (List.getElem_mem inside))]
  · rw [dropColumn_columns, grown.columns, List.eraseIdx_append_of_length_le (Nat.le_add_right ..),
      Nat.add_sub_cancel_left, List.eraseIdx_map]
  · change table.info.eraseIdx _ = _
    rw [grown.info, List.eraseIdx_append_of_length_le (by omega), width, Nat.add_sub_cancel_left]
  · exact (dropColumn_front (Nat.le_add_right ..)).trans grown.cells
  · exact fun info among => grown.calculated info (List.mem_of_mem_eraseIdx among)

/-- All of the added columns can be removed in every order, and then nothing of them is left. -/
theorem removeAll {order : List Nat} (grown : Grown base added table)
    (each : order.Perm (List.range' base.columns.length added.length)) :
    table.removeAll order = .ok base := by
  induction size : added.length generalizing added table order with
  | zero =>
      rw [size] at each
      cases List.length_eq_zero_iff.mp size
      cases each.eq_nil
      exact congrArg Except.ok grown.eq_base
  | succ n ih =>
      rw [size] at each
      cases order with
      | nil => cases each.length_eq
      | cons p rest =>
          have distinct := each.nodup_iff.mpr List.nodup_range'
          have fresh := (List.nodup_cons.mp distinct).1
          have range := List.mem_range'_1.mp (each.mem_iff.mp List.mem_cons_self)
          obtain ⟨i, rfl⟩ := Nat.exists_eq_add_of_le range.1
          have inside : i < added.length := by omega
          obtain ⟨next, removed, shorter⟩ := grown.remove inside
          have fewer : (added.eraseIdx i).length = n := by
            rw [List.length_eraseIdx_of_lt inside, size, Nat.add_sub_cancel]
          rw [removeAll_cons fresh, removed]
          exact ih shorter (fewer ▸ perm_of_cons each) fewer

end Grown

/-- Calculated columns that were added one after another stand at the end in that order. When those
from one of them on are removed, in any order, the table is the one that it was added to. A removal
takes a calculated column and leaves the others as they are; a column of the source stays, and an
index that no column has is refused. -/
theorem removals_undo_additions {additions : List Addition}
    (done : start.addAll additions = .ok last) :
    last.columns = start.columns ++ additions.map (fun added => Text.trim added.name) ∧
      (∀ k ≤ additions.length, ∃ earlier, start.addAll (additions.take k) = .ok earlier ∧
        ∀ order : List Nat,
          order.Perm (List.range' (start.columns.length + k) (additions.length - k)) →
            last.removeAll order = .ok earlier) ∧
      ∀ table : Table,
        (∀ index : Int, index < 0 ∨ table.columns.length ≤ index →
          table.remove index = .error (.noSuchColumn index)) ∧
        ∀ (p : Nat) info, table.info[p]? = some info →
          (info.isCalculated = false → table.remove p = .error (.notCalculated info.name)) ∧
          (info.isCalculated = true → ∃ next, table.remove p = .ok next ∧
            LosesColumn table p next) := by
  refine ⟨?_, ?_, fun table => ⟨fun index => remove_outside, ?_⟩⟩
  · obtain ⟨added, grown, names⟩ := Grown.addAll done
    rw [grown.columns, names]
  · intro k _
    rw [← List.take_append_drop k additions, addAll, List.foldlM_append] at done
    obtain ⟨earlier, first, later⟩ := bind_ok_iff.mp done
    refine ⟨earlier, first, fun order each => ?_⟩
    obtain ⟨before, grown, names⟩ := Grown.addAll first
    obtain ⟨behind, grownLater, namesLater⟩ := Grown.addAll later
    have width : earlier.columns.length = start.columns.length + k := by
      rw [grown.columns, names]
      simp
      omega
    have count : behind.length = additions.length - k := by
      have lengths := congrArg List.length namesLater
      simpa using lengths
    apply grownLater.removeAll
    rwa [width, count]
  · intro p info here
    rw [remove_at here]
    constructor
    · intro plain
      rw [plain]
      rfl
    · intro calculated
      rw [calculated]
      exact ⟨table.dropColumn p, rfl, dropColumn_loses (lt_of_info here)⟩

/-- A copy of a column, a copy of that copy, and the first column once more. -/
def copies : List Addition :=
  [⟨.standard, "a", "k"⟩, ⟨.standard, "b", "a"⟩, ⟨.standard, "c", "k"⟩]

/-- The one in the middle goes first, then the one that it was read from, and the last one then has
the index that this one had. -/
theorem copies_removed_from_middle : ∃ thrice, plainLone.addAll copies = .ok thrice ∧
    thrice.columns = ["k", "a", "b", "c"] ∧ [2, 1, 3].Perm (List.range' 1 3) ∧
      thrice.removeAll [2, 1, 3] = .ok plainLone := by
  have second : copied.materialize .standard "b" "a" = .ok (twoCopies "a" (by decide)) :=
    copied_again (by decide) (by decide +kernel) compile_a (by decide +kernel)
  obtain ⟨thrice, third, columns⟩ : ∃ thrice,
      (twoCopies "a" (by decide)).materialize .standard "c" "k" = .ok thrice ∧
        thrice.columns = ["k", "a", "b", "c"] := by
    have ready : StoredField.Ready ⟨"c", "k", by decide, by decide⟩ :=
      ⟨by decide +kernel, by decide +kernel, _, compile_k⟩
    exact ⟨_, materialize_column ready compile_k (by decide), rfl⟩
  have done : plainLone.addAll copies = .ok thrice := by
    refine bind_ok_iff.mpr ⟨copied, lone_copied, ?_⟩
    refine bind_ok_iff.mpr ⟨twoCopies "a" (by decide), second, ?_⟩
    exact bind_ok_iff.mpr ⟨thrice, third, rfl⟩
  have each : [2, 1, 3].Perm (List.range' 1 3) := by decide
  obtain ⟨-, undone, -⟩ := removals_undo_additions done
  obtain ⟨earlier, unchanged, removed⟩ := undone 0 (Nat.zero_le _)
  cases unchanged
  exact ⟨thrice, done, columns, each, removed [2, 1, 3] each⟩

end Table

end Gridbook
