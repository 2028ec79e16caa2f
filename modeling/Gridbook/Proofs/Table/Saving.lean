import Mathlib
import Gridbook.Proofs.Table.Reopening

/-! # What saving keeps of a table

Saving keeps the types and formats of the columns of a source and the formulas of the others. As
long as no column is removed and no calculated one gets another type or format, a table is viewed
again as it was saved, cell by cell.
-/

namespace Gridbook

namespace Table

variable {registry : Registry} {table next : Table} {source : Source} {fields : List StoredField}

theorem eq_of_parts (columns : next.columns = table.columns) (rows : next.rows = table.rows)
    (info : next.info = table.info) : next = table := by
  cases next
  cases table
  cases columns
  cases rows
  cases info
  rfl

theorem materialize_column {field : StoredField} {key : String} (ready : field.Ready)
    (read : Formula.compile field.formula = .ok (some (.column key)))
    (fresh : field.name ∉ table.columns) :
    table.materialize registry field.name field.formula =
      .ok (table.addColumn (.calculated field.name field.formula field.formula_ne)
        (table.rows.map fun row => ((Scope.cell? ⟨registry, .ofColumns table.columns, row⟩ key).map
          Cell.normalized).getD .failure)) := by
  rw [materialize_ready ready read fresh, extend]
  simp only [Formula.evaluateCompiled, Formula.evaluate_column]

def lone : Source := ⟨"s", ["k"], [[.int 1]], by decide⟩

def plainLone : Table := ⟨["k"], [[.int 1]], [.plain "k" .number none], by decide, by decide⟩

/-- The view with a calculated column that copies the other. -/
def copied : Table :=
  ⟨["k", "a"], [[.int 1, .int 1]], [.plain "k" .number none, .calculated "a" "k" (by decide)],
    by decide, by decide⟩

theorem lone_view : (lone.view ⟨10, 2025⟩ .standard (.empty .memory)).outcome = .ok plainLone := by
  decide +kernel

theorem compile_k : Formula.compile "k" = .ok (some (.column "k")) :=
  Formula.compile_bare (i := 0) (j := 1) (by decide +kernel) (by decide +kernel) (by decide +kernel)
    (by decide +kernel)

theorem lone_copied : plainLone.materialize .standard "a" "k" = .ok copied := by
  have ready : StoredField.Ready ⟨"a", "k", by decide, by decide⟩ :=
    ⟨by decide +kernel, by decide +kernel, _, compile_k⟩
  exact (materialize_column ready compile_k (by decide)).trans (by decide +kernel)

/-- The columns of a source keep their types and formats when a table is saved and viewed again, and
so do their order and the formulas of calculated columns. Those columns come back as numbers without
a format, which is how they were added, whatever was made of them since. -/
theorem view_of_saved_info {inference : Inference} {store : Store} {start : Table}
    (distinct : source.columns.Nodup)
    (opened : (source.view inference registry store).outcome = .ok start)
    (edited : Edited registry (fun _ e => e.keepsColumns) start table) :
    ∃ kept settings again, (table.save source.id none store).outcome = .ok (kept, settings) ∧
      source.view inference registry kept = pure again ∧ again.columns = table.columns ∧
      again.info = table.info.map ColumnInfo.asAdded := by
  obtain ⟨origins, traced⟩ := edited
  obtain ⟨fields, rooted⟩ := traced.rooted (Rooted.view distinct opened)
  exact rooted.reopen distinct opened

def retyped : Table :=
  copied.setInfo 1 { ColumnInfo.calculated "a" "k" (by decide) with
    type := .text, format := some defaultFormat }

theorem retyped_edited : Edited .standard (fun _ e => e.keepsColumns) plainLone retyped :=
  ⟨_, .edit (e := .setType 1 .text) (.edit (e := .materialize "a" "k") .start rfl lone_copied) rfl
    (by decide +kernel)⟩

theorem retyped_viewed_again :
    lone.columns.Nodup ∧ (lone.view ⟨10, 2025⟩ .standard (.empty .memory)).outcome = .ok plainLone ∧
      Edited .standard (fun _ e => e.keepsColumns) plainLone retyped ∧
      ∃ kept settings again,
        (retyped.save "s" none (.empty .memory)).outcome = .ok (kept, settings) ∧
        lone.view ⟨10, 2025⟩ .standard kept = pure again ∧ again.columns = retyped.columns ∧
        again.info = retyped.info.map ColumnInfo.asAdded :=
  ⟨by decide, lone_view, retyped_edited, view_of_saved_info (by decide) lone_view retyped_edited⟩

/-- Its type is lost: the new view has the copy as numbers. -/
theorem retyped_copy_forgotten :
    lone.columns.Nodup ∧ (lone.view ⟨10, 2025⟩ .standard (.empty .memory)).outcome = .ok plainLone ∧
      Edited .standard (fun _ e => e.keepsColumns) plainLone retyped ∧
      ∃ kept settings again,
        (retyped.save "s" none (.empty .memory)).outcome = .ok (kept, settings) ∧
        lone.view ⟨10, 2025⟩ .standard kept = pure again ∧
        again.info.map (fun info => (info.type, info.format)) ≠
          retyped.info.map fun info => (info.type, info.format) := by
  obtain ⟨origins, traced⟩ := retyped_edited
  obtain ⟨fields, rooted⟩ := traced.rooted (Rooted.view (by decide) lone_view)
  obtain ⟨kept, settings, again, saved, view, -, info⟩ := rooted.reopen (by decide) lone_view
  refine ⟨by decide, lone_view, ⟨origins, traced⟩, kept, settings, again, saved, view, ?_⟩
  rw [info]
  decide

/-- Every calculated column has the type and format with which it was added. -/
def Unstyled (table : Table) : Prop :=
  ∀ info ∈ table.info, info.asAdded = info

namespace Unstyled

theorem extend (unstyled : table.Unstyled) {name formula : String}
    (added : table.materialize registry name formula = .ok next) : next.Unstyled := by
  obtain ⟨field, compiled, -, -, -, -, rfl⟩ := materialize_cases added
  intro info among
  rw [extend_info, List.mem_append, List.mem_singleton] at among
  rcases among with earlier | rfl
  · exact unstyled info earlier
  · rfl

theorem restored (unstyled : table.Unstyled) (settings : Settings) :
    (table.mapInfo (ColumnInfo.restored settings)).Unstyled := by
  intro info among
  obtain ⟨old, present, rfl⟩ := List.mem_map.mp among
  cases calculated : old.isCalculated with
  | true =>
      rw [ColumnInfo.restored, if_pos calculated]
      exact unstyled old present
  | false =>
      refine ColumnInfo.asAdded_of_plain ?_
      rw [ColumnInfo.restored, if_neg (by simp [calculated])]
      split <;> simpa [ColumnInfo.isCalculated] using calculated

theorem view {inference : Inference} {store : Store} {start : Table}
    (opened : (source.view inference registry store).outcome = .ok start) : start.Unstyled := by
  refine view_preserves (P := Unstyled) opened ?_ ?_ ?_
  · intro base made info among
    exact ColumnInfo.asAdded_of_plain ((plain_of_map (ofSource_recipe made)).2 info among)
  · exact fun table settings unstyled => unstyled.restored settings
  · exact fun table next name formula added unstyled => unstyled.extend added

theorem setInfo (unstyled : table.Unstyled) {i : Nat} {info : ColumnInfo}
    (plain : info.formula = none) : (table.setInfo i info).Unstyled := by
  intro other among
  rcases List.mem_or_eq_of_mem_set among with among | rfl
  · exact unstyled other among
  · exact ColumnInfo.asAdded_of_plain plain

theorem edit (unstyled : table.Unstyled) {e : Edit} (fits : e.sparesCalculated table)
    (done : table.edit registry e = .ok next) : next.Unstyled := by
  cases e with
  | materialize name formula => exact unstyled.extend done
  | remove index => exact absurd fits id
  | setType index type =>
      obtain ⟨-, i, info, found, -, rfl⟩ := setType_cases done
      exact unstyled.setInfo (by simpa [ColumnInfo.isCalculated] using fits info found)
  | setFormat index tag =>
      obtain ⟨-, i, info, found, -, rfl⟩ := setFormat_cases done
      exact unstyled.setInfo (by simpa [ColumnInfo.isCalculated] using fits info found)

end Unstyled

/-- Without removals every calculated column goes on being computed from what stands in front. -/
theorem Recalled.edit_before (recalled : Recalled registry table (before table.columns))
    (rooted : Rooted source fields table) {e : Edit} (keeps : e.keepsColumns)
    (done : table.edit registry e = .ok next) :
    Recalled registry next (before next.columns) := by
  cases e with
  | materialize name formula => exact recalled.extend_before rooted done
  | remove index => cases keeps
  | setType index type =>
      have restyled := (setType_cases done).1
      exact restyled.columns ▸ recalled.restyle restyled
  | setFormat index tag =>
      have restyled := (setFormat_cases done).1
      exact restyled.columns ▸ recalled.restyle restyled

theorem Edit.keepsColumns_of_spares {e : Edit} (fits : e.sparesCalculated table) :
    e.keepsColumns = true := by
  cases e with
  | remove index => exact absurd fits id
  | _ => rfl

/-- A table that comes from the view of a source by adding calculated columns and by changing types
and formats of other columns is what a new view gives after the table was saved. -/
theorem view_of_saved {inference : Inference} {store : Store} {start : Table}
    (distinct : source.columns.Nodup)
    (opened : (source.view inference registry store).outcome = .ok start)
    (edited : Edited registry (fun table e => e.sparesCalculated table) start table) :
    ∃ kept settings, (table.save source.id none store).outcome = .ok (kept, settings) ∧
      source.view inference registry kept = pure table := by
  obtain ⟨origins, traced⟩ := edited
  have rooted := Rooted.view distinct opened
  have both : Recalled registry table (before table.columns) ∧ table.Unstyled := by
    induction traced with
    | start => exact ⟨.view distinct opened, .view opened⟩
    | edit earlier fits done ih =>
        obtain ⟨recalled, unstyled⟩ := ih
        obtain ⟨fields, rooted⟩ := earlier.rooted rooted
        exact ⟨recalled.edit_before rooted (Edit.keepsColumns_of_spares fits) done,
          unstyled.edit fits done⟩
  obtain ⟨fields, rooted⟩ := traced.rooted rooted
  obtain ⟨kept, settings, again, saved, view, columns, info⟩ := rooted.reopen distinct opened
  refine ⟨kept, settings, saved, ?_⟩
  have viewed : (source.view inference registry kept).outcome = .ok again :=
    congrArg Report.outcome view
  obtain ⟨others, rootedAgain⟩ := Rooted.view distinct viewed
  have recipe := recipe_of_asAdded info
  have info : again.info = table.info := info.trans ((List.map_congr_left both.2).trans (by simp))
  have rows := both.1.same_rows rooted (.view distinct viewed) columns recipe rootedAgain.rows
  rw [view, eq_of_parts columns rows info]

/-- The other column counts as an amount: the edits are kept, and so is the copy. -/
def priced : Table :=
  copied.setInfo 0 { ColumnInfo.plain "k" .number none with
    type := .currency, format := some defaultFormat }

theorem priced_viewed_again :
    lone.columns.Nodup ∧ (lone.view ⟨10, 2025⟩ .standard (.empty .memory)).outcome = .ok plainLone ∧
      Edited .standard (fun table e => e.sparesCalculated table) plainLone priced ∧
      ∃ kept settings, (priced.save "s" none (.empty .memory)).outcome = .ok (kept, settings) ∧
        lone.view ⟨10, 2025⟩ .standard kept = pure priced := by
  have spares : Edit.sparesCalculated copied (.setType 0 .currency) := by
    intro info found
    have plain : copied.infoAt 0 = .ok (.plain "k" .number none) := by decide
    cases found.symm.trans plain
    rfl
  have typed : copied.edit .standard (.setType 0 .currency) = .ok priced := by decide +kernel
  have edited : Edited .standard (fun table e => e.sparesCalculated table) plainLone priced :=
    ⟨_, .edit (.edit (e := .materialize "a" "k") .start trivial lone_copied) spares typed⟩
  exact ⟨by decide, lone_view, edited, view_of_saved (by decide) lone_view edited⟩

end Table

end Gridbook
