import Mathlib
import Gridbook.Proofs.Table.Saving

/-! # How tables are laid out

Whatever is done to the view of a source, its columns stay in front with their cells, and behind
them stand calculated columns, each with a name that no other column has. The columns of the source
may share a name.
-/

namespace Gridbook

namespace Table

variable {table next start : Table} {source : Source} {fields : List StoredField}

/-- A table comes from another by edits and by taking over stored settings, each with functions of
its own. -/
inductive Developed (start : Table) : Table → Prop where
  | start : Developed start start
  | edit {registry : Registry} {table next : Table} {e : Edit} (earlier : Developed start table)
      (done : table.edit registry e = .ok next) : Developed start next
  | replay {registry : Registry} {settings : Settings} {table next : Table}
      (earlier : Developed start table)
      (done : (table.replay registry settings).outcome = .ok next) : Developed start next

/-- The columns of a table, what is known about them and its rows fit together; the columns of the
source stand in front as they are delivered, and only calculated ones behind them. -/
structure Laid (source : Source) (table : Table) : Prop where
  names : table.info.map ColumnInfo.name = table.columns
  even : ∀ row ∈ table.rows, row.length = table.columns.length
  front : table.columns.take source.columns.length = source.columns
  plain : ∀ info ∈ table.info.take source.columns.length,
    info.isCalculated = false ∧ info.formula = none
  cells : table.rows.map (List.take source.columns.length) = source.rows
  calculated : ∀ info ∈ table.info.drop source.columns.length, info.isCalculated = true ∧
    (info.name ≠ "" ∧ Text.trim info.name = info.name ∧ table.columns.count info.name = 1) ∧
    ∃ formula, info.formula = some formula ∧ formula ≠ "" ∧ Text.trim formula = formula

/-- Stored settings, too, leave the columns of the source and their cells. -/
theorem Based.replay {registry : Registry} {settings : Settings} (based : Based source fields table)
    (done : (table.replay registry settings).outcome = .ok next) :
    ∃ fields, Based source fields next := by
  rw [replay_outcome] at done
  refine foldlM_preserves (P := fun table => ∃ fields, Based source fields table) ?_ done
    ⟨fields, based.restyle (mapInfo_restyled settings)⟩
  rintro table next name formula added ⟨fields, based⟩
  exact based.edit (e := .materialize name formula) added

theorem Developed.based (developed : Developed start table)
    (based : ∃ fields, Based source fields start) : ∃ fields, Based source fields table := by
  induction developed with
  | start => exact based
  | edit earlier done ih =>
      obtain ⟨fields, based⟩ := ih
      exact based.edit done
  | replay earlier done ih =>
      obtain ⟨fields, based⟩ := ih
      exact based.replay done

theorem Based.names (based : Based source fields table) :
    table.info.map ColumnInfo.name = table.columns := by
  have firsts := congrArg (List.map Prod.fst) based.recipe
  rw [Table.recipe, List.map_map] at firsts
  simpa [based.columns, Function.comp_def] using firsts

theorem Based.laid (based : Based source fields table) : Laid source table := by
  obtain ⟨plain, calculated, shape, front, behind⟩ := based.info
  obtain ⟨names, formulas⟩ := plain_of_map front
  have width : plain.length = source.columns.length := by
    rw [← names, List.length_map]
  refine ⟨based.names, table.rectangular, ?_, ?_, based.rows, ?_⟩
  · rw [based.columns, List.take_left]
  · rw [shape, ← width, List.take_left]
    intro info among
    have none := formulas info among
    exact ⟨by rw [ColumnInfo.isCalculated, none]; rfl, none⟩
  · rw [shape, ← width, List.drop_left]
    intro info among
    have kind := List.mem_map_of_mem (f := fun info => (info.name, info.formula)) among
    rw [behind] at kind
    obtain ⟨field, inFields, same⟩ := List.mem_map.mp kind
    obtain ⟨name, formula⟩ := Prod.mk.inj same
    have ready := based.ready field inFields
    rw [← name, ColumnInfo.isCalculated, ← formula]
    exact ⟨rfl, ⟨field.name_ne, ready.name, based.alone field inFields⟩, field.formula, rfl,
      field.formula_ne, ready.formula⟩

/-- Every table that comes from the view of a source, by any edits and any stored settings in any
order, is laid out so. -/
theorem laid_of_developed {inference : Inference} (made : ofSource inference source = .ok start)
    (developed : Developed start table) : Laid source table := by
  obtain ⟨fields, based⟩ := developed.based ⟨[], .ofSource made⟩
  exact based.laid

/-- A source of two columns with one name. -/
def twin : Source := ⟨"s", ["k", "k"], [[.int 1, .float .half]], by decide⟩

def plainTwin : Table :=
  ⟨twin.columns, twin.rows, [.plain "k" .number none, .plain "k" .number none], by decide,
    by decide⟩

/-- The view with a calculated column, which copies the last one with that name. -/
def copiedTwin : Table :=
  ⟨["k", "k", "a"], [[.int 1, .float .half, .float .half]], plainTwin.info ++ copied.info.tail, rfl,
    by decide⟩

/-- Settings in which the columns count as amounts, with a field that has the name of the copy. -/
def pricedTwin : Settings :=
  { Settings.empty with
    columns := [⟨"k", .currency, none⟩], fields := [⟨"a", "1", by decide, by decide⟩] }

theorem twin_copied : plainTwin.materialize .standard "a" "k" = .ok copiedTwin := by
  have ready : StoredField.Ready ⟨"a", "k", by decide, by decide⟩ :=
    ⟨by decide +kernel, by decide +kernel, _, compile_k⟩
  exact (materialize_column ready compile_k (by decide)).trans (by decide +kernel)

/-- A copy is added, the settings are taken over, and the copy is made text by its index from the
end. -/
theorem retyped_twin_laid : ∃ start table, ofSource ⟨10, 2025⟩ twin = .ok start ∧
    Developed start table ∧ Laid twin table ∧ table.columns = ["k", "k", "a"] ∧
      table.info.map ColumnInfo.type = [.currency, .currency, .text] := by
  have made : ofSource ⟨10, 2025⟩ twin = .ok plainTwin := by decide +kernel
  have added : Developed plainTwin copiedTwin :=
    .edit (e := .materialize "a" "k") .start twin_copied
  obtain ⟨priced, taken, shape⟩ : ∃ table,
      (copiedTwin.replay .standard pricedTwin).outcome = .ok table ∧
      (∃ next, table.edit .standard (.setType (-1) .text) = .ok next ∧
        next.columns = ["k", "k", "a"] ∧
        next.info.map ColumnInfo.type = [.currency, .currency, .text]) :=
    ⟨_, rfl, _, rfl, rfl, rfl⟩
  obtain ⟨table, retyped, columns, types⟩ := shape
  have developed : Developed plainTwin table := .edit (.replay added taken) retyped
  exact ⟨_, table, made, developed, laid_of_developed made developed, columns, types⟩

end Table

end Gridbook
