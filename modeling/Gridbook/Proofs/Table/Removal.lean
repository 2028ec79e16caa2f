import Mathlib
import Gridbook.Proofs.Table.Saving

/-! # Viewing again what was saved after removals

What is stored of a calculated column is its formula, not its cells, and nothing stops the removal
of a column that others read. So a column that read a removed one is computed from less when the
table is viewed again, and so is what reads it in turn. All others come back with their cells.
-/

namespace Gridbook

namespace Table

variable {registry : Registry} {table : Table} {source : Source}

/-- A column that reads no removed one, neither itself nor through columns that it reads, has the
same cells when the table is saved and viewed again. -/
theorem view_of_saved_spared {inference : Inference} {store : Store} {start : Table}
    {origins : String → List String} (distinct : source.columns.Nodup)
    (opened : (source.view inference registry store).outcome = .ok start)
    (traced : Traced registry (fun _ e => e.changesColumns) start table origins) :
    ∃ kept settings again, (table.save source.id none store).outcome = .ok (kept, settings) ∧
      source.view inference registry kept = pure again ∧ again.columns = table.columns ∧
      ∀ (i : Nat) name, table.columns[i]? = some name → ¬ Bereft table origins name →
        again.rows.map (·[i]?) = table.rows.map (·[i]?) := by
  obtain ⟨fields, rooted⟩ := traced.rooted (Rooted.view distinct opened)
  have recalled := traced.recalled (Rooted.view distinct opened) (.view distinct opened)
  obtain ⟨kept, settings, again, saved, view, columns, info⟩ := rooted.reopen distinct opened
  refine ⟨kept, settings, again, saved, view, columns, ?_⟩
  have viewed : (source.view inference registry kept).outcome = .ok again :=
    congrArg Report.outcome view
  obtain ⟨others, rootedAgain⟩ := Rooted.view distinct viewed
  intro i name here spared
  exact recalled.same_cells rooted (.view distinct viewed) columns (recipe_of_asAdded info)
    rootedAgain.rows here spared

/-- The only column of a table, a copy of it and a copy of one of the two. -/
def twoCopies (key : String) (given : key ≠ "") : Table :=
  ⟨["k", "a", "b"], [[.int 1, .int 1, .int 1]], copied.info ++ [.calculated "b" key given], rfl,
    by decide⟩

def lastCopy (key : String) (given : key ≠ "") : Table :=
  (twoCopies key given).dropColumn 1

/-- The columns that stood there when each of the copies was added. -/
def copyOrigins : String → List String :=
  Function.update (Function.update (before ["k"]) "a" ["k"]) "b" ["k", "a"]

theorem compile_a : Formula.compile "a" = .ok (some (.column "a")) :=
  Formula.compile_bare (i := 0) (j := 1) (by decide +kernel) (by decide +kernel) (by decide +kernel)
    (by decide +kernel)

theorem copied_again {key : String} (given : key ≠ "") (trimmed : Text.trim key = key)
    (read : Formula.compile key = .ok (some (.column key)))
    (value : Scope.cell? ⟨.standard, .ofColumns ["k", "a"], [.int 1, .int 1]⟩ key = some (.int 1)) :
    copied.materialize .standard "b" key = .ok (twoCopies key given) := by
  have named : Text.trim "b" = "b" := by decide +kernel
  have fresh : "b" ∉ copied.columns := by decide
  have ready : StoredField.Ready ⟨"b", key, by decide, given⟩ := ⟨named, trimmed, _, read⟩
  refine (materialize_column ready read fresh).trans (congrArg Except.ok ?_)
  refine eq_of_parts rfl ?_ rfl
  simp [addColumn, copied, twoCopies, value, Cell.normalized]

theorem lastCopy_traced {key : String} {given : key ≠ ""}
    (again : copied.materialize .standard "b" key = .ok (twoCopies key given)) :
    Traced .standard (fun _ e => e.changesColumns) plainLone (lastCopy key given) copyOrigins := by
  have a : Text.trim "a" = "a" := by decide +kernel
  have b : Text.trim "b" = "b" := by decide +kernel
  have first : Traced .standard (fun _ e => e.changesColumns) plainLone copied
      (Function.update (before ["k"]) "a" ["k"]) := by
    have initial : Traced .standard (fun _ e => e.changesColumns) plainLone plainLone
        (before ["k"]) := .start
    have added := initial.edit (e := .materialize "a" "k") rfl lone_copied
    rwa [Edit.origins, a] at added
  have second : Traced .standard (fun _ e => e.changesColumns) plainLone (twoCopies key given)
      copyOrigins := by
    have added := first.edit (e := .materialize "b" key) rfl again
    rwa [Edit.origins, b] at added
  exact second.edit (e := .remove 1) rfl rfl

theorem lastCopy_reads {name column : String}
    (reads : (lastCopy "k" (by decide)).Reads copyOrigins name column) :
    name = "b" ∧ column = "k" := by
  obtain ⟨text, formula, key, entry, read, named, stands⟩ := reads
  have recipe : (lastCopy "k" (by decide)).recipe = [("k", none), ("b", some "k")] := rfl
  obtain ⟨rfl, rfl⟩ : name = "b" ∧ text = "k" := by simpa [recipe] using entry
  cases compile_k.symm.trans read
  obtain rfl : key = "k" := by simpa [Formula.mem_columns, Formula.nodes] using named
  have known : ColumnLookup.column? (copyOrigins "b") "k" = some "k" := by decide +kernel
  exact ⟨rfl, Option.some.inj (stands.symm.trans known)⟩

/-- A copy of the column of the source does not miss the other copy. -/
theorem spared_copy_viewed_again :
    lone.columns.Nodup ∧ (lone.view ⟨10, 2025⟩ .standard (.empty .memory)).outcome = .ok plainLone ∧
      Traced .standard (fun _ e => e.changesColumns) plainLone (lastCopy "k" (by decide))
        copyOrigins ∧
      ¬ Bereft (lastCopy "k" (by decide)) copyOrigins "b" ∧
      ∃ kept settings again, ((lastCopy "k" (by decide)).save "s" none (.empty .memory)).outcome =
          .ok (kept, settings) ∧ lone.view ⟨10, 2025⟩ .standard kept = pure again ∧
        again.columns = ["k", "b"] ∧ again.rows.map (·[1]?) = [some (.int 1)] := by
  have twice : copied.materialize .standard "b" "k" = .ok (twoCopies "k" (by decide)) :=
    copied_again (by decide) (by decide +kernel) compile_k (by decide +kernel)
  have traced := lastCopy_traced twice
  have spared : ¬ Bereft (lastCopy "k" (by decide)) copyOrigins "b" := by
    intro bereft
    cases bereft with
    | removed reads gone =>
        obtain ⟨-, rfl⟩ := lastCopy_reads reads
        exact gone (by decide)
    | through reads bereft =>
        obtain ⟨-, rfl⟩ := lastCopy_reads reads
        cases bereft with
        | removed reads gone => exact absurd (lastCopy_reads reads).1 (by decide)
        | through reads bereft => exact absurd (lastCopy_reads reads).1 (by decide)
  obtain ⟨kept, settings, again, saved, view, columns, cells⟩ :=
    view_of_saved_spared (by decide) lone_view traced
  exact ⟨by decide, lone_view, traced, spared, kept, settings, again, saved, view, columns,
    cells 1 "b" rfl spared⟩

/-- A copy of the other copy is lost with it. -/
theorem severed_copy_fails :
    lone.columns.Nodup ∧ (lone.view ⟨10, 2025⟩ .standard (.empty .memory)).outcome = .ok plainLone ∧
      Edited .standard (fun _ e => e.changesColumns) plainLone (lastCopy "a" (by decide)) ∧
      (lastCopy "a" (by decide)).rows.map (·[1]?) = [some (.int 1)] ∧
      ∃ kept settings again, ((lastCopy "a" (by decide)).save "s" none (.empty .memory)).outcome =
          .ok (kept, settings) ∧ lone.view ⟨10, 2025⟩ .standard kept = pure again ∧
        again.columns = ["k", "b"] ∧ again.rows.map (·[1]?) = [some .failure] := by
  have twice : copied.materialize .standard "b" "a" = .ok (twoCopies "a" (by decide)) :=
    copied_again (by decide) (by decide +kernel) compile_a (by decide +kernel)
  have traced := lastCopy_traced twice
  obtain ⟨fields, rooted⟩ := traced.rooted (Rooted.view (by decide) lone_view)
  obtain ⟨kept, settings, again, saved, view, columns, info⟩ := rooted.reopen (by decide) lone_view
  have columns : again.columns = ["k", "b"] := columns
  have viewed : (lone.view ⟨10, 2025⟩ .standard kept).outcome = .ok again :=
    congrArg Report.outcome view
  have recalled : Recalled .standard again (before again.columns) := .view (by decide) viewed
  obtain ⟨others, rootedAgain⟩ := Rooted.view (by decide) viewed
  have entry : ("b", some "a") ∈ again.recipe := by
    rw [recipe_of_asAdded info]
    exact List.mem_cons_of_mem _ List.mem_cons_self
  obtain ⟨-, -, compiled, read, cells⟩ := recalled "b" "a" entry
  cases compile_a.symm.trans read
  -- In the new view no column goes by the name that the formula reads.
  have each : ∀ row ∈ again.rows, row[1]? = some .failure := by
    intro row among
    obtain ⟨old, -, -, value⟩ := cells row among
    have unknown : (ColumnLookup.ofColumns (before ["k", "b"] "b")).index? "a" = none := by
      decide +kernel
    rw [columns, Formula.evaluateCompiled, Formula.evaluate_column, Scope.cell?, unknown] at value
    exact value
  have single : again.rows.length = 1 := by
    have rows := congrArg List.length rootedAgain.rows
    rwa [List.length_map] at rows
  obtain ⟨row, rows⟩ := List.length_eq_one_iff.mp single
  refine ⟨by decide, lone_view, ⟨_, traced⟩, rfl, kept, settings, again, saved, view, columns, ?_⟩
  rw [rows, List.map_singleton, each row (rows ▸ List.mem_singleton_self row)]

end Table

end Gridbook
