import Gridbook.Proofs.Column.Inference
import Gridbook.Proofs.Merge.Join
import Gridbook.Proofs.Settings.Replay
import Gridbook.Workbook

/-! # Building tables

Building a merged table looks at the tables that its merge names, at the settings stored for it and
at nothing else that calls change. It gets stuck on a cell whose type cannot be guessed or on a
record that nests too deep; whatever else goes wrong stays with the table.
-/

namespace Gridbook.Workbook

/-- The tables that a merge reads, as they are now. -/
def inputs (w : Workbook) (merge : Merge) : Report (List (String × Source)) :=
  merge.sourceIds.mapM fun source => return (source, ← w.input source)

theorem build_eq (w : Workbook) (id : String) (merge : Merge) :
    w.build id merge = (do
      let inputs ← w.inputs merge
      let table ← merge.run w.inference inputs
      match ← w.store.load id with
      | none => return table
      | some settings => table.replay w.registry settings) := rfl

theorem inputs_congr {v w : Workbook} {merge : Merge}
    (same : ∀ s ∈ merge.sourceIds, v.input s = w.input s) : v.inputs merge = w.inputs merge := by
  unfold inputs
  generalize merge.sourceIds = ids at same ⊢
  induction ids with
  | nil => rfl
  | cons s rest ih =>
      have here := same s List.mem_cons_self
      have others := ih fun t member => same t (List.mem_cons_of_mem s member)
      rw [List.mapM_cons, List.mapM_cons, here, others]

theorem build_congr {v w : Workbook} {merge : Merge} (id : String)
    (inference : v.inference = w.inference) (registry : v.registry = w.registry)
    (store : v.store = w.store) (inputs : ∀ s ∈ merge.sourceIds, v.input s = w.input s) :
    v.build id merge = w.build id merge := by
  rw [build_eq, build_eq, inputs_congr inputs, inference, registry, store]

/-- A table cannot be built, and not for a reason that stays with it: inference stops at a column
of its joined rows, or its stored record nests too deep. -/
inductive Stuck (w : Workbook) (id : String) (merge : Merge) : Prop where
  | untypable (tables : List (String × Source)) (source : Source)
      (read : (w.inputs merge).outcome = .ok tables) (joined : merge.joined tables = .ok source)
      (stops : source.Untypable w.inference)
  | tooDeep (tables : List (String × Source)) (view : Table)
      (read : (w.inputs merge).outcome = .ok tables)
      (ran : merge.run w.inference tables = .ok view) (stops : w.store.TooDeep id)

theorem input_confined (w : Workbook) (id : String) : ¬ Escapes (w.input id) := by
  unfold input
  split <;> simp [Fault.isConfined]

theorem inputs_confined (w : Workbook) (merge : Merge) : ¬ Escapes (w.inputs merge).outcome := by
  refine Escapes.report_not_mapM _ fun id => ?_
  exact Escapes.report_not_bind (w.input_confined id) fun _ => Escapes.report_pure _

theorem run_escapes_iff {merge : Merge} {inference : Inference} {tables : List (String × Source)} :
    Escapes (merge.run inference tables) ↔
      ∃ source, merge.joined tables = .ok source ∧ source.Untypable inference := by
  rw [Merge.run, Escapes.bind]
  simp only [Table.ofSource_escapes_iff]
  exact or_iff_right (merge.joined_confined tables)

theorem build_escapes_iff {w : Workbook} {id : String} {merge : Merge} :
    Escapes (w.build id merge).outcome ↔ w.Stuck id merge := by
  have stored (view : Table) : Escapes (do
      match ← w.store.load id with
      | none => return view
      | some settings => view.replay w.registry settings : Report Table).outcome ↔
      w.store.TooDeep id := by
    rw [Escapes.report_bind, Store.load_escapes_iff]
    refine or_iff_left ?_
    rintro ⟨settings?, -, there⟩
    cases settings? with
    | none => exact Escapes.report_pure _ there
    | some settings => exact view.replay_confined w.registry settings there
  rw [build_eq, Escapes.report_bind]
  constructor
  · rintro (inReading | ⟨tables, read, later⟩)
    · exact absurd inReading (w.inputs_confined merge)
    rw [Escapes.report_bind] at later
    rcases later with inRun | ⟨view, ran, later⟩
    · obtain ⟨source, joined, stops⟩ := run_escapes_iff.mp inRun
      exact .untypable tables source read joined stops
    · exact .tooDeep tables view read ran ((stored view).mp later)
  · intro stuck
    cases stuck with
    | untypable tables source read joined stops =>
        refine .inr ⟨tables, read, ?_⟩
        rw [Escapes.report_bind]
        exact .inl (run_escapes_iff.mpr ⟨source, joined, stops⟩)
    | tooDeep tables view read ran stops =>
        refine .inr ⟨tables, read, ?_⟩
        rw [Escapes.report_bind]
        exact .inr ⟨view, ran, (stored view).mpr stops⟩

end Gridbook.Workbook
