import Gridbook.Proofs.Graph.Reach
import Gridbook.Workbook.Cascade

/-! # Turns of a cascade

When its turn comes, a table is skipped, found to differ from its sources, rebuilt or left with a
fault. A cascade is a run of such turns, and what every turn preserves the whole cascade preserves.
-/

namespace Gridbook.Cascade

/-- No table from which this one is built was left as it was. -/
def Clear (c : Cascade) (table : String) : Prop :=
  ∀ source, c.workbook.graph.Edge source table → source ∉ c.blocked

/-- No source of a table has other headers than those it was built with. -/
def Matching (c : Cascade) (table : String) : Prop :=
  ∀ source, c.workbook.graph.Edge source table → c.mismatchWith? table source = none

/-- The mismatch with the first source, by name, that has other headers. -/
def FirstMismatch (c : Cascade) (table : String) (mismatch : HeaderMismatch) : Prop :=
  ∃ source, c.workbook.graph.Edge source table ∧ c.mismatchWith? table source = some mismatch ∧
    ∀ other, c.workbook.graph.Edge other table → other < source →
      c.mismatchWith? table other = none

/-- Everything that may come of the turn of a table. -/
inductive Turn (c : Cascade) (table : String) : Cascade → Option Fault → Prop where
  | skipped (stale : List String)
      (members : ∀ s, s ∈ stale ↔ c.workbook.graph.Edge s table ∧ s ∈ c.blocked)
      (left : ¬ c.Clear table) :
      Turn c table (c.block table (.skipped stale) []) none
  | mismatched (mismatch : HeaderMismatch) (clear : c.Clear table)
      (first : c.FirstMismatch table mismatch) :
      Turn c table (c.block table (.mismatched mismatch) [.headerMismatch mismatch]) none
  | updated (merge : Merge) (view : Table) (notices : List Notice) (clear : c.Clear table)
      (same : c.Matching table) (known : c.workbook.merges.lookup table = some merge)
      (rebuilt : c.workbook.build table merge = ⟨notices, .ok view⟩) :
      Turn c table (c.accept table view notices) none
  | failed (fault : Fault) (notices : List Notice) (clear : c.Clear table)
      (same : c.Matching table) (stopped : c.build table = ⟨notices, .error fault⟩)
      (confined : fault.isConfined = true) :
      Turn c table
        (c.block table (.failed fault) (notices ++ [.rebuildFailed table fault])) none
  | escaped (fault : Fault) (notices : List Notice) (clear : c.Clear table)
      (same : c.Matching table) (stopped : c.build table = ⟨notices, .error fault⟩)
      (unconfined : fault.isConfined = false) :
      Turn c table { c with notices := c.notices ++ notices } (some fault)

theorem clear_iff {c : Cascade} {table : String} :
    c.Clear table ↔
      (Text.sorted (c.workbook.graph.sourcesOf table)).filter c.blocked.contains = [] := by
  simp only [List.filter_eq_nil_iff, Text.mem_sorted, List.contains_eq_mem, decide_eq_true_eq]
  rfl

theorem matching_iff {c : Cascade} {table : String} :
    c.Matching table ↔
      (Text.sorted (c.workbook.graph.sourcesOf table)).findSome? (c.mismatchWith? table) =
        none := by
  simp only [List.findSome?_eq_none_iff, Text.mem_sorted]
  rfl

theorem firstMismatch_of_found {c : Cascade} {table : String} {mismatch : HeaderMismatch}
    (found : (Text.sorted (c.workbook.graph.sourcesOf table)).findSome? (c.mismatchWith? table) =
      some mismatch) : c.FirstMismatch table mismatch := by
  obtain ⟨before, source, after, shape, differs, agree⟩ := List.findSome?_eq_some_iff.mp found
  have ordered := Text.sorted_pairwise (c.workbook.graph.sourcesOf table)
  rw [shape] at ordered
  refine ⟨source, Text.mem_sorted.mp (by simp [shape]), differs, ?_⟩
  intro other edge smaller
  have member : other ∈ before ++ source :: after := shape ▸ Text.mem_sorted.mpr edge
  rcases List.mem_append.mp member with earlier | later
  · exact agree other earlier
  · rcases List.mem_cons.mp later with rfl | later
    · exact absurd smaller (String.lt_irrefl _)
    · have le := (List.pairwise_cons.mp (List.pairwise_append.mp ordered).2.1).1 other later
      exact absurd smaller (String.not_lt.mpr le)

theorem build_ok {c : Cascade} {table : String} {notices : List Notice} {view : Table}
    (built : c.build table = ⟨notices, .ok view⟩) :
    ∃ merge, c.workbook.merges.lookup table = some merge ∧
      c.workbook.build table merge = ⟨notices, .ok view⟩ := by
  unfold build at built
  split at built
  · exact ⟨_, ‹_›, built⟩
  · simp [Report.fail] at built

theorem turn_of_step {c next : Cascade} {table : String} {fault : Option Fault}
    (step : c.step table = (next, fault)) : c.Turn table next fault := by
  unfold Cascade.step at step
  simp only at step
  split at step <;> rename_i stale
  · have clear := clear_iff.mpr stale
    split at step <;> rename_i found
    · cases step
      exact .mismatched _ clear (firstMismatch_of_found found)
    · have same := matching_iff.mpr found
      cases report : c.build table with
      | mk notices outcome =>
          rw [report] at step
          cases outcome with
          | ok view =>
              cases step
              obtain ⟨merge, known, rebuilt⟩ := build_ok report
              exact .updated merge view notices clear same known rebuilt
          | error fault =>
              simp only at step
              split at step <;> rename_i confined
              · cases step
                exact .failed fault notices clear same report confined
              · cases step
                exact .escaped fault notices clear same report (by simpa using confined)
  · cases step
    refine .skipped _ ?_ ?_
    · intro s
      simp [List.mem_filter, Text.mem_sorted, Graph.Edge]
    · exact fun clear => stale (clear_iff.mp clear)

theorem steps_cons {table : String} {rest : List String} {c d : Cascade} :
    steps (table :: rest) c = (d, none) ↔
      ∃ next, c.step table = (next, none) ∧ steps rest next = (d, none) := by
  simp only [steps]
  cases c.step table with
  | mk next fault => cases fault <;> simp

theorem steps_append_of {before after : List String} {c middle : Cascade}
    (first : steps before c = (middle, none)) : steps (before ++ after) c = steps after middle := by
  induction before generalizing c with
  | nil =>
      cases first
      rfl
  | cons table rest ih =>
      obtain ⟨next, step, first⟩ := steps_cons.mp first
      rw [List.cons_append, steps, step]
      exact ih first

theorem steps_append {before after : List String} {c d : Cascade} :
    steps (before ++ after) c = (d, none) ↔
      ∃ middle, steps before c = (middle, none) ∧ steps after middle = (d, none) := by
  induction before generalizing c with
  | nil => simp [steps]
  | cons table rest ih =>
      simp only [List.cons_append, steps_cons, ih]
      constructor
      · rintro ⟨next, turn, middle, first, second⟩
        exact ⟨middle, ⟨next, turn, first⟩, second⟩
      · rintro ⟨middle, ⟨next, turn, first⟩, second⟩
        exact ⟨next, turn, middle, first, second⟩

theorem steps_invariant {P : Cascade → Prop}
    (kept : ∀ c table next fault, P c → c.Turn table next fault → P next) (order : List String)
    {c : Cascade} (start : P c) : P (steps order c).1 := by
  induction order generalizing c with
  | nil => exact start
  | cons table rest ih =>
      cases turn : c.step table with
      | mk next fault =>
          have after := kept c table next fault start (turn_of_step turn)
          simp only [steps, turn]
          cases fault with
          | none => exact ih after
          | some fault => exact after

end Gridbook.Cascade
