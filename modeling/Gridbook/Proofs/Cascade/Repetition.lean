import Mathlib
import Gridbook.Proofs.Cascade.Untouched

/-! # Repeating a cascade

As long as no table is removed, a cascade that is told the headers that a table has brings
everything downstream to rest: the same cascade once more takes every turn in the same way, finds
each view as it would build it and each record of headers as it would make it.
-/

namespace Gridbook

open Relation

namespace Workbook

variable {w : Workbook} {id : String}

theorem setTable_of_lookup {table : Table} (view : w.tables.lookup id = some table) :
    w.setTable id table = w := by
  rw [setTable, Assoc.set_of_lookup view]

theorem recordHeaders_of_lookup {merge : Merge}
    (recorded : ∀ s ∈ merge.sourceIds, w.headers.lookup (id, s) = some (w.headersOf s)) :
    w.recordHeaders id merge = w := by
  have unchanged : merge.sourceIds.foldl
      (fun found s => Assoc.set (id, s) (w.headersOf s) found) w.headers = w.headers := by
    generalize merge.sourceIds = ids at recorded
    induction ids with
    | nil => rfl
    | cons s rest ih =>
        rw [List.foldl_cons, Assoc.set_of_lookup (recorded s List.mem_cons_self)]
        exact ih fun t member => recorded t (List.mem_cons_of_mem _ member)
  rw [recordHeaders, unchanged]

end Workbook

namespace Cascade

variable {c next : Cascade} {table : String} {w : Workbook}

theorem accept_again {view : Table} {notices : List Notice}
    (settled : ({ c with workbook := w }.accept table view notices).workbook = w) :
    { c with workbook := w }.accept table view notices =
      { c.accept table view notices with workbook := w } := by
  unfold accept at settled ⊢
  simp only at settled ⊢
  rw [settled]

/-- A turn goes the same way on another workbook with the same edges if it finds the same
mismatches and builds the same there, and if accepting what it builds changes nothing there. -/
theorem step_again (graph : w.graph = c.workbook.graph)
    (same : ∀ s, c.workbook.graph.Edge s table →
      { c with workbook := w }.mismatchWith? table s = c.mismatchWith? table s)
    (built : { c with workbook := w }.build table = c.build table)
    (settled : ∀ view notices, next = c.accept table view notices →
      ({ c with workbook := w }.accept table view notices).workbook = w)
    (step : c.step table = (next, none)) :
    { c with workbook := w }.step table = ({ next with workbook := w }, none) := by
  have mismatch : (Text.sorted (c.workbook.graph.sourcesOf table)).findSome?
      ({ c with workbook := w }.mismatchWith? table) =
        (Text.sorted (c.workbook.graph.sourcesOf table)).findSome? (c.mismatchWith? table) := by
    rw [← List.head?_filterMap, ← List.head?_filterMap]
    congr 1
    apply List.filterMap_congr
    intro s member
    exact same s (Text.mem_sorted.mp member)
  unfold Cascade.step at step ⊢
  simp only [graph, mismatch, built] at step ⊢
  split at step <;> rename_i stale
  · split at step <;> rename_i found
    · cases step
      rfl
    · cases report : c.build table with
      | mk notices outcome =>
          rw [report] at step
          cases outcome with
          | ok view =>
              cases step
              exact congrArg (·, none) (accept_again (settled view notices rfl))
          | error fault =>
              simp only at step ⊢
              split at step <;> rename_i confined
              · cases step
                rw [if_pos confined]
                rfl
              · cases step
  · cases step
    rfl

end Cascade

namespace Pass

variable {p : Pass} {earlier later : List Outcome} {o : Outcome} {c next : Cascade} {s t : String}

theorem after_sound (sound : p.before.Sound) : p.after.Sound := by
  obtain ⟨-, last, run, workbook, -⟩ := p.exists_run
  rw [← workbook]
  exact Cascade.sound_of_steps (c := Cascade.start p.before p.id p.headers) sound run

theorem after_headersOf_of_left (left : ¬ Outcome.Rebuilt p.result.outcomes s) :
    p.after.headersOf s = p.before.headersOf s := by
  apply Workbook.headersOf_congr
  · rw [p.after_workbook]
  · exact (keeps_of_left left).view

theorem newHeaders_eq (sound : p.before.Sound) (told : p.headers = p.before.headersOf p.id)
    (edge : p.before.graph.Edge s t) : p.newHeaders s = some (p.after.headersOf s) := by
  by_cases changed : s = p.id
  case pos =>
    subst changed
    rw [newHeaders, if_pos rfl, told, after_headersOf_of_left (id_not_rebuilt sound)]
  by_cases rebuilt : Outcome.Rebuilt p.result.outcomes s
  case pos =>
    have derived : Assoc.has s p.after.sources = false := by
      rw [p.after_workbook]
      exact not_source_of_rebuilt sound rebuilt
    have edgeAfter : p.after.graph.Edge s t := by
      rw [p.after_workbook]
      exact edge
    obtain ⟨view, shown⟩ := Assoc.has_iff.mp ((after_sound sound).shown s t edgeAfter)
    rw [newHeaders, if_neg changed, if_pos rebuilt, shown,
      Workbook.headersOf_of_merged derived shown]
    rfl
  case neg => rw [newHeaders, if_neg changed, if_neg rebuilt, after_headersOf_of_left rebuilt]

namespace Moment

/-- What a table reads of its sources at its turn it would read of them in the end. -/
theorem headersOf_eq (sound : p.before.Sound) (moment : Moment p earlier o later c next)
    (edge : p.before.graph.Edge s o.table) : c.workbook.headersOf s = p.after.headersOf s := by
  apply Workbook.headersOf_congr
  · rw [moment.workbook, p.after_workbook]
  · exact (moment.lookup_source sound edge).symm

theorem accepted (moment : Moment p earlier o later c next) (updated : o.isUpdated = true) :
    ∃ merge view notices, c.workbook.merges.lookup o.table = some merge ∧
      next = c.accept o.table view notices := by
  cases moment.turn with
  | skipped stale =>
      have status := moment.status_eq (.skipped stale) rfl
      simp [Outcome.isUpdated, status] at updated
  | mismatched mismatch =>
      have status := moment.status_eq (.mismatched mismatch) rfl
      simp [Outcome.isUpdated, status] at updated
  | failed fault =>
      have status := moment.status_eq (.failed fault) rfl
      simp [Outcome.isUpdated, status] at updated
  | updated merge view notices _ _ known => exact ⟨merge, view, notices, known, rfl⟩

/-- The headers that a rebuilt table takes down are those that its sources have in the end. -/
theorem recorded (sound : p.before.Sound) (moment : Moment p earlier o later c next)
    {merge : Merge} {view : Table} {notices : List Notice}
    (known : c.workbook.merges.lookup o.table = some merge)
    (accepted : next = c.accept o.table view notices) (edge : p.before.graph.Edge s o.table)
    (named : s ∈ merge.sourceIds) :
    p.after.headers.lookup (o.table, s) = some (p.after.headersOf s) := by
  have other : s ≠ o.table := sound.graph.acyclic.ne_of_edge edge
  rw [moment.lookup_headers sound, accepted, Cascade.accept_workbook known,
    Workbook.lookup_recordHeaders, if_pos ⟨rfl, named⟩,
    Workbook.headersOf_setTable_of_ne other, moment.headersOf_eq sound edge]

end Moment

theorem recorded_kept (sound : p.before.Sound) (told : p.headers = p.before.headersOf p.id)
    (edge : p.before.graph.Edge s t) :
    p.after.headers.lookup (t, s) = p.before.headers.lookup (t, s) := by
  by_cases rebuilt : Outcome.Rebuilt p.result.outcomes t
  case neg => exact (keeps_of_left rebuilt).recorded s
  case pos =>
    obtain ⟨o, member, rfl, updated⟩ := rebuilt
    obtain ⟨earlier, later, shape⟩ := List.append_of_mem member
    obtain ⟨c, next, moment⟩ := exists_moment shape
    obtain ⟨merge, view, notices, known, accepted⟩ := moment.accepted updated
    obtain ⟨other, merged, named⟩ := sound.named s o.table edge
    have agree : ¬ p.Differs o.table s := by
      intro differs
      have status := moment.status_eq (.updated view.rows.length) (by rw [accepted]; rfl)
      have verdict := ((moment.verdict sound).updated view.rows.length).mp status
      exact verdict.2.1 ⟨s, differs⟩
    have same : other = merge := by
      rw [moment.workbook, merged] at known
      exact Option.some.inj known
    have before : p.before.headers.lookup (o.table, s) = p.newHeaders s := by
      by_contra differ
      exact agree ⟨edge, differ⟩
    rw [before, newHeaders_eq sound told edge,
      moment.recorded sound known accepted edge (same ▸ named)]

theorem Moment.mismatch_again (sound : p.before.Sound)
    (told : p.headers = p.before.headersOf p.id) (moment : Moment p earlier o later c next)
    (edge : p.before.graph.Edge s o.table) :
    { c with workbook := p.after }.mismatchWith? o.table s = c.mismatchWith? o.table s := by
  have shown : Assoc.has s p.after.tables = Assoc.has s c.workbook.tables := by
    rw [Assoc.has, Assoc.has, moment.lookup_source sound edge]
  have recorded : p.after.headers.lookup (o.table, s) =
      c.workbook.headers.lookup (o.table, s) := by
    rw [recorded_kept sound told edge, moment.lookup_recorded sound]
  have now : { c with workbook := p.after }.headersNow? s = c.headersNow? s := by
    simp only [Cascade.headersNow?, shown, moment.headersOf_eq sound edge]
  rw [Cascade.mismatchWith?, Cascade.mismatchWith?, now, recorded]

theorem Moment.build_again (sound : p.before.Sound) (linked : p.before.Linked)
    (moment : Moment p earlier o later c next) :
    { c with workbook := p.after }.build o.table = c.build o.table := by
  have merges : p.after.merges = c.workbook.merges := by
    rw [moment.workbook, p.after_workbook]
  simp only [Cascade.build, merges]
  cases known : c.workbook.merges.lookup o.table with
  | none => rfl
  | some merge =>
      have merged : p.before.merges.lookup o.table = some merge := by
        rw [← known, moment.workbook]
      apply Workbook.build_congr o.table
      case inputs =>
        intro s named
        exact (moment.input_eq sound (linked o.table merge merged s named)).symm
      all_goals rw [moment.workbook, p.after_workbook]

/-- A rebuilt table is on record in the end as accepting it once more would put it. -/
theorem Moment.accept_again (sound : p.before.Sound) (linked : p.before.Linked)
    (moment : Moment p earlier o later c next) {view : Table} {notices : List Notice}
    (accepted : next = c.accept o.table view notices) :
    ({ c with workbook := p.after }.accept o.table view notices).workbook = p.after := by
  have status := moment.status_eq (.updated view.rows.length) (by rw [accepted]; rfl)
  obtain ⟨merge, -, -, known, -⟩ := moment.accepted (by rw [Outcome.isUpdated, status])
  have merged : p.before.merges.lookup o.table = some merge := by
    rw [← known, moment.workbook]
  have shown : p.after.tables.lookup o.table = some view := by
    rw [moment.lookup_table sound, accepted, Cascade.lookup_accept known]
  have recorded : ∀ s ∈ merge.sourceIds,
      p.after.headers.lookup (o.table, s) = some (p.after.headersOf s) := by
    intro s named
    exact moment.recorded sound known accepted (linked o.table merge merged s named) named
  have final : p.after.merges.lookup o.table = some merge := by
    rw [p.after_workbook, merged]
  rw [Cascade.accept_workbook (c := { c with workbook := p.after }) final]
  rw [Workbook.setTable_of_lookup shown, Workbook.recordHeaders_of_lookup recorded]

/-- However far a cascade came, its repetition on the final workbook comes as far without changing
it. The induction is on the outcomes so far, from the last turn back. -/
theorem steps_again (sound : p.before.Sound) (linked : p.before.Linked)
    (told : p.headers = p.before.headersOf p.id) (shape : p.result.outcomes = earlier ++ later)
    (run : Cascade.steps (earlier.map Outcome.table) (Cascade.start p.before p.id p.headers) =
      (c, none)) :
    Cascade.steps (earlier.map Outcome.table) (Cascade.start p.after p.id p.headers) =
      ({ c with workbook := p.after }, none) := by
  induction earlier using List.reverseRecOn generalizing later c with
  | nil =>
      cases run
      rfl
  | append_singleton earlier o ih =>
      have split : p.result.outcomes = earlier ++ o :: later := by simpa using shape
      obtain ⟨before, next, moment, step⟩ := exists_moment_step split
      have first := ih split moment.first
      rw [List.map_append, Cascade.steps_append_of moment.first, List.map_singleton,
        Cascade.steps, step] at run
      cases run
      have graph : p.after.graph = before.workbook.graph := by
        rw [moment.graph, p.after_workbook]
      have again := Cascade.step_again graph
        (fun s edge => moment.mismatch_again sound told (moment.edge_iff.mp edge))
        (moment.build_again sound linked)
        (fun view notices accepted => moment.accept_again sound linked accepted) step
      rw [List.map_append, Cascade.steps_append_of first, List.map_singleton, Cascade.steps, again]
      rfl

/-- A cascade that was told the headers that its table has gives the same result once more and
leaves the workbook as it is. -/
theorem repetition_changes_nothing (p : Pass)
    (reachable : Workbook.Reachable (fun c => c.removes = false) p.before)
    (told : p.headers = p.before.headersOf p.id) :
    p.after.cascade p.id p.headers = (p.after, ⟨p.notices, .ok p.result⟩) := by
  have sound := reachable.sound
  obtain ⟨found, last, run, workbook, -⟩ := p.exists_run
  have graph : p.after.graph = p.before.graph := by rw [p.after_workbook]
  have known : Assoc.has p.id p.after.tables = true := by
    rw [Assoc.has, (keeps_of_left (id_not_rebuilt sound)).view]
    exact p.known
  have again := steps_again sound reachable.linked told (List.append_nil _).symm run
  rw [← workbook] at again
  have finished := p.finished
  rw [Workbook.cascade_of_steps p.known found run] at finished
  have report := (Prod.mk.inj finished).2
  rw [← workbook] at graph known ⊢
  rw [Workbook.cascade_of_steps known (graph ▸ found) again, graph, report]

/-- A chain that was announced once with the headers it has takes a second announcement. -/
theorem announced_chain_at_rest :
    announced.headers = announced.before.headersOf announced.id ∧
      announced.after.cascade "a" ["k"] = (announced.after, ⟨announced.notices, .ok
        ⟨"a", [⟨"m", .updated 0⟩, ⟨"n", .updated 0⟩], 2⟩⟩) := by
  have told : announced.headers = announced.before.headersOf announced.id := by decide +kernel
  have reachable : Workbook.Reachable (fun c => c.removes = false) announced.before :=
    Workbook.chain_reachable (by simp [Workbook.chainCalls, Call.removes])
  exact ⟨told, repetition_changes_nothing announced reachable told⟩

end Pass

end Gridbook
