import Mathlib
import Gridbook.Proofs.Cascade.Pass
import Gridbook.Proofs.Workbook.Build

/-! # Settled views

As long as no table is removed, every table that a merge names is known to the graph, so a cascade
rebuilds a merged table only behind everything it reads. The view of a rebuilt table is then the
one that building it once more would give.
-/

namespace Gridbook

namespace Workbook

/-- Every table that a merge names stands before the merged table. -/
def Linked (w : Workbook) : Prop :=
  ∀ d merge, w.merges.lookup d = some merge → ∀ s ∈ merge.sourceIds, w.graph.Edge s d

theorem Linked.adopt {w : Workbook} (linked : w.Linked) (id : String) (merge : Merge)
    (table : Table) : (w.adopt id merge table).Linked := by
  intro d other merged s member
  rw [lookup_merges_adopt] at merged
  rw [edge_adopt]
  by_cases own : d = id
  · rw [if_pos (by simpa using own)] at merged
    cases merged
    exact .inr ⟨member, own⟩
  · rw [if_neg (by simpa using own)] at merged
    exact .inl ⟨linked d other merged s member, own⟩

theorem Linked.move {w w' : Workbook} (linked : w.Linked) (move : Move w w') : w'.Linked := by
  have moves : Moves w w' := .single move
  intro d merge merged s member
  rw [moves.merges] at merged
  rw [moves.graph]
  exact linked d merge merged s member

theorem Reachable.linked {w : Workbook}
    (reachable : Reachable (fun c => c.removes = false) w) : w.Linked := by
  refine reachable.invariant ?start ?move ?adopt ?remove
  case start =>
    intro inference registry store d merge merged
    simp [Workbook.empty] at merged
  case move => exact fun _ _ linked move => linked.move move
  case adopt => exact fun _ id merge table linked _ _ => linked.adopt id merge table
  case remove =>
    intro w id permitted
    simp [Call.removes] at permitted

end Workbook

namespace Pass

theorem after_workbook (p : Pass) :
    p.after = { p.before with tables := p.after.tables, headers := p.after.headers } := by
  obtain ⟨-, last, run, workbook, -⟩ := p.exists_run
  rw [← workbook]
  exact (Cascade.frame_of_steps run).workbook

variable {p : Pass} {earlier later : List Outcome} {o : Outcome} {c next : Cascade}

theorem Moment.input_eq (sound : p.before.Sound) (moment : Moment p earlier o later c next)
    {s : String} (edge : p.before.graph.Edge s o.table) :
    c.workbook.input s = p.after.input s := by
  have view := moment.lookup_source sound edge
  have sources : c.workbook.sources = p.after.sources := by
    rw [moment.workbook, p.after_workbook]
  rw [Workbook.input, Workbook.input, view, sources]

/-- A rebuilt table shows what building it once more would give, and nothing that it reads has
changed since its turn. -/
theorem rebuilt_settled (p : Pass)
    (reachable : Workbook.Reachable (fun c => c.removes = false) p.before) {o : Outcome}
    (member : o ∈ p.result.outcomes) (updated : o.isUpdated = true) :
    ∃ merge view, p.after.merges.lookup o.table = some merge ∧
      p.after.tables.lookup o.table = some view ∧
      (p.after.build o.table merge).outcome = .ok view ∧
      ∀ s ∈ merge.sourceIds, (p.atTurn o.table).workbook.input s = p.after.input s := by
  have sound := reachable.sound
  obtain ⟨earlier, later, shape⟩ := List.append_of_mem member
  obtain ⟨c, next, moment⟩ := exists_moment shape
  cases moment.turn with
  | skipped stale =>
      have status := moment.status_eq (.skipped stale) rfl
      simp [Outcome.isUpdated, status] at updated
  | mismatched mismatch =>
      have status := moment.status_eq (.mismatched mismatch) rfl
      simp [Outcome.isUpdated, status] at updated
  | failed fault =>
      have status := moment.status_eq (.failed fault) rfl
      simp [Outcome.isUpdated, status] at updated
  | updated merge view notices _ _ known rebuilt =>
      have merges : p.after.merges = c.workbook.merges := by
        rw [moment.workbook, p.after_workbook]
      have final : p.before.merges.lookup o.table = some merge := by
        rw [← known, moment.workbook]
      have inputs : ∀ s ∈ merge.sourceIds, c.workbook.input s = p.after.input s :=
        fun s named => moment.input_eq sound (reachable.linked _ _ final s named)
      have again : c.workbook.build o.table merge = p.after.build o.table merge := by
        apply Workbook.build_congr o.table _ _ _ inputs
        all_goals rw [moment.workbook, p.after_workbook]
      refine ⟨merge, view, merges ▸ known, ?_, ?_, ?_⟩
      · rw [moment.lookup_table sound, Cascade.accept_workbook known]
        simp [Workbook.recordHeaders, Workbook.setTable, Assoc.lookup_set]
      · rw [← again, rebuilt]
      · rwa [moment.atTurn_eq sound]

/-- A source at the end of a chain is announced with the headers it has. -/
def announced : Pass :=
  .ofOutcome .chain "a" ["k"] ⟨"a", [⟨"m", .updated 0⟩, ⟨"n", .updated 0⟩], 2⟩ (by cbv)

theorem announced_chain_settled :
    ∃ merge view, announced.after.merges.lookup "n" = some merge ∧
      announced.after.tables.lookup "n" = some view ∧
      (announced.after.build "n" merge).outcome = .ok view ∧
      ∀ s ∈ merge.sourceIds, (announced.atTurn "n").workbook.input s = announced.after.input s :=
  rebuilt_settled announced (Workbook.chain_reachable (by simp [Workbook.chainCalls, Call.removes]))
    (o := ⟨"n", .updated 0⟩) (.tail _ List.mem_cons_self) rfl

end Pass

end Gridbook
