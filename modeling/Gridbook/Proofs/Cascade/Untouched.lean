import Mathlib
import Gridbook.Proofs.Cascade.Settled
import Gridbook.Proofs.Cascade.Verdict

/-! # What a cascade leaves alone

Only the tables that a cascade reports as rebuilt get a new view and new headers on record. All
others keep both, and the sources, merges, edges and stored settings stay as they are.
-/

namespace Gridbook

open Relation

namespace Cascade

variable {c d next : Cascade} {table t : String}

/-- A turn that does not rebuild a table touches neither its view nor the headers on record for
it, whether it is the turn of that table or of another. -/
theorem Turn.untouched (turn : c.Turn table next none)
    (left : ¬ Outcome.Rebuilt next.outcomes t) :
    next.workbook.tables.lookup t = c.workbook.tables.lookup t ∧
      ∀ s, next.workbook.headers.lookup (t, s) = c.workbook.headers.lookup (t, s) := by
  by_cases own : t = table
  · subst own
    cases turn with
    | skipped | mismatched | failed => exact ⟨rfl, fun _ => rfl⟩
    | updated merge view =>
        apply absurd _ left
        exact ⟨⟨t, .updated view.rows.length⟩, by simp [accept], rfl, rfl⟩
  · exact ⟨turn.lookup_tables own, fun s => turn.lookup_headers own s⟩

theorem untouched_of_steps {tables : List String} (run : steps tables c = (d, none))
    (left : ¬ Outcome.Rebuilt d.outcomes t) :
    d.workbook.tables.lookup t = c.workbook.tables.lookup t ∧
      ∀ s, d.workbook.headers.lookup (t, s) = c.workbook.headers.lookup (t, s) := by
  induction tables generalizing c with
  | nil =>
      cases run
      exact ⟨rfl, fun _ => rfl⟩
  | cons table rest ih =>
      obtain ⟨next, step, run⟩ := steps_cons.mp run
      obtain ⟨later, listed, -⟩ := (frame_of_steps run).outcomes
      have leftNow : ¬ Outcome.Rebuilt next.outcomes t := by
        intro rebuilt
        obtain ⟨o, member, same, updated⟩ := rebuilt
        exact left ⟨o, by simp [listed, member], same, updated⟩
      obtain ⟨view, headers⟩ := (turn_of_step step).untouched leftNow
      obtain ⟨viewLater, headersLater⟩ := ih run
      exact ⟨viewLater.trans view, fun s => (headersLater s).trans (headers s)⟩

end Cascade

namespace Pass

variable {p : Pass}

/-- A table has the view and the headers on record that it had before. -/
structure Keeps (p : Pass) (table : String) : Prop where
  view : p.after.tables.lookup table = p.before.tables.lookup table
  recorded : ∀ source, p.after.headers.lookup (table, source) =
    p.before.headers.lookup (table, source)

theorem keeps_of_left {t : String} (left : ¬ Outcome.Rebuilt p.result.outcomes t) : p.Keeps t := by
  obtain ⟨-, last, run, workbook, outcomes⟩ := p.exists_run
  rw [← outcomes] at left
  obtain ⟨view, headers⟩ := Cascade.untouched_of_steps run left
  rw [workbook] at view headers
  exact ⟨view, headers⟩

theorem downstream_of_rebuilt (sound : p.before.Sound) {t : String}
    (rebuilt : Outcome.Rebuilt p.result.outcomes t) : TransGen p.before.graph.Edge p.id t := by
  obtain ⟨o, member, rfl, -⟩ := rebuilt
  exact (mem_tables_iff sound).mp (List.mem_map_of_mem member)

theorem not_source_of_rebuilt (sound : p.before.Sound) {t : String}
    (rebuilt : Outcome.Rebuilt p.result.outcomes t) : Assoc.has t p.before.sources = false := by
  obtain ⟨s, -, edge⟩ := TransGen.tail'_iff.mp (downstream_of_rebuilt sound rebuilt)
  obtain ⟨merge, known, -⟩ := sound.named s t edge
  exact sound.not_source_of_merged known

theorem id_not_rebuilt (sound : p.before.Sound) : ¬ Outcome.Rebuilt p.result.outcomes p.id :=
  fun rebuilt => sound.graph.acyclic p.id (downstream_of_rebuilt sound rebuilt)

theorem not_rebuilt_of_mem (sound : p.before.Sound) {o : Outcome} (member : o ∈ p.result.outcomes)
    (left : o.isUpdated = false) : ¬ Outcome.Rebuilt p.result.outcomes o.table := by
  intro rebuilt
  obtain ⟨other, inside, same, updated⟩ := rebuilt
  have once := List.inj_on_of_nodup_map (affected sound).nodup
  rw [once inside member same, left] at updated
  cases updated

/-- A finished cascade leaves alone whatever it does not report as rebuilt. -/
theorem others_untouched (p : Pass) (reachable : Workbook.Reachable (fun _ => True) p.before) :
    p.after.sources = p.before.sources ∧ p.after.merges = p.before.merges ∧
      p.after.graph = p.before.graph ∧ p.after.store = p.before.store ∧
      (∀ t, ¬ Outcome.Rebuilt p.result.outcomes t → p.Keeps t) ∧
      (∀ o ∈ p.result.outcomes, o.isUpdated = false → p.Keeps o.table) ∧
      (∀ t, ¬ TransGen p.before.graph.Edge p.id t → p.Keeps t) ∧
      (∀ t, Assoc.has t p.before.sources = true → p.Keeps t) ∧ p.Keeps p.id := by
  have sound := reachable.sound
  have workbook := p.after_workbook
  refine ⟨by rw [workbook], by rw [workbook], by rw [workbook], by rw [workbook],
    fun _ => keeps_of_left, ?_, ?_, ?_, ?_⟩
  · intro o member left
    exact keeps_of_left (not_rebuilt_of_mem sound member left)
  · intro t unrelated
    exact keeps_of_left (mt (downstream_of_rebuilt sound) unrelated)
  · intro t raw
    apply keeps_of_left
    intro rebuilt
    have derived := not_source_of_rebuilt sound rebuilt
    simp [raw] at derived
  · exact keeps_of_left (id_not_rebuilt sound)

/-- Neither a table that differs from its source nor the one behind it is touched. -/
theorem renamed_keeps_chain : renamed.Keeps "m" ∧ renamed.Keeps "n" := by
  have untouched := others_untouched renamed (Workbook.chain_reachable fun _ _ => trivial)
  have byOutcome := untouched.2.2.2.2.2.1
  exact ⟨byOutcome ⟨"m", .mismatched ⟨"m", "a", ["k"], ["z"]⟩⟩ List.mem_cons_self rfl,
    byOutcome ⟨"n", .skipped ["m"]⟩ (.tail _ List.mem_cons_self) rfl⟩

end Pass

end Gridbook
