import Mathlib
import Gridbook.Proofs.Cascade.Confinement

/-! # Consistent workbooks

Six records of a workbook are changed by calls that may end halfway. Whatever the calls and their
order, the records stay consistent: no call comes upon a cycle except where a merge is refused, and
a cascade finds headers on record for every edge that it looks at.
-/

namespace Gridbook

open Relation

/-- Whether a fault tells of tables that are built from each other. -/
def Fault.tellsOfCycle : Fault → Bool
  | .selfDependentMerge _ | .cyclicEdge .. | .cyclicGraph _ => true
  | _ => false

theorem Fault.isConfined_of_tellsOfCycle {fault : Fault} (cycle : fault.tellsOfCycle = true) :
    fault.isConfined = true := by
  cases fault with
  | selfDependentMerge | cyclicEdge | cyclicGraph => rfl
  | _ => cases cycle

namespace Workbook

theorem cascade_fault {w : Workbook} (sound : w.Sound) {id : String} {headers : List String}
    {fault : Fault} (stopped : (w.cascade id headers).2.outcome = .error fault) :
    fault = .unknownTable id ∨ fault.isConfined = false := by
  cases known : Assoc.has id w.tables with
  | false =>
      simp [cascade, known, Report.fail] at stopped
      exact .inl stopped.symm
  | true =>
      obtain ⟨order, found, -⟩ := Graph.affected_spec sound.graph [id]
      cases run : Cascade.steps order (Cascade.start w id headers) with
      | mk last stop =>
          rw [Cascade.start] at run
          simp only [cascade, known, if_true, found, run] at stopped
          cases stop with
          | none => cases stopped
          | some other =>
              cases stopped
              obtain ⟨-, table, -, c, -, -, turn⟩ := Cascade.steps_escaped run
              cases turn with
              | escaped _ notices clear same stopped unconfined => exact .inr unconfined

/-- The records of a workbook agree with each other, and they let no call come upon a cycle or upon
an edge without headers. -/
structure Consistent (w : Workbook) : Prop where
  mirrored : ∀ s d, s ∈ w.graph.sourcesOf d ↔ d ∈ w.graph.dependentsOf s
  acyclic : ∀ t, ¬ TransGen w.graph.Edge t t
  apart : ∀ id, ¬ (Assoc.has id w.sources = true ∧ Assoc.has id w.merges = true)
  founded : ∀ s d, w.graph.Edge s d → Assoc.has s w.tables = true ∧
    Assoc.has d w.merges = true ∧ Assoc.has d w.tables = true
  recorded : ∀ s d, w.graph.Edge s d → ∃ old, w.headers.lookup (d, s) = some old
  /-- The edges of a merge that is not refused are all accepted. -/
  wired : ∀ id merge table, w.mergeFault? id merge = none →
    merge.sourceIds.foldlM (fun g source => g.addEdge id source) (w.graph.clear id) =
      .ok (w.adopt id merge table).graph
  uncrossed : ∀ id headers fault, (w.cascade id headers).2.outcome = .error fault →
    fault.tellsOfCycle = false
  /-- However far a cascade has come, headers are on record for each edge. -/
  checked : ∀ id headers order c stop,
    Cascade.steps order (Cascade.start w id headers) = (c, stop) →
      ∀ s d, c.workbook.graph.Edge s d → ∃ old, c.workbook.headers.lookup (d, s) = some old

/-- Calls lead to consistent workbooks only, whether they succeed or fail. -/
theorem consistent_of_reachable {w : Workbook} (reachable : Reachable (fun _ => True) w) :
    w.Consistent := by
  have sound := reachable.sound
  constructor
  case mirrored => exact sound.graph.mirror
  case acyclic => exact sound.graph.acyclic
  case apart =>
    intro id both
    obtain ⟨raw, merged⟩ := both
    rw [sound.apart id raw] at merged
    cases merged
  case founded =>
    intro s d edge
    obtain ⟨merge, known, -⟩ := sound.named s d edge
    have merged : Assoc.has d w.merges = true := Assoc.has_iff.mpr ⟨merge, known⟩
    exact ⟨sound.shown s d edge, merged, sound.built d merged⟩
  case recorded => exact sound.recorded
  case wired =>
    intro id merge table unrefused
    exact sound.graph.addEdge_all (mergeFault?_eq_none.mp unrefused).2.1
  case uncrossed =>
    intro id headers fault stopped
    cases cycle : fault.tellsOfCycle with
    | false => rfl
    | true =>
        have confined := Fault.isConfined_of_tellsOfCycle cycle
        rcases cascade_fault sound stopped with rfl | unconfined
        · cases cycle
        · simp [confined] at unconfined
  case checked =>
    intro id headers order c stop run
    have now : c.workbook.Sound :=
      Cascade.sound_of_steps (c := Cascade.start w id headers) sound run
    exact now.recorded

/-- A chain whose first source is gone keeps its other edges. -/
theorem shortened_chain_consistent :
    let w := chain.after (.removeTable "a")
    Reachable (fun _ => True) w ∧ w.graph.Edge "b" "m" ∧ w.Consistent := by
  intro w
  have reachable : Reachable (fun _ => True) w := .call (chain_reachable fun _ _ => trivial) trivial
  have edge : "b" ∈ w.graph.sourcesOf "m" := by decide +kernel
  exact ⟨reachable, edge, consistent_of_reachable reachable⟩

end Workbook

end Gridbook
