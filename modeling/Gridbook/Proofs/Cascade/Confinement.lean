import Mathlib
import Gridbook.Proofs.Cascade.Verdict
import Gridbook.Proofs.Workbook.Build

/-! # What a failing table keeps from being rebuilt

A cascade is meant to go on with the other tables when one of them cannot be rebuilt. It does so
exactly as long as no table gets stuck: then every table downstream of the change has an outcome,
and only tables downstream of a failed one are skipped.
-/

namespace Gridbook

open Relation

/-- Every table downstream of a change has an outcome, and a table is skipped only behind one that
failed. -/
structure CascadeResult.Covers (result : CascadeResult) (w : Workbook) (id : String) : Prop where
  downstream : ∀ t, (∃ o ∈ result.outcomes, o.table = t) ↔ TransGen w.graph.Edge id t
  blamed : ∀ o ∈ result.outcomes, o.isSkipped = true →
    ∃ f ∈ result.outcomes, f.isFailed = true ∧ TransGen w.graph.Edge f.table o.table

/-- The turn of a table comes, its sources are as it needs them, and building it gets stuck. -/
structure Workbook.Breakdown (w : Workbook) (id : String) (headers : List String) (table : String)
    (c : Cascade) (merge : Merge) : Prop where
  turn : ∃ before after, w.graph.affected [id] = .ok (before ++ table :: after) ∧
    Cascade.steps before (Cascade.start w id headers) = (c, none)
  clear : c.Clear table
  matching : c.Matching table
  known : c.workbook.merges.lookup table = some merge
  stuck : c.workbook.Stuck table merge

namespace Cascade

theorem build_escapes_iff {c : Cascade} {table : String} :
    Escapes (c.build table).outcome ↔
      ∃ merge, c.workbook.merges.lookup table = some merge ∧ c.workbook.Stuck table merge := by
  unfold build
  cases known : c.workbook.merges.lookup table with
  | none => simp [Fault.isConfined]
  | some merge => simpa using Workbook.build_escapes_iff

theorem steps_escaped {order : List String} {c d : Cascade} {fault : Fault}
    (run : steps order c = (d, some fault)) :
    ∃ before table after middle, order = before ++ table :: after ∧
      steps before c = (middle, none) ∧ middle.Turn table d (some fault) := by
  induction order generalizing c with
  | nil => cases run
  | cons table rest ih =>
      rw [steps] at run
      cases step : c.step table with
      | mk next stop =>
          rw [step] at run
          cases stop with
          | some other =>
              cases run
              exact ⟨[], table, rest, c, rfl, rfl, turn_of_step step⟩
          | none =>
              obtain ⟨before, other, after, middle, rfl, first, turn⟩ := ih run
              exact ⟨table :: before, other, after, middle, rfl,
                steps_cons.mpr ⟨next, step, first⟩, turn⟩

end Cascade

namespace Pass

variable {p : Pass}

/-- A skipped table stands behind a failed one. The induction is on how many outcomes come before:
a source that was left has an earlier one. -/
theorem failed_before_skipped (sound : p.before.Sound) {earlier later : List Outcome} {o : Outcome}
    (shape : p.result.outcomes = earlier ++ o :: later) (skipped : o.isSkipped = true) :
    ∃ f ∈ p.result.outcomes, f.isFailed = true ∧
      TransGen p.before.graph.Edge f.table o.table := by
  induction length : earlier.length using Nat.strong_induction_on generalizing earlier o later with
  | _ n ih =>
      obtain ⟨c, next, moment⟩ := exists_moment shape
      obtain ⟨source, edge, left⟩ := (moment.verdict sound).skipped.mp skipped
      have early := (moment.left_iff sound edge).mpr left
      rw [moment.here] at early
      obtain ⟨other, behind, rfl, failed | skippedToo⟩ := early
      · refine ⟨other, ?_, failed, .single edge⟩
        rw [shape]
        exact List.mem_append_left _ behind
      · obtain ⟨first, between, rfl⟩ := List.append_of_mem behind
        have fewer : first.length < n := by
          simp only [List.length_append, List.length_cons] at length
          omega
        have again : p.result.outcomes = first ++ other :: (between ++ o :: later) := by
          simpa using shape
        obtain ⟨f, member, failed, walk⟩ := ih first.length fewer again skippedToo rfl
        exact ⟨f, member, failed, walk.tail edge⟩

theorem covers (sound : p.before.Sound) : p.result.Covers p.before p.id where
  downstream t := by
    rw [← mem_tables_iff sound, tables, List.mem_map]
  blamed o member skipped := by
    obtain ⟨earlier, later, shape⟩ := List.append_of_mem member
    exact failed_before_skipped sound shape skipped

end Pass

namespace Workbook

theorem Breakdown.escaped {w : Workbook} {id table : String} {headers : List String} {c : Cascade}
    {merge : Merge} (broken : w.Breakdown id headers table c merge) :
    ∃ notices fault, c.step table = ({ c with notices := notices }, some fault) ∧
      fault.isConfined = false := by
  have escapes := Cascade.build_escapes_iff.mpr ⟨merge, broken.known, broken.stuck⟩
  cases step : c.step table with
  | mk next stop =>
      cases Cascade.turn_of_step step with
      | skipped stale members left => exact absurd broken.clear left
      | mismatched mismatch clear first =>
          obtain ⟨source, edge, told, -⟩ := first
          rw [broken.matching source edge] at told
          cases told
      | updated other view notices clear same known rebuilt =>
          rw [Cascade.build, known] at escapes
          simp [rebuilt] at escapes
      | failed fault notices clear same stopped confined =>
          rw [stopped] at escapes
          simp [confined] at escapes
      | escaped fault notices clear same stopped unconfined =>
          exact ⟨c.notices ++ notices, fault, rfl, unconfined⟩

/-- A cascade ends where a table gets stuck, with what it has done so far. -/
theorem Breakdown.stops {w : Workbook} {id table : String} {headers : List String} {c : Cascade}
    {merge : Merge} (broken : w.Breakdown id headers table c merge)
    (known : Assoc.has id w.tables = true) :
    (w.cascade id headers).1 = c.workbook ∧ Escapes (w.cascade id headers).2.outcome := by
  obtain ⟨before, after, found, first⟩ := broken.turn
  obtain ⟨notices, fault, step, unconfined⟩ := broken.escaped
  have run : Cascade.steps (before ++ table :: after) (Cascade.start w id headers) =
      ({ c with notices := notices }, some fault) := by
    rw [Cascade.steps_append_of first, Cascade.steps, step]
  rw [Cascade.start] at run
  simp only [cascade, known, if_true, found, run]
  exact ⟨trivial, Escapes.error.mpr unconfined⟩

/-- A cascade covers everything downstream of a change unless a table gets stuck at its turn. -/
theorem covers_iff_unbroken {w : Workbook} (reachable : Reachable (fun _ => True) w) {id : String}
    (known : Assoc.has id w.tables = true) (headers : List String) :
    (∃ result, (w.cascade id headers).2.outcome = .ok result ∧ result.Covers w id) ↔
      ¬ ∃ table c merge, w.Breakdown id headers table c merge := by
  have sound := reachable.sound
  constructor
  · rintro ⟨result, finished, -⟩ ⟨table, c, merge, broken⟩
    have escapes := (broken.stops known).2
    rw [finished] at escapes
    exact Escapes.ok _ escapes
  · intro unbroken
    obtain ⟨order, found, -⟩ := Graph.affected_spec sound.graph [id]
    cases run : Cascade.steps order (Cascade.start w id headers) with
    | mk last stop =>
        cases stop with
        | none =>
            have finished : (w.cascade id headers).2.outcome =
                .ok ⟨id, last.outcomes, w.graph.depth [id]⟩ := by
              rw [Cascade.start] at run
              simp only [cascade, known, if_true, found, run]
            exact ⟨_, finished, (Pass.ofOutcome w id headers _ finished).covers sound⟩
        | some fault =>
            obtain ⟨before, table, after, c, rfl, first, turn⟩ := Cascade.steps_escaped run
            cases turn with
            | escaped _ notices clear same stopped unconfined =>
                obtain ⟨merge, adopted, stuck⟩ :=
                  Cascade.build_escapes_iff.mp ⟨fault, by rw [stopped], unconfined⟩
                exact absurd ⟨table, c, merge, ⟨before, after, found, first⟩, clear, same, adopted,
                  stuck⟩ unbroken

def numberSource (rows : List (List Cell)) (even : Rectangular ["k", "v"] rows) : Source :=
  ⟨"b", ["k", "v"], rows, even⟩

/-- The join of the keys with selected columns of the numbers. -/
def numberMerge (columns : Option (List String)) : Merge :=
  ⟨"a", ⟨some "a", "b", "k", "k", .inner, none, none, none, columns⟩, []⟩

/-- Two merges of the same two sources, of which only the first takes over the numbers. -/
def numberCalls : List Call :=
  [.registerSource ⟨"a", ["k"], [[.text "x"]], by decide⟩,
    .registerSource (numberSource [[.text "x", .int 1]] (by decide)),
    .registerMerge "m" (numberMerge none), .registerMerge "n" (numberMerge (some ["k"]))]

/-- The number that is joined is beyond the doubles, and it stands too far down to be in the sample
of the source itself. -/
def hugeNumber : Source :=
  numberSource (List.replicate 10 [.text "y", .int 1] ++ [[.text "x", .int (10 ^ 400)]]) (by decide)

/-- The workbook when the second source has been replaced. -/
def overflowing : Workbook :=
  (((empty ⟨10, 2025⟩ Registry.standard (Store.empty .memory)).run numberCalls).setSource
    hugeNumber).1

theorem overflowing_breaks :
    overflowing.Breakdown "b" ["k", "v"] "m" (Cascade.start overflowing "b" ["k", "v"])
      (numberMerge none) where
  turn := by
    have graph : overflowing.graph = ⟨[("m", ["a", "b"]), ("n", ["a", "b"])],
      [("a", ["m", "n"]), ("b", ["m", "n"])]⟩ := by decide +kernel
    refine ⟨[], ["n"], ?_, rfl⟩
    rw [graph]
    cbv
  clear := by simp [Cascade.Clear, Cascade.start]
  matching := by
    have all : ∀ s ∈ overflowing.graph.sourcesOf "m",
        (Cascade.start overflowing "b" ["k", "v"]).mismatchWith? "m" s = none := by decide +kernel
    exact all
  known := by decide +kernel
  stuck := by
    let tables : List (String × Source) :=
      [("a", ⟨"a", ["k"], [[.text "x"]], by decide⟩), ("b", hugeNumber)]
    let joined : Source :=
      ⟨"merged", ["k", "b_k", "v"], [[.text "x", .text "x", .int (10 ^ 400)]], by decide⟩
    refine .untypable tables joined (by decide +kernel) (by decide +kernel) ⟨2, by decide, ?_, ?_⟩
    · intro j before
      have first : ∀ j < 2,
          ColumnType.infer overflowing.inference (joined.column j) = .ok .text := by
        decide +kernel
      exact ⟨.text, first j before⟩
    · exact .inl ⟨[], 10 ^ 400, [], by decide +kernel, by simp, by decide +kernel⟩

/-- The cascade that follows the replacement ends at its first table and leaves the workbook as it
was before. -/
theorem overflowing_reachable : Reachable (fun _ => True) overflowing := by
  have known : Assoc.has "b" overflowing.tables = true := by decide +kernel
  have replaced : ((empty ⟨10, 2025⟩ Registry.standard (Store.empty .memory)).run numberCalls).after
      (.updateSource hugeNumber) = overflowing := by
    simp only [after, updateSource]
    rw [if_pos (by decide +kernel)]
    split <;> rename_i placed
    · exact (congrArg Prod.fst placed).symm
    · have same := congrArg Prod.fst placed
      simp only at same ⊢
      rw [← same]
      exact (overflowing_breaks.stops known).1
  rw [← replaced]
  exact .call (.run (.empty ..) fun _ _ => trivial) trivial

/-- The cascade has no result, although the second merge could be rebuilt. -/
theorem overflow_stops_unrelated :
    Reachable (fun _ => True) overflowing ∧ Assoc.has "b" overflowing.tables = true ∧
      TransGen overflowing.graph.Edge "b" "n" ∧ ¬ TransGen overflowing.graph.Edge "m" "n" ∧
      (overflowing.build "n" (numberMerge (some ["k"]))).outcome.isOk = true ∧
      ¬ ∃ result, (overflowing.cascade "b" ["k", "v"]).2.outcome = .ok result := by
  have known : Assoc.has "b" overflowing.tables = true := by decide +kernel
  have edge : "b" ∈ overflowing.graph.sourcesOf "n" := by decide +kernel
  refine ⟨overflowing_reachable, known, .single edge, ?_, by decide +kernel, ?_⟩
  · intro walk
    obtain ⟨next, first, -⟩ := TransGen.head'_iff.mp walk
    have behind := (overflowing_reachable.sound.graph.mirror "m" next).mp first
    have none : overflowing.graph.dependentsOf "m" = [] := by decide +kernel
    simp [none] at behind
  · rintro ⟨result, finished⟩
    have escapes := (overflowing_breaks.stops known).2
    rw [finished] at escapes
    exact Escapes.ok _ escapes

theorem overflow_not_covered :
    ¬ ∃ result, (overflowing.cascade "b" ["k", "v"]).2.outcome = .ok result ∧
      result.Covers overflowing "b" := by
  intro covered
  have unbroken :=
    (covers_iff_unbroken overflowing_reachable (by decide +kernel) ["k", "v"]).mp covered
  exact unbroken ⟨_, _, _, overflowing_breaks⟩

end Workbook

end Gridbook
