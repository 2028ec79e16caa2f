import Mathlib
import Gridbook.Proofs.Table.Failure
import Gridbook.Proofs.Workbook.Consistency

/-! # Registering merges

A merge is refused for a cycle exactly when the edges would have one with the new edges in the
place of those into its table. A registration that fails leaves the workbook as it was, and one
that succeeds changes what is on record for the one table and nothing else: once the merge has been
checked and built, no later step can fail.
-/

namespace Gridbook

open Relation

/-- A computation does not end with a fault that tells of a cycle. -/
abbrev CycleFree (outcome : Except Fault α) : Prop :=
  ¬ Stops (fun fault => fault.tellsOfCycle = true) outcome

theorem Merge.joined_cycleFree (merge : Merge) (sources : List (String × Source)) :
    CycleFree (merge.joined sources) := by
  rintro ⟨fault, stopped, cycle⟩
  cases Merge.joined_fault stopped <;> cases cycle

theorem ColumnType.infer_cycleFree (inference : Inference) (cells : List Cell) :
    CycleFree (ColumnType.infer inference cells) := by
  rw [CycleFree, ColumnType.infer, ofSample_stops_iff, numbers_stop_iff, and_or_left,
    truths_stop_iff, dates_stop_iff]
  simp [Fault.tellsOfCycle]

theorem Table.ofSource_cycleFree (inference : Inference) (source : Source) :
    CycleFree (Table.ofSource inference source) := by
  have inferred (i : Nat) (names : List String) :
      CycleFree (Table.inferInfo inference source i names) := by
    induction names generalizing i with
    | nil => exact Stops.ok _
    | cons name rest ih =>
        refine Stops.not_bind (ColumnType.infer_cycleFree _ _) fun _ _ => ?_
        exact Stops.not_bind (ih (i + 1)) fun _ _ => Stops.pure _
  unfold Table.ofSource
  split
  · exact Stops.ok _
  · rename_i fault stopped
    rw [CycleFree, Stops.error]
    exact fun cycle => inferred 0 source.columns ⟨fault, stopped, cycle⟩

theorem Store.load_cycleFree (store : Store) (id : String) :
    CycleFree (store.load id).outcome := by
  have record : CycleFree (store.record? id).outcome := by
    unfold Store.record?
    split
    · exact Stops.report_pure _
    · split
      · exact Stops.report_pure _
      · exact Stops.report_pure _
      · exact Stops.report_not_bind (Stops.report_note _) fun _ => Stops.report_pure _
      · simp [CycleFree, Fault.tellsOfCycle]
  refine Stops.report_not_bind record fun record? => ?_
  split
  · exact Stops.report_pure _
  · split
    · exact Stops.report_pure _
    · simp [Fault.tellsOfCycle]
    · exact Stops.report_not_bind (Stops.report_note _) fun _ => Stops.report_pure _

theorem Table.replay_cycleFree (registry : Registry) (settings : Settings) (table : Table) :
    CycleFree (table.replay registry settings).outcome := by
  have restored (table : Table) (field : StoredField) :
      CycleFree (Table.restoreField registry table field).outcome := by
    unfold Table.restoreField
    split
    · exact Stops.report_not_bind (Stops.report_note _) fun _ => Stops.report_pure _
    · rw [Report.outcome_ofExcept]
      rintro ⟨fault, stopped, cycle⟩
      revert cycle
      cases Table.materialize_error_iff.mp stopped with
      | incomplete | taken | overlong => simp [Fault.tellsOfCycle]
  unfold Table.replay
  simp only
  split
  · exact Stops.report_not_foldlM _ restored _
  · exact Stops.report_not_bind (Stops.report_note _) fun _ => Stops.report_not_foldlM _ restored _

theorem Workbook.build_cycleFree (w : Workbook) (id : String) (merge : Merge) :
    CycleFree (w.build id merge).outcome := by
  have input (source : String) : CycleFree (w.input source) := by
    unfold Workbook.input
    split <;> simp [CycleFree, Fault.tellsOfCycle]
  rw [Workbook.build_eq]
  refine Stops.report_not_bind (Stops.report_not_mapM _ fun source => ?_) fun inputs => ?_
  · exact Stops.report_not_bind (input source) fun _ => Stops.report_pure _
  refine Stops.report_not_bind ?_ fun table => ?_
  · exact Stops.not_bind (merge.joined_cycleFree inputs) fun _ _ => Table.ofSource_cycleFree _ _
  refine Stops.report_not_bind (w.store.load_cycleFree id) fun settings? => ?_
  split
  · exact Stops.report_pure _
  · exact Table.replay_cycleFree _ _ _

namespace Graph

/-- The edges once those into a table come from other tables. -/
def Planned (g : Graph) (derived : String) (sources : List String) (s d : String) : Prop :=
  g.Edge s d ∧ d ≠ derived ∨ s ∈ sources ∧ d = derived

variable {g : Graph} {derived : String} {sources : List String}

theorem edge_rewired {s d : String} :
    (sources.foldl (fun g source => g.link derived source) (g.clear derived)).Edge s d ↔
      g.Planned derived sources s d := by
  rw [edge_linkAll, edge_clear]
  rfl

/-- A walk that starts at a table on no cycle never comes back to it, so it needs none of the edges
that are replaced. -/
theorem Acyclic.planned_walk (acyclic : g.Acyclic) {t : String}
    (walk : TransGen g.Edge derived t) : TransGen (g.Planned derived sources) derived t := by
  have away {s : String} (reached : TransGen g.Edge derived s) : s ≠ derived := by
    rintro rfl
    exact acyclic s reached
  induction walk with
  | single step => exact .single (.inl ⟨step, away (.single step)⟩)
  | tail walk step ih => exact ih.tail (.inl ⟨step, away (walk.tail step)⟩)

/-- New sources are refused exactly when the edges would have a cycle with them. -/
theorem Sound.closesCycle_iff_planned (sound : g.Sound) :
    g.closesCycle derived sources = true ↔ ∃ t, TransGen (g.Planned derived sources) t t := by
  constructor
  · intro closes
    refine ⟨derived, ?_⟩
    rcases closesCycle_iff.mp closes with self | ⟨s, member, walk⟩
    · exact .single (.inr ⟨self, rfl⟩)
    · exact (sound.acyclic.planned_walk walk).tail (.inr ⟨member, rfl⟩)
  · rintro ⟨t, cycle⟩
    by_contra open_
    have rewired := (sound.rewire (Bool.eq_false_of_not_eq_true open_)).acyclic
    exact rewired t (TransGen.mono (fun _ _ => edge_rewired.mpr) _ _ cycle)

end Graph

namespace Workbook

/-- Puts the edges into a table on record one by one, each if it closes no cycle by itself. At the
first that does the edges before it stay. -/
def linkEach (w : Workbook) (id : String) : List String → Workbook × Option Fault
  | [] => (w, none)
  | source :: rest =>
      match w.graph.addEdge id source with
      | .ok graph => linkEach { w with graph } id rest
      | .error fault => (w, some fault)

/-- Registers a merge record by record. What has been changed when a step fails stays changed. -/
def registerByRecords (w : Workbook) (id : String) (merge : Merge) : Workbook × Report Table :=
  match w.mergeFault? id merge with
  | some fault => (w, Report.fail fault)
  | none =>
      let report := w.build id merge
      match report.outcome with
      | .error _ => (w, report)
      | .ok table =>
          let headers := w.headers.filter fun entry => entry.1.1 != id
          match linkEach { w with graph := w.graph.clear id, headers } id merge.sourceIds with
          | (w, some fault) => (w, ⟨report.notices, .error fault⟩)
          | (w, none) =>
              let w := { w with merges := Assoc.set id merge w.merges }
              ((w.setTable id table).recordHeaders id merge, report)

theorem linkEach_of_ok {w : Workbook} {id : String} {ids : List String} {g : Graph}
    (linked : ids.foldlM (fun g source => g.addEdge id source) w.graph = .ok g) :
    w.linkEach id ids = ({ w with graph := g }, none) := by
  induction ids generalizing w with
  | nil =>
      cases linked
      rfl
  | cons source rest ih =>
      rw [List.foldlM_cons, bind_ok_iff] at linked
      obtain ⟨next, added, linked⟩ := linked
      rw [linkEach, added]
      exact ih (w := { w with graph := next }) linked

/-- Once a merge has been checked, every one of its edges is accepted. -/
theorem registerByRecords_eq {w : Workbook} (sound : w.Sound) (id : String) (merge : Merge) :
    w.registerByRecords id merge = w.registerMerge id merge := by
  unfold registerByRecords registerMerge
  cases checked : w.mergeFault? id merge with
  | some fault => rfl
  | none =>
      cases built : (w.build id merge).outcome with
      | error fault => simp only [built]
      | ok table =>
          have uncrossed := (mergeFault?_eq_none.mp checked).2.1
          have linked := linkEach_of_ok
            (w := { w with
              graph := w.graph.clear id
              headers := w.headers.filter fun entry => entry.1.1 != id })
            (sound.graph.addEdge_all uncrossed)
          simp only [built, linked]
          rfl

/-- A workbook with a merge on record that another had not, or had with other edges: nothing but
what is on record for the one table differs. -/
structure Adopts (before : Workbook) (id : String) (merge : Merge) (table : Table)
    (after : Workbook) : Prop where
  /-- The edges into the table come from the tables that its merge names, and no others differ. -/
  edges : ∀ s d, after.graph.Edge s d ↔ before.graph.Planned id merge.sourceIds s d
  mirrored : ∀ s d, d ∈ after.graph.dependentsOf s ↔ before.graph.Planned id merge.sourceIds s d
  /-- Each edge has the headers of its source on record, as they are now. -/
  recorded : ∀ s ∈ merge.sourceIds,
    after.headers.lookup (id, s) = some (before.headersOf s) ∧ after.headersOf s = before.headersOf s
  unrecorded : ∀ s, s ∉ merge.sourceIds → after.headers.lookup (id, s) = none
  others_recorded : ∀ d s, d ≠ id → after.headers.lookup (d, s) = before.headers.lookup (d, s)
  merged : after.merges.lookup id = some merge
  others_merged : ∀ d, d ≠ id → after.merges.lookup d = before.merges.lookup d
  shown : after.tables.lookup id = some table
  others_shown : ∀ t, t ≠ id → after.tables.lookup t = before.tables.lookup t
  /-- Sources, settings and the store are not touched. -/
  rest : after = { before with
    merges := after.merges
    tables := after.tables
    graph := after.graph
    headers := after.headers }

theorem adopts_adopt {w : Workbook} (sound : w.Sound) {id : String} {merge : Merge} (table : Table)
    (checked : w.mergeFault? id merge = none) :
    w.Adopts id merge table (w.adopt id merge table) := by
  have uncrossed := (mergeFault?_eq_none.mp checked).2.1
  have apart : ∀ s ∈ merge.sourceIds, s ≠ id := by
    rintro s member rfl
    have closes : w.graph.closesCycle s merge.sourceIds = true :=
      Graph.closesCycle_iff.mpr (.inl member)
    simp [uncrossed] at closes
  have rewired := sound.graph.rewire uncrossed
  constructor
  case edges => exact fun s d => edge_adopt
  case mirrored =>
    intro s d
    rw [← Graph.edge_rewired]
    exact (rewired.mirror s d).symm
  case recorded =>
    intro s member
    have same : (w.setTable id table).headersOf s = w.headersOf s :=
      headersOf_setTable_of_ne (apart s member)
    rw [lookup_headers_adopt, if_pos ⟨rfl, member⟩, same]
    exact ⟨rfl, same⟩
  case unrecorded =>
    intro s other
    rw [lookup_headers_adopt, if_neg (fun named => other named.2), if_pos rfl]
  case others_recorded =>
    intro d s other
    rw [lookup_headers_adopt, if_neg (fun named => other named.1), if_neg other]
  case merged => simp [lookup_merges_adopt]
  case others_merged =>
    intro d other
    simp [lookup_merges_adopt, other]
  case shown => exact (Assoc.lookup_set id id table w.tables).trans (by simp)
  case others_shown =>
    intro t other
    exact (Assoc.lookup_set id t table w.tables).trans (by simp [other])
  case rest => rfl

theorem mergeFault?_tellsOfCycle {w : Workbook} {id : String} {merge : Merge} {fault : Fault}
    (refused : w.mergeFault? id merge = some fault) :
    fault.tellsOfCycle = true ↔
      Assoc.has id w.sources = false ∧ w.graph.closesCycle id merge.sourceIds = true := by
  unfold mergeFault? at refused
  cases raw : Assoc.has id w.sources with
  | true =>
      simp only [raw, if_true] at refused
      cases refused
      simp [Fault.tellsOfCycle]
  | false =>
      cases closes : w.graph.closesCycle id merge.sourceIds with
      | true =>
          simp only [raw, closes, if_true] at refused
          cases refused
          simp [Fault.tellsOfCycle]
      | false =>
          simp only [raw, closes] at refused
          obtain ⟨source, -, rfl⟩ := Option.map_eq_some_iff.mp refused
          simp [Fault.tellsOfCycle]

/-- A registration tells of a cycle exactly when the id is no source and the edges with the new ones
in the place of those into it would have one; if it fails nothing has changed, though its steps are
taken one after the other; and if it succeeds only what is on record for the table has. -/
theorem registerMerge_all_or_nothing {w : Workbook} (reachable : Reachable (fun _ => True) w)
    (id : String) (merge : Merge) :
    ((∃ fault, (w.registerMerge id merge).2.outcome = .error fault ∧ fault.tellsOfCycle = true) ↔
      Assoc.has id w.sources = false ∧
        ∃ t, TransGen (w.graph.Planned id merge.sourceIds) t t) ∧
    (∀ fault, (w.registerMerge id merge).2.outcome = .error fault →
      (w.registerMerge id merge).1 = w) ∧
    (∀ table, (w.registerMerge id merge).2.outcome = .ok table →
      w.Adopts id merge table (w.registerMerge id merge).1) ∧
    w.registerByRecords id merge = w.registerMerge id merge := by
  have sound := reachable.sound
  refine ⟨?_, ?_, ?_, registerByRecords_eq sound id merge⟩
  · rw [← sound.graph.closesCycle_iff_planned]
    cases checked : w.mergeFault? id merge with
    | some fault =>
        have refused : (w.registerMerge id merge).2.outcome = .error fault := by
          rw [registerMerge, checked]
          rfl
        rw [← mergeFault?_tellsOfCycle checked, refused]
        simp
    | none =>
        obtain ⟨-, uncrossed, -⟩ := mergeFault?_eq_none.mp checked
        have outcome : (w.registerMerge id merge).2.outcome = (w.build id merge).outcome := by
          unfold registerMerge
          simp only [checked]
          split <;> rfl
        rw [outcome, uncrossed]
        constructor
        · rintro ⟨fault, stopped, cycle⟩
          exact absurd ⟨fault, stopped, cycle⟩ (w.build_cycleFree id merge)
        · rintro ⟨-, ⟨⟩⟩
  · intro fault stopped
    rcases w.registerMerge_cases id merge with ⟨same, -⟩ | ⟨table, -, built, adopted⟩
    · exact same
    · rw [adopted, built] at stopped
      cases stopped
  · intro table done
    rcases w.registerMerge_cases id merge with ⟨-, fault, stopped⟩ | ⟨view, checked, built, adopted⟩
    · rw [stopped] at done
      cases done
    · rw [adopted, built] at done
      obtain rfl := Except.ok.inj done
      rw [adopted]
      exact adopts_adopt sound view checked

/-- In a chain the first merge cannot come to read the second, and the second can come to read the
sources of the first. -/
theorem chain_registered_again :
    Reachable (fun _ => True) chain ∧
      (∃ fault, (chain.registerMerge "m" (keyMerge "n" "b")).2.outcome = .error fault ∧
        fault.tellsOfCycle = true) ∧
      (chain.registerMerge "m" (keyMerge "n" "b")).1 = chain ∧
      ∃ table, (chain.registerMerge "n" (keyMerge "a" "b")).2.outcome = .ok table ∧
        chain.Adopts "n" (keyMerge "a" "b") table
          (chain.registerMerge "n" (keyMerge "a" "b")).1 := by
  have reachable : Reachable (fun _ => True) chain := chain_reachable fun _ _ => trivial
  obtain ⟨cycles, kept, -⟩ := registerMerge_all_or_nothing reachable "m" (keyMerge "n" "b")
  obtain ⟨-, -, adopts, -⟩ := registerMerge_all_or_nothing reachable "n" (keyMerge "a" "b")
  have onward : "m" ∈ chain.graph.sourcesOf "n" ∧ "n" ≠ "m" := by decide +kernel
  have back : "n" ∈ (keyMerge "n" "b").sourceIds ∧ "m" = "m" := by decide +kernel
  obtain ⟨fault, stopped, cycle⟩ :=
    cycles.mpr ⟨by decide +kernel, "m", .tail (.single (.inl onward)) (.inr back)⟩
  have built : (chain.registerMerge "n" (keyMerge "a" "b")).2.outcome =
      .ok (textView ["k", "b_k"]) := by decide +kernel
  exact ⟨reachable, ⟨fault, stopped, cycle⟩, kept fault stopped, _, built, adopts _ built⟩

end Workbook

end Gridbook
