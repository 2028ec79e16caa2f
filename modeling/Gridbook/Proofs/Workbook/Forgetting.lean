import Gridbook.Proofs.Workbook.Aftermath
import Gridbook.Proofs.Workbook.Build

/-! # Forgetting a table

Removing a table takes out of a workbook all that is kept about it, and nothing else. A table that
was merged from it keeps its view and its merge, which still names the table that is gone. As long
as neither of the two is registered anew that merge cannot be run, so whatever other calls are
made, no cascade touches the view again.
-/

namespace Gridbook.Workbook

/-- A workbook from which everything about one table has been taken out. -/
structure Forgets (before : Workbook) (gone : String) (after : Workbook) : Prop where
  sources : ∀ t, after.sources.lookup t = if t = gone then none else before.sources.lookup t
  merges : ∀ t, after.merges.lookup t = if t = gone then none else before.merges.lookup t
  tables : ∀ t, after.tables.lookup t = if t = gone then none else before.tables.lookup t
  edges : ∀ s d, after.graph.Edge s d ↔ before.graph.Edge s d ∧ s ≠ gone ∧ d ≠ gone
  dependents : ∀ s d, d ∈ after.graph.dependentsOf s ↔
    d ∈ before.graph.dependentsOf s ∧ s ≠ gone ∧ d ≠ gone
  headers : ∀ d s, after.headers.lookup (d, s) =
    if d ≠ gone ∧ s ≠ gone then before.headers.lookup (d, s) else none
  documents : ∀ t, after.store.text? t = if t = gone then none else before.store.text? t
  settings : ∀ t, after.store.load t = if t = gone then pure none else before.store.load t
  medium : after.store.medium = before.store.medium
  inference : after.inference = before.inference
  registry : after.registry = before.registry

theorem Sound.forgets {w : Workbook} (sound : w.Sound) {gone : String}
    (shown : Assoc.has gone w.tables = true) : w.Forgets gone (w.removeTable gone).1 := by
  have mirrored := sound.graph.toMirrored
  have edges (s d : String) : (w.graph.remove gone).Edge s d ↔
      w.graph.Edge s d ∧ s ≠ gone ∧ d ≠ gone := Graph.edge_remove mirrored
  rw [removeTable_eq shown]
  constructor
  case sources | merges | tables =>
    intro t
    simp only [Assoc.lookup_drop, beq_iff_eq]
  case edges => exact edges
  case dependents =>
    intro s d
    rw [← mirrored.remove.mirror s d, ← mirrored.mirror s d]
    exact edges s d
  case headers => exact lookup_headers_removed w gone
  case documents => exact w.store.text?_delete gone
  case settings =>
    intro t
    have held := w.store.text?_delete gone t
    by_cases own : t = gone
    · rw [if_pos own] at held ⊢
      exact Store.load_of_none held
    · rw [if_neg own] at held ⊢
      exact Store.load_congr rfl held
  case medium | inference | registry => rfl

/-- A table is not on record, and the merge of another one, if it has any, names it. -/
structure Orphaned (w : Workbook) (gone orphan : String) : Prop where
  unregistered : Assoc.has gone w.sources = false ∧ Assoc.has gone w.merges = false
  named : ∀ merge, w.merges.lookup orphan = some merge → gone ∈ merge.sourceIds

section

variable {v w : Workbook} {gone orphan : String}

theorem Orphaned.congr (orphaned : w.Orphaned gone orphan) (sources : v.sources = w.sources)
    (merges : v.merges = w.merges) : v.Orphaned gone orphan where
  unregistered := by rw [sources, merges]; exact orphaned.unregistered
  named := by rw [merges]; exact orphaned.named

theorem input_of_inputs {merge : Merge} {tables : List (String × Source)}
    (read : (w.inputs merge).outcome = .ok tables) {s : String} (named : s ∈ merge.sourceIds) :
    ∃ source, w.input s = .ok source := by
  unfold inputs at read
  generalize merge.sourceIds = ids at read named
  induction ids generalizing tables with
  | nil => cases named
  | cons id rest ih =>
      rw [List.mapM_cons] at read
      obtain ⟨_, first, read⟩ := report_bind_ok_iff.mp read
      obtain ⟨_, others, -⟩ := report_bind_ok_iff.mp read
      rcases List.mem_cons.mp named with rfl | later
      · obtain ⟨source, given, -⟩ := report_bind_ok_iff.mp first
        exact ⟨source, given⟩
      · exact ih others later

theorem input_of_unregistered (sound : w.Sound)
    (unregistered : Assoc.has gone w.sources = false ∧ Assoc.has gone w.merges = false) :
    w.input gone = .error (.unknownTable gone) := by
  have unshown : Assoc.has gone w.tables = false := by
    by_contra shown
    rcases sound.owned gone (by simpa using shown) with raw | merged
    · simp [unregistered.1] at raw
    · simp [unregistered.2] at merged
  have noSource : w.sources.lookup gone = none := by simpa [Assoc.has] using unregistered.1
  have noView : w.tables.lookup gone = none := by simpa [Assoc.has] using unshown
  simp [input, noSource, noView]

theorem Orphaned.not_built (orphaned : w.Orphaned gone orphan) (sound : w.Sound) {merge : Merge}
    (known : w.merges.lookup orphan = some merge) (id : String) (view : Table) :
    (w.build id merge).outcome ≠ .ok view := by
  intro built
  rw [build_eq] at built
  obtain ⟨tables, read, -⟩ := report_bind_ok_iff.mp built
  obtain ⟨source, given⟩ := input_of_inputs read (orphaned.named merge known)
  rw [input_of_unregistered sound orphaned.unregistered] at given
  cases given

theorem Orphaned.left {c : Cascade} (orphaned : c.workbook.Orphaned gone orphan)
    (sound : c.workbook.Sound) (order : List String) :
    orphan ∉ (Cascade.builds order c).map Build.table := by
  induction order generalizing c with
  | nil => simp [Cascade.builds]
  | cons table rest ih =>
      cases step : c.step table with
      | mk next stop =>
          have turn := Cascade.turn_of_step step
          cases stop with
          | some fault => simp [Cascade.builds, step]
          | none =>
              have workbook := turn.workbook
              have later := ih (orphaned.congr (v := next.workbook) (by rw [workbook])
                (by rw [workbook])) (sound.moves turn.moves)
              cases turn with
              | skipped | mismatched | failed =>
                  rwa [Cascade.builds_of_left step (by simp [Cascade.block, Outcome.isUpdated])]
              | updated merge view notices _ _ known rebuilt =>
                  have other : orphan ≠ table := by
                    rintro rfl
                    exact orphaned.not_built sound known orphan view (by rw [rebuilt])
                  rw [Cascade.builds_of_accepted step, List.map_cons, List.mem_cons, not_or]
                  exact ⟨other, later⟩

theorem sources_cascade (w : Workbook) (id : String) (headers : List String) :
    (w.cascade id headers).1.sources = w.sources := by
  rcases w.cascade_cases id headers with ⟨same, -⟩ | ⟨order, -, reached, -⟩
  · rw [same]
  · rw [reached, Cascade.steps_workbook]
    rfl

theorem Orphaned.unbuilt (orphaned : w.Orphaned gone orphan) (sound : w.Sound) (id : String)
    (headers : List String) : orphan ∉ (w.cascadeBuilds id headers).map Build.table := by
  rcases w.cascade_cases id headers with ⟨-, none⟩ | ⟨order, -, -, builds⟩
  · simp [none]
  · rw [builds]
    exact orphaned.left (c := Cascade.start w id headers) sound order

theorem Orphaned.kept_by_cascade (orphaned : w.Orphaned gone orphan) (sound : w.Sound) (id : String)
    (headers : List String) :
    (w.cascade id headers).1.tables.lookup orphan = w.tables.lookup orphan := by
  have unbuilt := orphaned.unbuilt sound id headers
  rcases w.cascade_cases id headers with ⟨same, -⟩ | ⟨order, -, reached, builds⟩
  · rw [same]
  · rw [builds] at unbuilt
    rw [reached]
    exact (Cascade.steps_keep unbuilt).1

theorem Orphaned.not_updated (orphaned : w.Orphaned gone orphan) (sound : w.Sound) {id : String}
    {headers : List String} {result : CascadeResult}
    (finished : (w.cascade id headers).2.outcome = .ok result) :
    orphan ∉ result.tablesWhere Outcome.isUpdated := by
  have listed := (Pass.ofOutcome w id headers result finished).map_table_builds
  have unbuilt := orphaned.unbuilt sound id headers
  rwa [show (w.cascadeBuilds id headers).map Build.table =
    result.tablesWhere Outcome.isUpdated from listed] at unbuilt

theorem Orphaned.setSource (orphaned : w.Orphaned gone orphan) {source : Source}
    (other : source.id ≠ gone) : (w.setSource source).1.Orphaned gone orphan where
  unregistered := by
    rw [sources_setSource, merges_setSource, Assoc.has_set, beq_false_of_ne (Ne.symm other)]
    exact orphaned.unregistered
  named := by
    rw [merges_setSource]
    exact orphaned.named

theorem Orphaned.ne_of_source (orphaned : w.Orphaned gone orphan) {source : Source}
    (known : Assoc.has source.id w.sources = true) : source.id ≠ gone := by
  rintro rfl
  simp [orphaned.unregistered.1] at known

/-- A call puts the table that is gone on record again, or the merge of the other one. A source
stands on record even if its view cannot be made. -/
def Revives (w : Workbook) (gone orphan : String) : Call → Prop
  | .registerSource source => source.id = gone
  | .registerMerge id merge =>
      (id = gone ∨ id = orphan) ∧ ∃ view, (w.registerMerge id merge).2.outcome = .ok view
  | .updateSource _ | .updateTable .. | .cascade .. | .removeTable _ | .putRecord .. => False

/-- None of some calls puts either of the two on record again. -/
def NeverRevived (w : Workbook) (gone orphan : String) : List Call → Prop
  | [] => True
  | c :: rest => ¬ w.Revives gone orphan c ∧ (w.after c).NeverRevived gone orphan rest

theorem Orphaned.after (orphaned : w.Orphaned gone orphan) {c : Call}
    (left : ¬ w.Revives gone orphan c) : (w.after c).Orphaned gone orphan := by
  cases c with
  | registerSource source =>
      simp only [Workbook.after, registerSource]
      split
      · exact orphaned
      · split
        · exact orphaned
        · exact orphaned.setSource left
  | registerMerge id merge =>
      rw [Workbook.after]
      rcases w.registerMerge_cases id merge with ⟨same, -⟩ | ⟨view, -, built, adopted⟩
      · rwa [same]
      · have others : ¬ (id = gone ∨ id = orphan) :=
          fun own => left ⟨own, view, by rw [adopted, built]⟩
        rw [not_or] at others
        rw [adopted]
        constructor
        case unregistered =>
          refine ⟨orphaned.unregistered.1, ?_⟩
          rw [Assoc.has, lookup_merges_adopt, if_neg (by simpa using Ne.symm others.1)]
          exact orphaned.unregistered.2
        case named =>
          rw [lookup_merges_adopt, if_neg (by simpa using Ne.symm others.2)]
          exact orphaned.named
  | updateSource source =>
      rw [Workbook.after]
      cases known : Assoc.has source.id w.sources with
      | false => simpa [Workbook.updateSource, known] using orphaned
      | true =>
          have placed := orphaned.setSource (orphaned.ne_of_source known)
          rcases updateSource_cases known with ⟨same, -⟩ | ⟨cascaded, -⟩
          · rwa [same]
          · rw [cascaded]
            exact placed.congr (sources_cascade _ _ _) (moves_cascade _ _ _).merges
  | cascade id headers =>
      exact orphaned.congr (w.sources_cascade id headers) (w.moves_cascade id headers).merges
  | updateTable id table widths =>
      have sources : (w.updateTable id table widths).1.sources = w.sources := by
        unfold updateTable
        simp only
        split
        · split <;> rfl
        · rfl
      exact orphaned.congr sources (w.moves_updateTable id table widths).merges
  | removeTable id =>
      rw [Workbook.after]
      cases shown : Assoc.has id w.tables with
      | false => rwa [removeTable_unknown shown]
      | true =>
          rw [removeTable_eq shown]
          constructor
          case unregistered =>
            simp [Assoc.has_drop, orphaned.unregistered]
          case named =>
            intro merge known
            simp only [Assoc.lookup_drop] at known
            split at known
            · cases known
            · exact orphaned.named merge known
  | putRecord id text => exact orphaned.congr rfl rfl

theorem Orphaned.run (orphaned : w.Orphaned gone orphan) {calls : List Call}
    (left : w.NeverRevived gone orphan calls) : (w.run calls).Orphaned gone orphan := by
  induction calls generalizing w with
  | nil => exact orphaned
  | cons c rest ih => exact ih (orphaned.after left.1) left.2

/-- No cascade rebuilds a table or touches its view, whatever it starts from and however it ends.
An update of a source changes the view only as putting the source on record does. -/
structure Stranded (w : Workbook) (table : String) : Prop where
  unreported : ∀ id headers result, (w.cascade id headers).2.outcome = .ok result →
    table ∉ result.tablesWhere Outcome.isUpdated
  kept : ∀ id headers, (w.cascade id headers).1.tables.lookup table = w.tables.lookup table
  unreportedByUpdate : ∀ source result, (w.updateSource source).2.outcome = .ok result →
    table ∉ result.tablesWhere Outcome.isUpdated
  keptByUpdate : ∀ source, (w.updateSource source).1.tables.lookup table = w.tables.lookup table ∨
    source.id = table ∧
      (w.updateSource source).1.tables.lookup table = (w.setSource source).1.tables.lookup table

theorem lookup_setSource_of_ne {source : Source} {t : String} (other : t ≠ source.id) :
    (w.setSource source).1.tables.lookup t = w.tables.lookup t := by
  unfold setSource
  simp only
  split
  · simp [setTable, Assoc.lookup_set, other]
  · rfl

theorem Orphaned.stranded (orphaned : w.Orphaned gone orphan) (sound : w.Sound) :
    w.Stranded orphan := by
  have placed {source : Source} (known : Assoc.has source.id w.sources = true) :
      (w.setSource source).1.Orphaned gone orphan ∧ (w.setSource source).1.Sound :=
    ⟨orphaned.setSource (orphaned.ne_of_source known),
      sound.moves (moves_setSource fun _ => known)⟩
  constructor
  case unreported => exact fun _ _ _ finished => orphaned.not_updated sound finished
  case kept => exact orphaned.kept_by_cascade sound
  case unreportedByUpdate =>
    intro source result finished
    cases known : Assoc.has source.id w.sources with
    | false => simp [updateSource, known, Report.fail] at finished
    | true =>
        obtain ⟨orphanedNow, soundNow⟩ := placed known
        rcases updateSource_cases known with ⟨-, -, fault, failed⟩ | ⟨-, -, same⟩
        · rw [failed] at finished
          cases finished
        · exact orphanedNow.not_updated soundNow (same ▸ finished)
  case keptByUpdate =>
    intro source
    cases known : Assoc.has source.id w.sources with
    | false => exact .inl (by simp [updateSource, known])
    | true =>
        obtain ⟨orphanedNow, soundNow⟩ := placed known
        have view : (w.updateSource source).1.tables.lookup orphan =
            (w.setSource source).1.tables.lookup orphan := by
          rcases updateSource_cases known with ⟨same, -⟩ | ⟨cascaded, -⟩
          · rw [same]
          · rw [cascaded]
            exact orphanedNow.kept_by_cascade soundNow source.id source.columns
        by_cases own : source.id = orphan
        · exact .inr ⟨own, view⟩
        · exact .inl (view.trans (lookup_setSource_of_ne (Ne.symm own)))

end

/-- Removing a table succeeds and takes out all that is kept about it and nothing else. From then on
no table whose merge reads it is rebuilt or given another view by a cascade, whatever calls come in
between, until the table that is gone is registered again or the merge is replaced. -/
theorem removal_strands_readers {w : Workbook} (reachable : Reachable (fun _ => True) w)
    {gone : String} (shown : Assoc.has gone w.tables = true) :
    (w.removeTable gone).2.outcome = .ok () ∧ w.Forgets gone (w.removeTable gone).1 ∧
      ∀ orphan merge, w.merges.lookup orphan = some merge → gone ∈ merge.sourceIds →
        ∀ calls, (w.removeTable gone).1.NeverRevived gone orphan calls →
          ((w.removeTable gone).1.run calls).Stranded orphan := by
  have sound := reachable.sound
  have forgets := sound.forgets shown
  refine ⟨?_, forgets, ?_⟩
  · simp only [removeTable, shown, if_true]
    split <;> rfl
  · intro orphan merge known named calls left
    have orphaned : (w.removeTable gone).1.Orphaned gone orphan := by
      constructor
      case unregistered => simp [Assoc.has, forgets.sources, forgets.merges]
      case named =>
        intro other found
        rw [forgets.merges] at found
        split at found
        · cases found
        · rw [known] at found
          exact Option.some.inj found ▸ named
    exact (orphaned.run left).stranded ((sound.removeTable gone).run calls)

/-- The first source of a chain is removed. A later change of the other one reaches the merge of the
two, which cannot be built any more. -/
theorem removal_strands_chain :
    let w := (chain.removeTable "a").1
    Assoc.has "a" chain.tables = true ∧ chain.merges.lookup "m" = some (keyMerge "a" "b") ∧
      "a" ∈ (keyMerge "a" "b").sourceIds ∧
      w.NeverRevived "a" "m" [.updateSource (keySource "b")] ∧
      (w.cascade "b" ["k"]).2.outcome =
        .ok ⟨"b", [⟨"m", .failed (.unknownTable "a")⟩, ⟨"n", .skipped ["m"]⟩], 2⟩ ∧
      chain.Forgets "a" w ∧ (w.run [.updateSource (keySource "b")]).Stranded "m" := by
  intro w
  have shown : Assoc.has "a" chain.tables = true := by decide +kernel
  have known : chain.merges.lookup "m" = some (keyMerge "a" "b") := by rfl
  have named : "a" ∈ (keyMerge "a" "b").sourceIds := by decide +kernel
  have left : w.NeverRevived "a" "m" [.updateSource (keySource "b")] := ⟨id, trivial⟩
  obtain ⟨-, forgets, stranded⟩ :=
    removal_strands_readers (chain_reachable fun _ _ => trivial) shown
  exact ⟨shown, known, named, left, by cbv, forgets, stranded "m" _ known named _ left⟩

end Gridbook.Workbook
