import Gridbook.Proofs.Cascade.Course
import Gridbook.Proofs.Escape
import Gridbook.Proofs.Settings.Shelf
import Gridbook.Proofs.Workbook.History

/-! # What failed source calls leave behind

A source is put on record before its view is made and before the tables downstream are rebuilt.
When one of these fails, what came before it stays: a source that was registered stands without a
view and cannot be registered again, and a cascade that ends early leaves behind the tables that it
has rebuilt.
-/

namespace Gridbook

namespace Cascade

/-- However far a cascade has come, it has touched only the tables that it has built. -/
theorem steps_keep {order : List String} {c : Cascade} {t : String}
    (unbuilt : t ∉ (builds order c).map Build.table) :
    (steps order c).1.workbook.tables.lookup t = c.workbook.tables.lookup t ∧
      ∀ s, (steps order c).1.workbook.headers.lookup (t, s) =
        c.workbook.headers.lookup (t, s) := by
  induction order generalizing c with
  | nil => exact ⟨rfl, fun _ => rfl⟩
  | cons table rest ih =>
      cases step : c.step table with
      | mk next stop =>
          have turn := turn_of_step step
          cases stop with
          | some fault =>
              -- A turn that ends the cascade notes what happened and does nothing else.
              simp only [steps, step]
              cases turn
              exact ⟨rfl, fun _ => rfl⟩
          | none =>
              simp only [steps, step]
              rcases turn.left_or_accepted with ⟨same, -, left⟩ | ⟨merge, view, notices, -, -, rfl⟩
              · rw [builds_of_left step left] at unbuilt
                rw [← same]
                exact ih unbuilt
              · rw [builds_of_accepted step, List.map_cons, List.mem_cons, not_or] at unbuilt
                obtain ⟨tables, headers⟩ := ih unbuilt.2
                rw [tables, turn.lookup_tables unbuilt.1]
                exact ⟨rfl, fun s => by rw [headers s, turn.lookup_headers unbuilt.1 s]⟩

/-- A cascade changes nothing of a workbook but views and recorded headers. -/
theorem steps_workbook (order : List String) (c : Cascade) :
    (steps order c).1.workbook = { c.workbook with
      tables := (steps order c).1.workbook.tables
      headers := (steps order c).1.workbook.headers } :=
  steps_invariant (P := fun d => d.workbook = { c.workbook with
      tables := d.workbook.tables, headers := d.workbook.headers })
    (fun _ _ _ _ before turn => by rw [turn.workbook, before]) order rfl

theorem mem_of_mem_builds {order : List String} {c : Cascade} {b : Build}
    (member : b ∈ builds order c) : b.table ∈ order := by
  induction order generalizing c with
  | nil => simp [builds] at member
  | cons table rest ih =>
      rw [builds] at member
      split at member
      · split at member
        · rcases List.mem_cons.mp member with rfl | member
          · exact List.mem_cons_self
          · exact List.mem_cons_of_mem _ (ih member)
        · exact List.mem_cons_of_mem _ (ih member)
      · cases member

end Cascade

theorem Graph.not_mem_of_affected {g : Graph} {id : String} {order : List String}
    (found : g.affected [id] = .ok order) : id ∉ order := by
  obtain ⟨all, -, filtered⟩ := bind_ok_iff.mp found
  cases filtered
  simp

namespace Workbook

structure SameRecords (v w : Workbook) : Prop where
  sources : ∀ id, v.sources.lookup id = w.sources.lookup id
  tables : ∀ id, v.tables.lookup id = w.tables.lookup id
  merges : ∀ id, v.merges.lookup id = w.merges.lookup id
  graph : v.graph = w.graph
  headers : ∀ edge, v.headers.lookup edge = w.headers.lookup edge

theorem SameRecords.refl (w : Workbook) : w.SameRecords w :=
  ⟨fun _ => rfl, fun _ => rfl, fun _ => rfl, rfl, fun _ => rfl⟩

/-- Two workbooks have the same on record for one table and the edges into it. -/
def SameAt (v w : Workbook) (id : String) : Prop :=
  v.tables.lookup id = w.tables.lookup id ∧
    ∀ s, v.headers.lookup (id, s) = w.headers.lookup (id, s)

theorem setSource_of_error {w : Workbook} {source : Source} {fault : Fault}
    {notices : List Notice}
    (stopped : source.view w.inference w.registry w.store = ⟨notices, .error fault⟩) :
    w.setSource source = ({ w with sources := Assoc.set source.id source w.sources },
      ⟨notices, .error fault⟩) := by
  simp only [setSource, stopped]

theorem setSource_of_ok {w : Workbook} {source : Source} {view : Table} {notices : List Notice}
    (made : source.view w.inference w.registry w.store = ⟨notices, .ok view⟩) :
    w.setSource source =
      (({ w with sources := Assoc.set source.id source w.sources } : Workbook).setTable
        source.id view, ⟨notices, .ok view⟩) := by
  simp only [setSource, made]

theorem placed_sameRecords_iff {w : Workbook} {source : Source} :
    SameRecords { w with sources := Assoc.set source.id source w.sources } w ↔
      w.sources.lookup source.id = some source := by
  constructor
  · intro same
    have here := same.sources source.id
    simpa [Assoc.lookup_set] using here.symm
  · intro known
    have sources : Assoc.set source.id source w.sources = w.sources := Assoc.set_of_lookup known
    rw [sources]
    exact .refl w

theorem registerSource_failed {w : Workbook} {source : Source} {fault : Fault}
    (failed : (w.registerSource source).2.outcome = .error fault) :
    (Assoc.has source.id w.merges = true ∨ Assoc.has source.id w.sources = true) ∧
        (w.registerSource source).1 = w ∨
      (Assoc.has source.id w.merges = false ∧ Assoc.has source.id w.sources = false) ∧
        (w.registerSource source).1 =
          { w with sources := Assoc.set source.id source w.sources } := by
  unfold registerSource at failed ⊢
  cases merged : Assoc.has source.id w.merges with
  | true => exact .inl ⟨.inl rfl, rfl⟩
  | false =>
      cases raw : Assoc.has source.id w.sources with
      | true => exact .inl ⟨.inr rfl, rfl⟩
      | false =>
          simp only [merged, raw, Bool.false_eq_true, if_false] at failed ⊢
          cases report : source.view w.inference w.registry w.store with
          | mk notices outcome =>
              cases outcome with
              | error => exact .inr ⟨⟨trivial, trivial⟩, by rw [setSource_of_error report]⟩
              | ok view =>
                  rw [setSource_of_ok report] at failed
                  cases failed

/-- A source that a failed registration has left on record is refused from then on, whatever
document is put into the store. -/
theorem registerSource_again {w : Workbook} {source : Source} {fault : Fault}
    (failed : (w.registerSource source).2.outcome = .error fault)
    (unmerged : Assoc.has source.id w.merges = false) {other : Source}
    (same : other.id = source.id) (id text : String) :
    (((w.registerSource source).1.putRecord id text).registerSource other).2.outcome =
      .error (.alreadyRegistered source.id) := by
  rcases registerSource_failed failed with ⟨refused, after⟩ | ⟨-, after⟩
  · have raw := refused.resolve_left (by simp [unmerged])
    rw [after]
    simp [registerSource, putRecord, same, unmerged, raw, Report.fail]
  · rw [after]
    simp [registerSource, putRecord, same, unmerged, Report.fail]

/-- A workbook in which a source, its view and some tables downstream have been replaced. -/
structure Replaced (before : Workbook) (source : Source) (view : Table) (built : List String)
    (after : Workbook) : Prop where
  sources : after.sources = Assoc.set source.id source before.sources
  merges : after.merges = before.merges
  graph : after.graph = before.graph
  shown : after.tables.lookup source.id = some view
  recorded : ∀ s, after.headers.lookup (source.id, s) = before.headers.lookup (source.id, s)
  others : ∀ t, t ≠ source.id → t ∉ built → after.SameAt before t

theorem replaced_setSource {w : Workbook} {source : Source} {view : Table} {notices : List Notice}
    (made : source.view w.inference w.registry w.store = ⟨notices, .ok view⟩) :
    w.Replaced source view [] (w.setSource source).1 := by
  rw [setSource_of_ok made]
  constructor
  case sources | merges | graph => rfl
  case shown => simp [setTable, Assoc.lookup_set]
  case recorded => exact fun _ => rfl
  case others =>
    intro t other _
    exact ⟨by simp [setTable, Assoc.lookup_set, other], fun _ => rfl⟩

/-- However far the cascade comes that follows the replacement of a source, it adds nothing to what
has been replaced but the tables that it builds. -/
theorem Replaced.cascade {v w : Workbook} {source : Source} {view : Table}
    (replaced : w.Replaced source view [] v) :
    w.Replaced source view ((v.cascadeBuilds source.id source.columns).map Build.table)
      (v.cascade source.id source.columns).1 := by
  rcases v.cascade_cases source.id source.columns with
    ⟨same, none⟩ | ⟨order, found, reached, built⟩
  · rw [same, none]
    exact replaced
  · rw [reached, built]
    have whole := Cascade.steps_workbook order (Cascade.start v source.id source.columns)
    have own : source.id ∉
        (Cascade.builds order (Cascade.start v source.id source.columns)).map Build.table := by
      intro member
      obtain ⟨b, member, named⟩ := List.mem_map.mp member
      exact Graph.not_mem_of_affected found (named ▸ Cascade.mem_of_mem_builds member)
    have kept {t : String} (unbuilt : t ∉
        (Cascade.builds order (Cascade.start v source.id source.columns)).map Build.table) :
        (Cascade.steps order (Cascade.start v source.id source.columns)).1.workbook.SameAt v t :=
      Cascade.steps_keep unbuilt
    constructor
    case sources => rw [whole]; exact replaced.sources
    case merges => rw [whole]; exact replaced.merges
    case graph => rw [whole]; exact replaced.graph
    case shown => rw [(kept own).1, replaced.shown]
    case recorded => exact fun s => by rw [(kept own).2, replaced.recorded]
    case others =>
      intro t other unbuilt
      have earlier := replaced.others t other List.not_mem_nil
      have later := kept unbuilt
      exact ⟨later.1.trans earlier.1, fun s => (later.2 s).trans (earlier.2 s)⟩

/-- An update that could make the view of its source has replaced that view and the tables that its
cascade has built. -/
theorem replaced_updateSource {w : Workbook} {source : Source} {view : Table}
    {notices : List Notice} (known : Assoc.has source.id w.sources = true)
    (made : source.view w.inference w.registry w.store = ⟨notices, .ok view⟩) :
    w.Replaced source view ((w.builds (.updateSource source)).map Build.table)
      (w.updateSource source).1 := by
  have after : (w.updateSource source).1 =
      ((w.setSource source).1.cascade source.id source.columns).1 := by
    simp [updateSource, known, setSource_of_ok made]
  have builds : w.builds (.updateSource source) =
      (w.setSource source).1.cascadeBuilds source.id source.columns := by
    simp [builds, known, setSource_of_ok made]
  rw [after, builds]
  exact (replaced_setSource made).cascade

theorem updateSource_of_error {w : Workbook} {source : Source} {fault : Fault}
    {notices : List Notice} (known : Assoc.has source.id w.sources = true)
    (stopped : source.view w.inference w.registry w.store = ⟨notices, .error fault⟩) :
    w.updateSource source = ({ w with sources := Assoc.set source.id source w.sources },
        ⟨notices, .error fault⟩) ∧
      w.builds (.updateSource source) = [] := by
  simp [updateSource, builds, known, setSource_of_error stopped]

theorem Replaced.sameRecords_iff {before after : Workbook} {source : Source} {view : Table}
    {built : List String} (replaced : before.Replaced source view built after) :
    after.SameRecords before ↔
      before.sources.lookup source.id = some source ∧
        before.tables.lookup source.id = some view ∧ ∀ t ∈ built, after.SameAt before t := by
  constructor
  · intro same
    refine ⟨?_, ?_, fun t _ => ⟨same.tables t, fun s => same.headers (t, s)⟩⟩
    · rw [← same.sources, replaced.sources]
      simp [Assoc.lookup_set]
    · rw [← same.tables, replaced.shown]
  · rintro ⟨raw, shown, rebuilt⟩
    have same (t : String) : after.SameAt before t := by
      by_cases own : t = source.id
      · subst own
        exact ⟨replaced.shown.trans shown.symm, replaced.recorded⟩
      · by_cases member : t ∈ built
        · exact rebuilt t member
        · exact replaced.others t own member
    constructor
    case sources =>
      intro id
      rw [replaced.sources, Assoc.set_of_lookup raw]
    case tables => exact fun t => (same t).1
    case merges => exact fun _ => by rw [replaced.merges]
    case graph => exact replaced.graph
    case headers => exact fun edge => (same edge.1).2 edge.2

/-- A source is on record as it is and, if its view can be made, with that view; and whatever an
update with it rebuilds comes out as it stands. -/
structure Unmoved (w : Workbook) (source : Source) : Prop where
  raw : w.sources.lookup source.id = some source
  shown : ∀ view, (source.view w.inference w.registry w.store).outcome = .ok view →
    w.tables.lookup source.id = some view
  rebuilt : ∀ b ∈ w.builds (.updateSource source), (w.updateSource source).1.SameAt w b.table

theorem Unmoved.of_error {w : Workbook} {source : Source} {fault : Fault} {notices : List Notice}
    (raw : w.sources.lookup source.id = some source)
    (stopped : source.view w.inference w.registry w.store = ⟨notices, .error fault⟩) :
    w.Unmoved source where
  raw := raw
  shown view made := by
    rw [stopped] at made
    cases made
  rebuilt b member := by
    rw [(updateSource_of_error (Assoc.has_iff.mpr ⟨source, raw⟩) stopped).2] at member
    cases member

/-- A registration that fails changes nothing exactly if its id was taken, and otherwise leaves the
source without a view. An update that fails changes nothing exactly if there was no such source or
all that it had replaced until then stood there already. -/
theorem failure_changes_nothing_iff (w : Workbook) (source : Source) :
    (∀ fault, (w.registerSource source).2.outcome = .error fault →
      ((w.registerSource source).1.SameRecords w ↔
        Assoc.has source.id w.merges = true ∨ Assoc.has source.id w.sources = true)) ∧
    (∀ fault, (w.updateSource source).2.outcome = .error fault →
      ((w.updateSource source).1.SameRecords w ↔
        (Assoc.has source.id w.sources = true → w.Unmoved source))) := by
  constructor
  · intro fault failed
    rcases registerSource_failed failed with ⟨refused, after⟩ | ⟨fresh, after⟩
    · rw [after]
      simp [refused, SameRecords.refl]
    · have missing : w.sources.lookup source.id = none := by
        simpa [Assoc.has] using fresh.2
      rw [after, placed_sameRecords_iff]
      simp [fresh, missing]
  · intro fault failed
    cases known : Assoc.has source.id w.sources with
    | false => simp [updateSource, known, SameRecords.refl]
    | true =>
        simp only [true_imp_iff]
        cases report : source.view w.inference w.registry w.store with
        | mk notices outcome =>
            cases outcome with
            | error =>
                rw [(updateSource_of_error known report).1, placed_sameRecords_iff]
                exact ⟨fun raw => .of_error raw report, Unmoved.raw⟩
            | ok view =>
                rw [(replaced_updateSource known report).sameRecords_iff]
                constructor
                · rintro ⟨raw, shown, rebuilt⟩
                  refine ⟨raw, by simpa [report] using shown, ?_⟩
                  exact fun b member => rebuilt b.table (List.mem_map_of_mem member)
                · rintro ⟨raw, shown, rebuilt⟩
                  refine ⟨raw, shown view (by rw [report]), ?_⟩
                  intro t member
                  obtain ⟨b, listed, rfl⟩ := List.mem_map.mp member
                  exact rebuilt b listed

/-- A settings record of a later version than any that can be read. -/
def laterRecord : Json := .obj [("schema_version", .int 3)]

theorem load_laterRecord (store : Store) (id : String) :
    (store.put id (laterRecord.render .line)).load id = Report.fail (.newerVersion 3) := by
  have plain : Json.Plain Json.maxNesting laterRecord := by
    refine .obj (by decide) fun m member => ?_
    obtain rfl := List.mem_singleton.mp member
    exact .int (by decide)
  have refused : Settings.ofRecord laterRecord = .error (.newerVersion 3) := by rfl
  have record : (store.put id (laterRecord.render .line)).record? id = pure (some laterRecord) := by
    rw [Store.record?, Store.text?_put, if_pos rfl]
    simp only [Json.read_render plain .line]
    rfl
  rw [Store.load, record, pure_bind]
  simp only [refused]

/-- A workbook without tables, in whose store is such a record for a table to come. -/
def awaiting : Workbook :=
  (empty ⟨10, 2025⟩ Registry.standard (Store.empty .memory)).putRecord "a"
    (laterRecord.render .line)

theorem view_laterRecord {inference : Inference} {source : Source} {table : Table}
    (typed : Table.ofSource inference source = .ok table) (registry : Registry) (store : Store) :
    source.view inference registry (store.put source.id (laterRecord.render .line)) =
      Report.fail (.newerVersion 3) := by
  rw [Source.view, typed, Report.lift_ok, pure_bind, load_laterRecord]
  rfl

/-- The table with such a record cannot be registered, and yet it counts as registered from then
on, whatever record takes the place of that one. -/
theorem unreadable_record_leaves_source :
    Reachable (fun _ => True) awaiting ∧
      (awaiting.registerSource (keySource "a")).2.outcome = .error (.newerVersion 3) ∧
      ¬ (awaiting.registerSource (keySource "a")).1.SameRecords awaiting ∧
      ∀ text, (((awaiting.registerSource (keySource "a")).1.putRecord "a" text).registerSource
        (keySource "a")).2.outcome = .error (.alreadyRegistered "a") := by
  have typed : Table.ofSource ⟨10, 2025⟩ (keySource "a") = .ok (textView ["k"]) := by decide +kernel
  have stopped : (keySource "a").view awaiting.inference awaiting.registry awaiting.store =
      Report.fail (.newerVersion 3) := view_laterRecord typed .standard (.empty .memory)
  have placed : awaiting.registerSource (keySource "a") = awaiting.setSource (keySource "a") := by
    simp [registerSource, awaiting, putRecord, empty, Assoc.has]
  rw [setSource_of_error stopped] at placed
  have failed : (awaiting.registerSource (keySource "a")).2.outcome = .error (.newerVersion 3) := by
    rw [placed]
  have unmerged : Assoc.has (keySource "a").id awaiting.merges = false := rfl
  refine ⟨.call (c := .putRecord "a" _) (.empty ..) trivial, failed, ?_, ?_⟩
  · rw [placed, placed_sameRecords_iff]
    simp [awaiting, putRecord, empty]
  · exact fun text => registerSource_again failed unmerged rfl "a" text

/-- An update that cannot read the settings of its table changes nothing if the source is the one
on record and something if it has another column. -/
theorem unreadable_record_update :
    let w := (chain.putRecord "a" (laterRecord.render .line))
    let wider : Source := ⟨"a", ["k", "x"], [], by simp [Rectangular]⟩
    (w.updateSource (keySource "a")).2.outcome = .error (.newerVersion 3) ∧
      (w.updateSource (keySource "a")).1.SameRecords w ∧
      (w.updateSource wider).2.outcome = .error (.newerVersion 3) ∧
      ¬ (w.updateSource wider).1.SameRecords w := by
  intro w wider
  have raw : w.sources.lookup "a" = some (keySource "a") := by rfl
  have known : Assoc.has "a" w.sources = true := Assoc.has_iff.mpr ⟨_, raw⟩
  have same : (keySource "a").view w.inference w.registry w.store =
      Report.fail (.newerVersion 3) := by
    have typed : Table.ofSource w.inference (keySource "a") = .ok (textView ["k"]) := by
      decide +kernel
    exact view_laterRecord typed w.registry chain.store
  have other : wider.view w.inference w.registry w.store = Report.fail (.newerVersion 3) := by
    have typed : Table.ofSource w.inference wider = .ok (textView ["k", "x"]) := by decide +kernel
    exact view_laterRecord typed w.registry chain.store
  have failed : (w.updateSource (keySource "a")).2.outcome = .error (.newerVersion 3) := by
    rw [(updateSource_of_error known same).1]
  have failedWider : (w.updateSource wider).2.outcome = .error (.newerVersion 3) := by
    rw [(updateSource_of_error known other).1]
  refine ⟨failed, ?_, failedWider, ?_⟩
  · refine ((failure_changes_nothing_iff w (keySource "a")).2 _ failed).mpr fun _ => ?_
    exact .of_error raw same
  · intro kept
    have unmoved := ((failure_changes_nothing_iff w wider).2 _ failedWider).mp kept known
    have columns := congrArg Source.columns (Option.some.inj (raw.symm.trans unmoved.raw))
    exact absurd columns (by decide)

end Workbook

end Gridbook
