import Gridbook.Proofs.Settings.Version
import Gridbook.Proofs.Table.Reopening
import Gridbook.Proofs.Workbook.Aftermath

/-! # Views and their saved settings

Adopting an edited table does two things: the table is shown in place of the old one, and a snapshot
of it goes into the store. When all goes well the two tell of the same table. The table is shown
first, though, so when the snapshot cannot be saved the store still tells of the old one.
-/

namespace Gridbook

theorem Checked.toExcept_eq_ok {α : Type} {check : Checked α} {a : α} :
    check.toExcept = .ok a ↔ check = ok a := by
  cases check with
  | error found => exact ⟨fun passed => (nomatch passed), fun passed => (nomatch passed)⟩
  | ok b => exact ⟨fun passed => congrArg ok (Except.ok.inj passed), fun passed => passed ▸ rfl⟩

/-- Name and formula of a column, if it is calculated. -/
def ColumnInfo.calculation? (info : ColumnInfo) : Option (String × String) :=
  info.formula.map fun formula => (info.name, formula)

def StoredField.calculation (field : StoredField) : String × String :=
  (field.name, field.formula)

namespace Settings

/-- The widths that a document gives. An empty one gives none. -/
def givenWidths (document : Json) : Checked (List (Int × Int)) :=
  if document.isGiven then Checked.widths document else Checked.ok []

/-- Settings tell all about a table: each of its columns in order, and the widths that are given or,
where none are, those that were stored. -/
structure SnapshotOf (settings : Settings) (table : Table) (given : Option Json)
    (stored : Option Settings) : Prop where
  version : settings.version = currentVersion
  columns : settings.columns = table.info.filterMap ColumnInfo.stored?
  fields : settings.fields.map StoredField.calculation =
    table.info.filterMap ColumnInfo.calculation?
  widths : match given with
    | some document => givenWidths document = Checked.ok settings.widths
    | none => settings.widths = stored.elim [] Settings.widths

variable {settings next : Settings} {document : Json} {widths : List (Int × Int)}

theorem withWidths_eq_ok : settings.withWidths document = .ok next ↔
    ∃ widths, givenWidths document = Checked.ok widths ∧ { settings with widths } = next := by
  unfold withWidths
  rw [bind_ok_iff]
  simp only [Checked.toExcept_eq_ok, Checked.under_eq_ok]
  exact exists_congr fun widths => and_congr_right fun _ => ⟨Except.ok.inj, congrArg Except.ok⟩

theorem distinct_of_givenWidths (given : givenWidths document = Checked.ok widths) :
    (widths.map Prod.fst).Nodup := by
  unfold givenWidths at given
  split at given
  · cases document with
    | obj entries =>
        obtain ⟨entries, -, rfl⟩ := Checked.map_eq_ok.mp given
        exact nodup_keys_foldl_set List.nodup_nil
    | null | bool | int | float | str | arr => cases given
  · rw [← Except.ok.inj given]
    exact List.nodup_nil

theorem givenWidths_document (writable : WritableWidths widths) :
    givenWidths (.obj (widths.map fun (i, w) => (intDigits i, .int w))) = Checked.ok widths := by
  cases widths with
  | nil => rfl
  | cons first rest => exact writable.read

end Settings

namespace Table

variable {table : Table} {settings : Settings} {fields : List StoredField}

theorem field?_of_unnamed {info : ColumnInfo} {formula : String}
    (calculated : info.formula = some formula) (unnamed : info.name = "") :
    info.field? = some (.error (.invalidSettings [⟨["name"], .stringTooShort⟩])) := by
  obtain ⟨_, _, _, _, _⟩ := info
  subst unnamed
  cases calculated
  simp [ColumnInfo.field?]

theorem mapM_field?_eq_ok {info : List ColumnInfo} :
    (info.filterMap ColumnInfo.field?).mapM id = .ok fields ↔
      fields.map StoredField.calculation = info.filterMap ColumnInfo.calculation? := by
  induction info generalizing fields with
  | nil => cases fields <;> simp [pure, Except.pure]
  | cons first rest ih =>
      cases calculated : first.formula with
      | none =>
          have absent : first.calculation? = none := by simp [ColumnInfo.calculation?, calculated]
          rw [List.filterMap_cons_none (ColumnInfo.field?_of_plain calculated), ih,
            List.filterMap_cons_none absent]
      | some formula =>
          have shown : first.calculation? = some (first.name, formula) := by
            simp [ColumnInfo.calculation?, calculated]
          rw [List.filterMap_cons_some shown]
          by_cases unnamed : first.name = ""
          · rw [List.filterMap_cons_some (field?_of_unnamed calculated unnamed), List.mapM_cons]
            refine ⟨fun stored => (nomatch stored), fun listed => ?_⟩
            obtain ⟨field, later, rfl, same, -⟩ := List.map_eq_cons_iff.mp listed
            exact absurd ((congrArg Prod.fst same).trans unnamed) field.name_ne
          · have filled : formula ≠ "" := by
              rintro rfl
              exact first.formula_ne calculated
            have here : first.field? = some (.ok ⟨first.name, formula, unnamed, filled⟩) :=
              ColumnInfo.field?_of_field rfl calculated
            rw [List.filterMap_cons_some here, List.mapM_cons]
            constructor
            · intro stored
              obtain ⟨field, own, stored⟩ := bind_ok_iff.mp stored
              obtain ⟨later, others, stored⟩ := bind_ok_iff.mp stored
              cases own
              cases stored
              rw [List.map_cons, ih.mp others]
              rfl
            · intro listed
              obtain ⟨field, later, rfl, same, others⟩ := List.map_eq_cons_iff.mp listed
              obtain ⟨name, text, _, _⟩ := field
              cases same
              exact bind_ok_iff.mpr ⟨_, rfl, bind_ok_iff.mpr ⟨later, ih.mpr others, rfl⟩⟩

theorem settings_eq_ok : table.settings = .ok settings ↔
    ∃ fields : List StoredField,
      fields.map StoredField.calculation = table.info.filterMap ColumnInfo.calculation? ∧
        ⟨Settings.currentVersion, [], table.info.filterMap ColumnInfo.stored?, fields⟩ =
          settings := by
  rw [Table.settings, bind_ok_iff]
  exact exists_congr fun fields =>
    and_congr mapM_field?_eq_ok ⟨Except.ok.inj, congrArg Except.ok⟩

def settingsFor (table : Table) (given : Option Json) (stored : Option Settings) :
    Except Fault Settings :=
  match given with
  | some document => table.snapshot document
  | none => do
      let kept := stored.elim [] Settings.widths
      return { ← table.settings with widths := kept }

theorem save_eq (id : String) (given : Option Json) (store : Store) :
    table.save id given store = store.update id (table.settingsFor given) := rfl

theorem settingsFor_eq_ok {given : Option Json} {stored : Option Settings} :
    table.settingsFor given stored = .ok settings ↔ settings.SnapshotOf table given stored := by
  constructor
  · intro saved
    cases given with
    | none =>
        obtain ⟨base, plain, made⟩ := bind_ok_iff.mp saved
        obtain ⟨fields, listed, rfl⟩ := settings_eq_ok.mp plain
        cases made
        exact ⟨rfl, rfl, listed, rfl⟩
    | some document =>
        obtain ⟨base, plain, made⟩ := bind_ok_iff.mp saved
        obtain ⟨fields, listed, rfl⟩ := settings_eq_ok.mp plain
        obtain ⟨widths, checked, rfl⟩ := Settings.withWidths_eq_ok.mp made
        exact ⟨rfl, rfl, listed, checked⟩
  · rintro ⟨version, columns, fields, widths⟩
    obtain ⟨_, _, _, _⟩ := settings
    cases version
    cases columns
    have plain := settings_eq_ok.mpr ⟨_, fields, rfl⟩
    cases given with
    | none =>
        cases widths
        exact bind_ok_iff.mpr ⟨_, plain, rfl⟩
    | some document =>
        exact bind_ok_iff.mpr ⟨_, plain, Settings.withWidths_eq_ok.mpr ⟨_, widths, rfl⟩⟩

end Table

theorem Settings.SnapshotOf.distinct {settings : Settings} {table : Table} {given : Option Json}
    {stored : Option Settings} {store : Store} {id : String}
    (snapshot : settings.SnapshotOf table given stored)
    (loaded : (store.load id).outcome = .ok stored) : (settings.widths.map Prod.fst).Nodup := by
  have widths := snapshot.widths
  cases given with
  | some document => exact distinct_of_givenWidths widths
  | none =>
      rw [widths]
      cases stored with
      | none => exact List.nodup_nil
      | some current => exact (Store.load_widths loaded).distinct

/-- A table is saved if the record in its place can be read and a snapshot can be made and
written. -/
theorem Table.save_eq_ok {table : Table} {settings : Settings} {given : Option Json}
    {store next : Store} {id : String} :
    (table.save id given store).outcome = .ok (next, settings) ↔
      ∃ stored, (store.load id).outcome = .ok stored ∧ settings.SnapshotOf table given stored ∧
        settings.Storable ∧ store.put id (settings.toJson.render store.layout) = next := by
  rw [save_eq, Store.update_eq_ok]
  constructor
  · rintro ⟨stored, text, loaded, made, written, rfl⟩
    have snapshot := settingsFor_eq_ok.mp made
    have storable := Settings.storable_of_text snapshot.version (snapshot.distinct loaded) written
    refine ⟨stored, loaded, snapshot, storable, ?_⟩
    rw [Settings.text_of_storable storable] at written
    rw [Except.ok.inj written]
  · rintro ⟨stored, loaded, snapshot, storable, rfl⟩
    exact ⟨stored, _, loaded, settingsFor_eq_ok.mpr snapshot,
      Settings.text_of_storable storable store.layout, rfl⟩

namespace Workbook

/-- An edited table has taken the place of another one, in the view and in the store, and nothing
else has changed. -/
structure Persisted (before : Workbook) (id : String) (table : Table) (given : Option Json)
    (after : Workbook) : Prop where
  shown : after.table id = .ok table
  saved : ∃ stored settings, (before.store.load id).outcome = .ok stored ∧
    settings.SnapshotOf table given stored ∧ after.store.load id = pure (some settings)
  otherViews : ∀ t, t ≠ id → after.tables.lookup t = before.tables.lookup t
  otherRecords : ∀ t, t ≠ id → after.store.load t = before.store.load t
  rest : after = { before with tables := after.tables, store := after.store }

theorem updateTable_cases (w : Workbook) (id : String) (table : Table) (given : Option Json) :
    (Assoc.has id w.tables = false ∧
        w.updateTable id table given = (w, Report.fail (.unknownTable id))) ∨
      Assoc.has id w.tables = true ∧
        ((∃ fault, (table.save id given w.store).outcome = .error fault ∧
            (w.updateTable id table given).1 = w.setTable id table ∧
            (w.updateTable id table given).2.outcome = .error fault) ∨
          ∃ store settings, (table.save id given w.store).outcome = .ok (store, settings) ∧
            (w.updateTable id table given).1 = { w.setTable id table with store } ∧
            (w.updateTable id table given).2.outcome = .ok ()) := by
  cases known : Assoc.has id w.tables with
  | false => exact .inl ⟨rfl, by simp [updateTable, known]⟩
  | true =>
      refine .inr ⟨rfl, ?_⟩
      have store : (w.setTable id table).store = w.store := rfl
      cases report : table.save id given w.store with
      | mk notices outcome =>
          cases outcome with
          | error fault =>
              exact .inl ⟨fault, rfl, by simp [updateTable, known, store, report],
                by simp [updateTable, known, store, report]⟩
          | ok result =>
              obtain ⟨next, settings⟩ := result
              exact .inr ⟨next, settings, rfl, by simp [updateTable, known, store, report],
                by simp [updateTable, known, store, report]⟩

theorem setTable_sameRecords_iff {w : Workbook} {id : String} {table : Table} :
    (w.setTable id table).SameRecords w ↔ w.tables.lookup id = some table := by
  constructor
  · intro same
    have here := same.tables id
    simpa [setTable, Assoc.lookup_set] using here.symm
  · intro shown
    have tables : Assoc.set id table w.tables = w.tables := Assoc.set_of_lookup shown
    rw [setTable, tables]
    exact .refl w

theorem persisted_of_saved {w : Workbook} {id : String} {table : Table} {given : Option Json}
    {store : Store} {settings : Settings}
    (saved : (table.save id given w.store).outcome = .ok (store, settings)) :
    w.Persisted id table given { w.setTable id table with store } := by
  obtain ⟨stored, loaded, snapshot, storable, rfl⟩ := Table.save_eq_ok.mp saved
  constructor
  case shown => simp [Workbook.table, setTable, Assoc.lookup_set]
  case saved =>
    refine ⟨stored, settings, loaded, snapshot, Store.load_of_text storable ?_⟩
    rw [Store.text?_put, if_pos rfl]
    rfl
  case otherViews =>
    intro t other
    simp [setTable, Assoc.lookup_set, other]
  case otherRecords =>
    intro t other
    exact Store.load_congr rfl (by rw [Store.text?_put, if_neg other])
  case rest => rfl

/-- An update succeeds exactly if the table is known, its record can be read, and a snapshot can be
made and written; then view and store both have the new table, and nothing else changes. An update
that fails leaves the store as it was, but it changes the view, unless the table is unknown or is
shown already. -/
theorem failed_update_shown_iff (w : Workbook) (id : String) (table : Table)
    (given : Option Json) :
    ((w.updateTable id table given).2.outcome = .ok () ↔
        Assoc.has id w.tables = true ∧ ∃ stored settings, (w.store.load id).outcome = .ok stored ∧
          Settings.SnapshotOf settings table given stored ∧ settings.Storable) ∧
      ((w.updateTable id table given).2.outcome = .ok () →
        w.Persisted id table given (w.updateTable id table given).1) ∧
      ∀ fault, (w.updateTable id table given).2.outcome = .error fault →
        (w.updateTable id table given).1.store = w.store ∧
          ((w.updateTable id table given).1.SameRecords w ↔
            (Assoc.has id w.tables = true → w.tables.lookup id = some table)) := by
  have savable : (∃ stored settings, (w.store.load id).outcome = .ok stored ∧
      Settings.SnapshotOf settings table given stored ∧ settings.Storable) ↔
      ∃ store settings, (table.save id given w.store).outcome = .ok (store, settings) := by
    simp only [Table.save_eq_ok]
    constructor
    · rintro ⟨stored, settings, loaded, snapshot, storable⟩
      exact ⟨_, settings, stored, loaded, snapshot, storable, rfl⟩
    · rintro ⟨_, settings, stored, loaded, snapshot, storable, -⟩
      exact ⟨stored, settings, loaded, snapshot, storable⟩
  rw [savable]
  rcases w.updateTable_cases id table given with
    ⟨unknown, refused⟩ | ⟨known, ⟨fault, unsaved, after, failed⟩ |
      ⟨store, settings, saved, after, done⟩⟩
  · rw [refused]
    simp [unknown, Report.fail, SameRecords.refl]
  · rw [after, failed]
    refine ⟨by simp [unsaved], by simp, fun _ _ => ⟨rfl, ?_⟩⟩
    simp [known, setTable_sameRecords_iff]
  · rw [after, done]
    exact ⟨by simp [known, saved], fun _ => persisted_of_saved saved, by simp⟩

/-- A source at the start of a chain is given another column and a width. -/
theorem chain_update_persisted :
    let given := some (Json.obj [("0", .int 120)])
    (chain.updateTable "a" (textView ["z"]) given).2.outcome = .ok () ∧
      chain.Persisted "a" (textView ["z"]) given
        (chain.updateTable "a" (textView ["z"]) given).1 := by
  intro given
  have widths : Settings.WritableWidths [(0, 120)] := ⟨by decide, by decide⟩
  have snapshot : Settings.SnapshotOf
      ⟨Settings.currentVersion, [(0, 120)], [⟨"z", .text, none⟩], []⟩ (textView ["z"]) given none :=
    ⟨rfl, rfl, rfl, Settings.givenWidths_document widths⟩
  obtain ⟨succeeds, persisted, -⟩ := failed_update_shown_iff chain "a" (textView ["z"]) given
  have done := succeeds.mpr ⟨by decide, none, _, rfl, snapshot, rfl, widths⟩
  exact ⟨done, persisted done⟩

/-- A record of a later version keeps the settings from being saved, and the table is shown all the
same. -/
theorem later_record_divides_update :
    let w := chain.putRecord "a" (laterRecord.render .line)
    let after := w.updateTable "a" (textView ["z"]) none
    Reachable (fun _ => True) w ∧ after.2.outcome = .error (.newerVersion 3) ∧
      after.1.store = w.store ∧ w.table "a" = .ok (textView ["k"]) ∧
      after.1.table "a" = .ok (textView ["z"]) := by
  intro w after
  have unsaved : (textView ["z"]).save "a" none w.store = Report.fail (.newerVersion 3) := by
    rw [Table.save_eq, Store.update, show w.store = chain.store.put "a" _ from rfl,
      load_laterRecord]
    rfl
  have known : Assoc.has "a" w.tables = true := by decide
  have same : (w.setTable "a" (textView ["z"])).store = w.store := rfl
  have divided : after = (w.setTable "a" (textView ["z"]), Report.fail (.newerVersion 3)) := by
    simp [after, updateTable, known, same, unsaved, Report.fail]
  rw [divided]
  exact ⟨.call (c := .putRecord "a" _) (chain_reachable fun _ _ => trivial) trivial, rfl, rfl,
    rfl, rfl⟩

end Workbook

end Gridbook
