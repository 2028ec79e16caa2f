import Mathlib
import Gridbook.Proofs.Column.Inference
import Gridbook.Proofs.Settings.Shelf
import Gridbook.Proofs.Table.Recall
import Gridbook.Settings.Replay

/-! # Saving a table and viewing its source again

Every table that comes from a source by edits can be saved, and the source can be viewed again. The
view has the columns of the table in their order. The columns of the source have their types and
formats again; the calculated columns have those with which they were added.
-/

namespace Gridbook

namespace ColumnInfo

/-- A column as it is when it has just been added: a calculated one holds numbers and has no
format. -/
def asAdded (info : ColumnInfo) : ColumnInfo :=
  if info.isCalculated then { info with type := .number, format := none } else info

variable {info : ColumnInfo}

theorem asAdded_of_plain (plain : info.formula = none) : info.asAdded = info := by
  simp [asAdded, isCalculated, plain]

theorem asAdded_of_field {field : StoredField} (name : info.name = field.name)
    (formula : info.formula = some field.formula) :
    info.asAdded = .calculated field.name field.formula field.formula_ne := by
  obtain ⟨_, _, _, _, _⟩ := info
  subst name
  cases formula
  rfl

theorem field?_of_plain (plain : info.formula = none) : info.field? = none := by
  unfold field?
  split <;> simp_all

theorem field?_of_field {field : StoredField} (name : info.name = field.name)
    (formula : info.formula = some field.formula) : info.field? = some (.ok field) := by
  obtain ⟨_, _, _, _, _⟩ := info
  subst name
  cases formula
  simp [field?, field.name_ne]

theorem stored?_of_plain (plain : info.formula = none) :
    info.stored? = some ⟨info.name, info.type, info.format⟩ := by
  simp [stored?, isCalculated, plain]

theorem stored?_of_field {formula : String} (calculated : info.formula = some formula) :
    info.stored? = none := by
  simp [stored?, isCalculated, calculated]

theorem restored_of_entry {old : ColumnInfo} {settings : Settings} (name : old.name = info.name)
    (formula : old.formula = info.formula) (plain : info.formula = none)
    (entry : settings.column? old.name = some ⟨info.name, info.type, info.format⟩) :
    old.restored settings = info := by
  obtain ⟨_, _, _, _, _⟩ := old
  obtain ⟨_, _, _, _, _⟩ := info
  simp only at name formula plain
  subst name plain formula
  rw [restored, entry]
  rfl

end ColumnInfo

namespace Table

variable {registry : Registry} {table next : Table} {source : Source} {fields : List StoredField}

theorem Based.info (based : Based source fields table) :
    ∃ plain calculated, table.info = plain ++ calculated ∧
      plain.map (fun info => (info.name, info.formula)) =
        source.columns.map (fun name => (name, none)) ∧
      calculated.map (fun info => (info.name, info.formula)) =
        fields.map fun field => (field.name, some field.formula) :=
  List.map_eq_append_iff.mp based.recipe

theorem plain_of_map {plain : List ColumnInfo} {names : List String}
    (kinds : plain.map (fun info => (info.name, info.formula)) =
      names.map fun name => (name, none)) :
    plain.map ColumnInfo.name = names ∧ ∀ info ∈ plain, info.formula = none := by
  constructor
  · have named := map_eq_map_of_keys (f := ColumnInfo.name) (g := id) kinds
      fun info _ name _ same => (Prod.mk.inj same).1
    rwa [List.map_id] at named
  · intro info among
    have kind := List.mem_map_of_mem (f := fun info => (info.name, info.formula)) among
    rw [kinds] at kind
    obtain ⟨name, -, same⟩ := List.mem_map.mp kind
    exact (Prod.mk.inj same).2.symm

theorem Rooted.settings (rooted : Rooted source fields table) : table.settings =
    .ok { Settings.empty with columns := table.info.filterMap ColumnInfo.stored?, fields } := by
  obtain ⟨plain, calculated, shape, front, behind⟩ := rooted.info
  have none : plain.filterMap ColumnInfo.field? = [] := by
    rw [List.filterMap_eq_nil_iff]
    exact fun info among => ColumnInfo.field?_of_plain ((plain_of_map front).2 info among)
  have each : calculated.filterMap ColumnInfo.field? = fields.map Except.ok := by
    have same := map_eq_map_of_keys (f := ColumnInfo.field?) (g := fun field => some (.ok field))
      behind fun info _ field _ kind =>
        ColumnInfo.field?_of_field (Prod.mk.inj kind).1 (Prod.mk.inj kind).2
    have kept := congrArg (List.filterMap id) same
    simpa [List.filterMap_map, Function.comp_def] using kept
  have made : (table.info.filterMap ColumnInfo.field?).mapM id = .ok fields := by
    rw [shape, List.filterMap_append, none, each, List.nil_append, mapM_map_ok]
  rw [Table.settings, made]
  rfl

theorem filterMap_stored? {plain calculated : List ColumnInfo}
    (shape : table.info = plain ++ calculated) (front : ∀ info ∈ plain, info.formula = none)
    (behind : calculated.map (fun info => (info.name, info.formula)) =
      fields.map fun field => (field.name, some field.formula)) :
    table.info.filterMap ColumnInfo.stored? =
      plain.map fun info => ⟨info.name, info.type, info.format⟩ := by
  have none : calculated.filterMap ColumnInfo.stored? = [] := by
    rw [List.filterMap_eq_nil_iff]
    intro info among
    have kind := List.mem_map_of_mem (f := fun info => (info.name, info.formula)) among
    rw [behind] at kind
    obtain ⟨field, -, same⟩ := List.mem_map.mp kind
    exact ColumnInfo.stored?_of_field (Prod.mk.inj same).2.symm
  rw [shape, List.filterMap_append, none, List.append_nil, ← List.filterMap_eq_map]
  exact List.filterMap_congr fun info among => ColumnInfo.stored?_of_plain (front info among)

theorem Rooted.stored_names (rooted : Rooted source fields table) :
    (table.info.filterMap ColumnInfo.stored?).map StoredColumn.name = source.columns := by
  obtain ⟨plain, calculated, shape, front, behind⟩ := rooted.info
  obtain ⟨names, formulas⟩ := plain_of_map front
  rw [filterMap_stored? shape formulas behind, List.map_map, ← names]
  rfl

theorem find?_name {columns : List StoredColumn} {column : StoredColumn}
    (distinct : (columns.map StoredColumn.name).Nodup) (among : column ∈ columns) :
    columns.find? (fun c => c.name == column.name) = some column := by
  induction columns with
  | nil => cases among
  | cons first rest ih =>
      obtain ⟨fresh, distinct⟩ := List.nodup_cons.mp distinct
      rcases List.mem_cons.mp among with rfl | among
      · simp
      · have other : (first.name == column.name) = false :=
          beq_false_of_ne fun same => fresh (same ▸ List.mem_map_of_mem among)
        rw [List.find?_cons, other]
        exact ih distinct among

theorem Rooted.restored (rooted : Rooted source fields table) {base : Table}
    (view : base.recipe = source.columns.map fun name => (name, none)) {settings : Settings}
    (stored : settings.columns = table.info.filterMap ColumnInfo.stored?) :
    base.info.map (ColumnInfo.restored settings) ++
      fields.map (fun field => .calculated field.name field.formula field.formula_ne) =
        table.info.map ColumnInfo.asAdded := by
  obtain ⟨plain, calculated, shape, front, behind⟩ := rooted.info
  obtain ⟨names, formulas⟩ := plain_of_map front
  have columns := stored.trans (filterMap_stored? shape formulas behind)
  have distinct : (settings.columns.map StoredColumn.name).Nodup := by
    rw [stored, rooted.stored_names]
    exact (List.nodup_append.mp (rooted.columns ▸ rooted.distinct)).1
  rw [shape, List.map_append]
  congr 1
  · refine map_eq_map_of_keys (view.trans front.symm) ?_
    intro old _ info among kind
    obtain ⟨name, formula⟩ := Prod.mk.inj kind
    have plain := formulas info among
    have entry : settings.column? old.name = some ⟨info.name, info.type, info.format⟩ := by
      rw [name]
      exact find?_name distinct (columns ▸ List.mem_map_of_mem among)
    rw [ColumnInfo.asAdded_of_plain plain, ColumnInfo.restored_of_entry name formula plain entry]
  · refine (map_eq_map_of_keys behind ?_).symm
    intro info _ field _ kind
    exact ColumnInfo.asAdded_of_field (Prod.mk.inj kind).1 (Prod.mk.inj kind).2

theorem foldlM_restoreField (ready : ∀ field ∈ fields, field.Ready)
    (distinct : (table.columns ++ fields.map StoredField.name).Nodup) :
    ∃ next, fields.foldlM (restoreField registry) table = pure next ∧
      next.columns = table.columns ++ fields.map StoredField.name ∧
      next.info = table.info ++
        fields.map fun field => .calculated field.name field.formula field.formula_ne := by
  induction fields generalizing table with
  | nil => exact ⟨table, rfl, by simp, by simp⟩
  | cons field rest ih =>
      obtain ⟨now, later⟩ := List.forall_mem_cons.mp ready
      obtain ⟨compiled, read⟩ := now.compiled
      have fresh : field.name ∉ table.columns := fun taken =>
        (List.nodup_append.mp distinct).2.2 _ taken _ List.mem_cons_self rfl
      have absent : table.columns.contains field.name = false := by simpa using fresh
      have added : restoreField registry table field =
          pure (table.extend registry field compiled) := by
        rw [restoreField, absent, materialize_ready now read fresh]
        rfl
      obtain ⟨next, done, columns, info⟩ :=
        @ih (table.extend registry field compiled) later (by simpa using distinct)
      refine ⟨next, ?_, by simpa using columns, by simpa using info⟩
      rw [List.foldlM_cons, added, pure_bind, done]

theorem inferInfo_recipe {inference : Inference} {i : Nat} {names : List String}
    {info : List ColumnInfo} (inferred : inferInfo inference source i names = .ok info) :
    info.map (fun info => (info.name, info.formula)) = names.map fun name => (name, none) := by
  induction names generalizing i info with
  | nil =>
      cases inferred
      rfl
  | cons name rest ih =>
      obtain ⟨type, -, inferred⟩ := bind_ok_iff.mp inferred
      obtain ⟨others, later, inferred⟩ := bind_ok_iff.mp inferred
      cases inferred
      rw [List.map_cons, List.map_cons, ih later]
      rfl

theorem ofSource_recipe {inference : Inference} {base : Table}
    (made : ofSource inference source = .ok base) :
    base.recipe = source.columns.map fun name => (name, none) := by
  unfold ofSource at made
  split at made
  case h_1 info inferred =>
    cases made
    exact inferInfo_recipe inferred
  case h_2 => cases made

theorem Based.ofSource {inference : Inference} {base : Table}
    (made : Table.ofSource inference source = .ok base) : Based source [] base := by
  obtain ⟨columns, rows⟩ := ofSource_frame made
  have recipe := ofSource_recipe made
  refine ⟨by simp [columns], by simp [recipe], by simp, by simp, ?_⟩
  rw [rows, List.map_congr_left fun row among =>
    List.take_of_length_le (Nat.le_of_eq (source.rectangular row among)), List.map_id']

theorem Rooted.ofSource {inference : Inference} {base : Table} (distinct : source.columns.Nodup)
    (made : Table.ofSource inference source = .ok base) : Rooted source [] base where
  toBased := .ofSource made
  distinct := (ofSource_frame made).1 ▸ distinct

theorem mapInfo_restyled (settings : Settings) :
    Restyled table (table.mapInfo (ColumnInfo.restored settings)) := by
  refine ⟨rfl, rfl, ?_⟩
  rw [recipe, mapInfo, List.map_map]
  refine List.map_congr_left fun info _ => ?_
  simp only [Function.comp_apply, ColumnInfo.restored]
  split
  · rfl
  · split <;> rfl

theorem replay_outcome (registry : Registry) (settings : Settings) (table : Table) :
    (table.replay registry settings).outcome = (settings.fields.foldlM (restoreField registry)
      (table.mapInfo (ColumnInfo.restored settings))).outcome := by
  unfold replay
  simp only
  split <;> rfl

theorem foldlM_preserves {P : Table → Prop}
    (extend : ∀ table next name formula, materialize registry name formula table = .ok next →
      P table → P next)
    (done : (fields.foldlM (restoreField registry) table).outcome = .ok next) (holds : P table) :
    P next := by
  induction fields generalizing table with
  | nil =>
      cases done
      exact holds
  | cons field rest ih =>
      rw [List.foldlM_cons] at done
      obtain ⟨middle, added, done⟩ := report_bind_ok_iff.mp done
      refine ih done ?_
      unfold restoreField at added
      split at added
      · obtain ⟨_, -, same⟩ := report_bind_ok_iff.mp added
        cases same
        exact holds
      · exact extend _ _ _ _ added holds

theorem view_cases {inference : Inference} {store : Store} {start : Table}
    (opened : (source.view inference registry store).outcome = .ok start) :
    ∃ base current, ofSource inference source = .ok base ∧
      (store.load source.id).outcome = .ok current ∧
      (start = base ∨ ∃ settings, (base.replay registry settings).outcome = .ok start) := by
  obtain ⟨base, made, opened⟩ := report_bind_ok_iff.mp opened
  obtain ⟨current, loaded, opened⟩ := report_bind_ok_iff.mp opened
  refine ⟨base, current, made, loaded, ?_⟩
  cases current with
  | none =>
      cases opened
      exact .inl rfl
  | some settings => exact .inr ⟨settings, opened⟩

/-- What holds of a view without settings and is kept when stored types and formats are taken over
and when calculated columns are added holds of the view with any settings. -/
theorem view_preserves {P : Table → Prop} {inference : Inference} {store : Store} {start : Table}
    (opened : (source.view inference registry store).outcome = .ok start)
    (plain : ∀ base, ofSource inference source = .ok base → P base)
    (restored : ∀ table settings, P table → P (table.mapInfo (ColumnInfo.restored settings)))
    (extend : ∀ table next name formula, materialize registry name formula table = .ok next →
      P table → P next) : P start := by
  obtain ⟨base, current, made, -, rfl | ⟨settings, replayed⟩⟩ := view_cases opened
  · exact plain _ made
  · rw [replay_outcome] at replayed
    exact foldlM_preserves extend replayed (restored _ _ (plain _ made))

/-- Whatever is stored for a source, its view has its columns in front, and each calculated column
was computed from what stands in front of it. -/
theorem view_spec {inference : Inference} {store : Store} {start : Table}
    (distinct : source.columns.Nodup)
    (opened : (source.view inference registry store).outcome = .ok start) :
    (∃ fields, Rooted source fields start) ∧ Recalled registry start (before start.columns) := by
  refine view_preserves (P := fun table => (∃ fields, Rooted source fields table) ∧
    Recalled registry table (before table.columns)) opened ?plain ?restored ?extend
  case plain =>
    intro base made
    have rooted := Rooted.ofSource distinct made
    exact ⟨⟨[], rooted⟩, .plain rooted _⟩
  case restored =>
    rintro table settings ⟨⟨fields, rooted⟩, recalled⟩
    have restyled := @mapInfo_restyled table settings
    exact ⟨⟨fields, rooted.restyle restyled⟩, recalled.restyle restyled⟩
  case extend =>
    rintro table next name formula added ⟨⟨fields, rooted⟩, recalled⟩
    exact ⟨rooted.edit (e := .materialize name formula) added, recalled.extend_before rooted added⟩

theorem Rooted.view {inference : Inference} {store : Store} {start : Table}
    (distinct : source.columns.Nodup)
    (opened : (source.view inference registry store).outcome = .ok start) :
    ∃ fields, Rooted source fields start :=
  (view_spec distinct opened).1

theorem Recalled.view {inference : Inference} {store : Store} {start : Table}
    (distinct : source.columns.Nodup)
    (opened : (source.view inference registry store).outcome = .ok start) :
    Recalled registry start (before start.columns) :=
  (view_spec distinct opened).2

/-- What is stored of a table is taken over by a new view without notices. -/
theorem Rooted.replay (rooted : Rooted source fields table) {base : Table} {settings : Settings}
    (plain : Rooted source [] base)
    (stored : settings.columns = table.info.filterMap ColumnInfo.stored?)
    (kept : settings.fields = fields) :
    ∃ again, base.replay registry settings = pure again ∧ again.columns = table.columns ∧
      again.info = table.info.map ColumnInfo.asAdded := by
  have restyled := @mapInfo_restyled base settings
  have columns : base.columns = source.columns := by simpa using plain.columns
  have recipe : base.recipe = source.columns.map fun name => (name, none) := by
    simpa using plain.recipe
  have distinct : ((base.mapInfo (ColumnInfo.restored settings)).columns ++
      fields.map StoredField.name).Nodup := by
    rw [restyled.columns, columns, ← rooted.columns]
    exact rooted.distinct
  obtain ⟨again, added, names, info⟩ := @foldlM_restoreField registry _ _ rooted.ready distinct
  refine ⟨again, ?_, ?_, info.trans (rooted.restored recipe stored)⟩
  · have none : (settings.columns.map StoredColumn.name).filter (fun name =>
        !((base.info.filterMap ColumnInfo.stored?).map StoredColumn.name).contains name) = [] := by
      rw [stored, rooted.stored_names, plain.stored_names]
      simp
    unfold Table.replay
    simp only [none, kept, added]
  · rw [names, rooted.columns, restyled.columns, columns]

theorem Rooted.save (rooted : Rooted source fields table) {store : Store} {id : String}
    {current : Option Settings} (loaded : (store.load id).outcome = .ok current) :
    ∃ kept settings, (table.save id none store).outcome = .ok (kept, settings) ∧
      settings.columns = table.info.filterMap ColumnInfo.stored? ∧ settings.fields = fields ∧
      kept.load id = pure (some settings) := by
  have widths : Settings.WritableWidths (current.elim [] Settings.widths) := by
    cases current with
    | none => exact .empty
    | some settings => exact Store.load_widths loaded
  let settings : Settings :=
    ⟨Settings.currentVersion, current.elim [] Settings.widths,
      table.info.filterMap ColumnInfo.stored?, fields⟩
  have storable : settings.Storable := ⟨rfl, widths⟩
  refine ⟨store.put id (settings.toJson.render store.layout), settings, ?_, rfl, rfl, ?_⟩
  · refine report_bind_ok_iff.mpr ⟨current, loaded, report_bind_ok_iff.mpr ⟨settings, ?_, ?_⟩⟩
    · simp only [rooted.settings]
      rfl
    · rw [Store.save_of_storable storable]
      rfl
  · exact Store.load_of_text storable (by rw [Store.text?_put, if_pos rfl]; rfl)

theorem Rooted.reopen {inference : Inference} {store : Store} {start : Table}
    (distinct : source.columns.Nodup)
    (opened : (source.view inference registry store).outcome = .ok start)
    (rooted : Rooted source fields table) :
    ∃ kept settings again, (table.save source.id none store).outcome = .ok (kept, settings) ∧
      source.view inference registry kept = pure again ∧ again.columns = table.columns ∧
      again.info = table.info.map ColumnInfo.asAdded := by
  obtain ⟨base, current, made, loaded, -⟩ := view_cases opened
  obtain ⟨kept, settings, saved, stored, same, found⟩ := rooted.save loaded
  obtain ⟨again, replayed, columns, info⟩ :=
    @Rooted.replay registry _ _ _ rooted _ _ (.ofSource distinct made) stored same
  refine ⟨kept, settings, again, saved, ?_, columns, info⟩
  rw [Source.view, made, Report.lift_ok, pure_bind, found, pure_bind]
  exact replayed

theorem recipe_of_asAdded (info : next.info = table.info.map ColumnInfo.asAdded) :
    next.recipe = table.recipe := by
  rw [recipe, info, List.map_map, recipe]
  refine List.map_congr_left fun info _ => ?_
  simp only [Function.comp_apply, ColumnInfo.asAdded]
  split <;> rfl

end Table

end Gridbook
