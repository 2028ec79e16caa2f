import Mathlib
import Gridbook.Proofs.Escape
import Gridbook.Proofs.Json.RoundTrip
import Gridbook.Proofs.Settings.Integers
import Gridbook.Settings.Store

/-! # Settings documents

Settings of the current version are read back from their document in either layout. Whatever widths
a record of any version gives can be written again.
-/

namespace Gridbook

namespace Checked

variable {α β : Type}

theorem map_ok (f : α → β) (a : α) : f <$> ok a = ok (f a) := rfl

theorem seq_ok (f : α → β) (a : α) : ok f <*> ok a = ok (f a) := rfl

theorem under_ok (step : String) (a : α) : under step (ok a) = ok a := rfl

theorem seq_eq_ok {f : Checked (α → β)} {check : Checked α} {b : β} :
    f <*> check = ok b ↔ ∃ g a, f = ok g ∧ check = ok a ∧ g a = b := by
  constructor
  · intro passed
    cases f with
    | error found => cases passed
    | ok g =>
        cases check with
        | error found => cases passed
        | ok a => exact ⟨g, a, rfl, rfl, Except.ok.inj passed⟩
  · rintro ⟨g, a, rfl, rfl, rfl⟩
    rfl

theorem map_eq_ok {f : α → β} {check : Checked α} {b : β} :
    f <$> check = ok b ↔ ∃ a, check = ok a ∧ f a = b := by
  constructor
  · intro passed
    obtain ⟨_, a, same, passed, made⟩ := seq_eq_ok.mp passed
    cases same
    exact ⟨a, passed, made⟩
  · rintro ⟨a, rfl, rfl⟩
    rfl

theorem under_eq_ok {step : String} {check : Checked α} {a : α} :
    under step check = ok a ↔ check = ok a := by
  cases check with
  | error found => exact ⟨fun passed => (nomatch passed), fun passed => (nomatch passed)⟩
  | ok b => exact Iff.rfl

theorem all_ok (values : List α) : all (values.map ok) = ok values := by
  induction values with
  | nil => rfl
  | cons value rest ih =>
      rw [List.map_cons, all, ih]
      rfl

theorem mem_of_all {checks : List (Checked α)} {values : List α} (passed : all checks = ok values)
    {value : α} (among : value ∈ values) : ok value ∈ checks := by
  induction checks generalizing values with
  | nil =>
      cases passed
      cases among
  | cons check rest ih =>
      obtain ⟨_, later, made, others, rfl⟩ := seq_eq_ok.mp passed
      obtain ⟨first, rfl, rfl⟩ := map_eq_ok.mp made
      rcases List.mem_cons.mp among with rfl | among
      · exact List.mem_cons_self
      · exact List.mem_cons_of_mem _ (ih others among)

theorem list_ok {item : Json → Checked α} {write : α → Json} (values : List α)
    (each : ∀ value, item (write value) = ok value) :
    list item (.arr (values.map write)) = ok values := by
  have checked (start : Nat) : ((values.map write).zipIdx start).map
      (fun entry => under (toString entry.2) (item entry.1)) = values.map ok := by
    induction values generalizing start with
    | nil => rfl
    | cons value rest ih =>
        rw [List.map_cons, List.zipIdx_cons, List.map_cons, ih]
        simp only [each, under_ok, List.map_cons]
  exact (congrArg all (checked 0)).trans (all_ok values)

theorem columnType_name (type : ColumnType) : columnType (.str type.name) = ok type := by
  simp only [columnType, ColumnType.ofName?_name]

theorem storedColumn_toJson (column : StoredColumn) :
    storedColumn column.toJson = ok column := by
  obtain ⟨name, type, format⟩ := column
  cases format <;>
    simp [StoredColumn.toJson, storedColumn, member, optionalMember, noOthers, string,
      optionalString, List.lookup_cons, columnType_name, under_ok, map_ok, seq_ok]

theorem storedField_toJson (field : StoredField) : storedField field.toJson = ok field := by
  obtain ⟨name, formula, named, given⟩ := field
  simp [StoredField.toJson, storedField, member, noOthers, filledString, List.lookup_cons, named,
    given, under_ok, map_ok, seq_ok]

end Checked

namespace Settings

/-- Widths that can be written: no index stands twice and no number is too long. -/
structure WritableWidths (widths : List (Int × Int)) : Prop where
  distinct : (widths.map Prod.fst).Nodup
  short : ∀ entry ∈ widths, digitCount entry.1.natAbs ≤ Json.maxIntegerDigits ∧
    digitCount entry.2.natAbs ≤ Json.maxIntegerDigits

/-- Settings of the current version that can be written. -/
structure Storable (settings : Settings) : Prop where
  current : settings.version = currentVersion
  widths : WritableWidths settings.widths

namespace WritableWidths

variable {widths : List (Int × Int)}

theorem empty : WritableWidths [] := ⟨List.nodup_nil, by simp⟩

theorem set (writable : WritableWidths widths) {index width : Int}
    (shortIndex : digitCount index.natAbs ≤ Json.maxIntegerDigits)
    (shortWidth : digitCount width.natAbs ≤ Json.maxIntegerDigits) :
    WritableWidths (Assoc.set index width widths) := by
  refine ⟨Assoc.nodup_keys_set writable.distinct, ?_⟩
  intro entry among
  rcases Assoc.mem_of_mem_set among with rfl | among
  · exact ⟨shortIndex, shortWidth⟩
  · exact writable.short entry among

theorem distinct_names (writable : WritableWidths widths) :
    ((widths.map fun (i, w) => (intDigits i, Json.int w)).map Prod.fst).Nodup := by
  rw [List.map_map]
  change (widths.map (intDigits ∘ Prod.fst)).Nodup
  rw [← List.map_map]
  exact writable.distinct.map fun _ _ => Numeral.intDigits_inj

theorem widthEntry_ok {entry : Int × Int}
    (short : digitCount entry.1.natAbs ≤ Json.maxIntegerDigits) :
    Checked.widthEntry (intDigits entry.1, .int entry.2) = Checked.ok entry := by
  simp only [Checked.widthEntry, Checked.integerText_intDigits short, Checked.under_ok,
    Checked.map_ok, Checked.integer, Checked.seq_ok]

theorem read (writable : WritableWidths widths) :
    Checked.widths (.obj (widths.map fun (i, w) => (intDigits i, .int w))) = Checked.ok widths := by
  have checked : (widths.map fun (i, w) => (intDigits i, Json.int w)).map Checked.widthEntry =
      widths.map Checked.ok := by
    rw [List.map_map]
    exact List.map_congr_left fun entry among => widthEntry_ok (writable.short entry among).1
  rw [Checked.widths, checked, Checked.all_ok, Checked.map_ok]
  exact congrArg Checked.ok (Assoc.foldl_set_of_nodup writable.distinct)

theorem setAll (writable : WritableWidths widths) {entries : List (Int × Int)}
    (short : ∀ entry ∈ entries, digitCount entry.1.natAbs ≤ Json.maxIntegerDigits ∧
      digitCount entry.2.natAbs ≤ Json.maxIntegerDigits) :
    WritableWidths (entries.foldl (fun found (i, w) => Assoc.set i w found) widths) := by
  induction entries generalizing widths with
  | nil => exact writable
  | cons entry rest ih =>
      have here := short entry List.mem_cons_self
      refine ih (writable.set here.1 here.2) ?_
      exact fun other among => short other (List.mem_cons_of_mem _ among)

theorem short_of_widthEntry {key : String} {value : Json} {entry : Int × Int} (short : value.Short)
    (checked : Checked.widthEntry (key, value) = Checked.ok entry) :
    digitCount entry.1.natAbs ≤ Json.maxIntegerDigits ∧
      digitCount entry.2.natAbs ≤ Json.maxIntegerDigits := by
  obtain ⟨_, width, made, givenWidth, rfl⟩ := Checked.seq_eq_ok.mp (Checked.under_eq_ok.mp checked)
  obtain ⟨index, givenIndex, rfl⟩ := Checked.map_eq_ok.mp made
  exact ⟨Checked.short_of_integerText (Checked.under_eq_ok.mp givenIndex),
    Checked.short_of_integer short givenWidth⟩

theorem of_read {value : Json} (short : value.Short)
    (read : Checked.widths value = Checked.ok widths) : WritableWidths widths := by
  cases short with
  | obj each =>
      obtain ⟨entries, passed, rfl⟩ := Checked.map_eq_ok.mp read
      refine empty.setAll ?_
      intro entry among
      obtain ⟨⟨key, value⟩, member, checked⟩ := List.mem_map.mp (Checked.mem_of_all passed among)
      exact short_of_widthEntry (each _ member) checked
  | _ => cases read

end WritableWidths

variable {settings : Settings}

theorem storedColumn_plain {room : Nat} (column : StoredColumn) :
    Json.Plain (room + 1) column.toJson := by
  obtain ⟨name, type, format⟩ := column
  refine .obj (by simp) ?_
  cases format <;> simp [Json.Plain.str, Json.Plain.null]

theorem storedField_plain {room : Nat} (field : StoredField) :
    Json.Plain (room + 1) field.toJson := by
  refine .obj (by simp) ?_
  simp [Json.Plain.str]

theorem toJson_plain (room : Nat)
    (short : digitCount settings.version.natAbs ≤ Json.maxIntegerDigits)
    (writable : WritableWidths settings.widths) : Json.Plain (room + 3) settings.toJson := by
  have version : Json.Plain (room + 2) (.int settings.version) := .int short
  have widths :
      Json.Plain (room + 2) (.obj (settings.widths.map fun (i, w) => (intDigits i, .int w))) := by
    refine .obj writable.distinct_names ?_
    intro member among
    obtain ⟨entry, present, rfl⟩ := List.mem_map.mp among
    exact .int (writable.short entry present).2
  have columns : Json.Plain (room + 2) (.arr (settings.columns.map StoredColumn.toJson)) := by
    refine .arr ?_
    intro item among
    obtain ⟨column, -, rfl⟩ := List.mem_map.mp among
    exact storedColumn_plain column
  have fields : Json.Plain (room + 2) (.arr (settings.fields.map StoredField.toJson)) := by
    refine .arr ?_
    intro item among
    obtain ⟨field, -, rfl⟩ := List.mem_map.mp among
    exact storedField_plain field
  refine .obj (by simp) ?_
  simp only [List.forall_mem_cons]
  exact ⟨version, widths, columns, fields, by simp⟩

theorem text_of_writable (short : digitCount settings.version.natAbs ≤ Json.maxIntegerDigits)
    (writable : WritableWidths settings.widths) (layout : Json.Layout) :
    settings.text layout = .ok (settings.toJson.render layout) := by
  refine if_pos ?_
  rw [integers, List.all_cons, List.all_flatMap]
  simp only [List.all_eq_true, List.all_cons, List.all_nil, Bool.and_true, Bool.and_eq_true,
    decide_eq_true_eq]
  exact ⟨short, writable.short⟩

theorem Storable.short_version (storable : Storable settings) :
    digitCount settings.version.natAbs ≤ Json.maxIntegerDigits := by
  rw [storable.current]
  decide

theorem text_of_storable (storable : Storable settings) (layout : Json.Layout) :
    settings.text layout = .ok (settings.toJson.render layout) :=
  text_of_writable storable.short_version storable.widths layout

theorem ofJson_toJson (storable : Storable settings) : ofJson settings.toJson = .ok settings := by
  have widths := storable.widths.read
  have columns := Checked.list_ok settings.columns Checked.storedColumn_toJson
  have fields := Checked.list_ok settings.fields Checked.storedField_toJson
  simp [ofJson, toJson, Checked.settings, Checked.optionalMember, Checked.noOthers, Checked.integer,
    List.lookup_cons, widths, columns, fields, Checked.under_ok, Checked.map_ok, Checked.seq_ok]
  rfl

theorem migrate_current {members : List (String × Json)}
    (version : recordVersion members = .ok currentVersion) :
    migrate (.obj members) = .ok (.obj members) := by
  simp only [migrate, membersOf, bind, Except.bind, version]
  rfl

theorem ofRecord_toJson (storable : Storable settings) :
    ofRecord settings.toJson = .ok settings := by
  refine bind_ok_iff.mpr ⟨settings.toJson, migrate_current ?_, ofJson_toJson storable⟩
  rw [storable.current]
  rfl

/-- Settings are read back with room for three containers inside each other. -/
theorem readWithin_render (storable : Storable settings) (layout : Json.Layout) (room : Nat) :
    Json.readWithin (room + 3) (settings.toJson.render layout) = .ok settings.toJson :=
  Json.readWithin_render (toJson_plain room storable.short_version storable.widths) layout

theorem read_render (storable : Storable settings) (layout : Json.Layout) :
    Json.read (settings.toJson.render layout) = .ok settings.toJson :=
  readWithin_render storable layout 977

theorem obj_of_membersOf {record : Json} {members : List (String × Json)}
    (given : membersOf record = .ok members) : record = .obj members := by
  cases record <;> cases given
  rfl

theorem one_le_of_recordVersion {members : List (String × Json)} {version : Int}
    (read : recordVersion members = .ok version) : 1 ≤ version := by
  simp only [recordVersion] at read
  split_ifs at read with low
  rw [← Except.ok.inj read]
  exact not_lt.mp low

theorem migrate_cases {record current : Json} (migrated : migrate record = .ok current) :
    ∃ members, record = .obj members ∧
      (recordVersion members = .ok currentVersion ∧ current = record ∨
        recordVersion members = .ok 1 ∧ fromFirst members = .ok current) := by
  obtain ⟨members, given, migrated⟩ := bind_ok_iff.mp migrated
  obtain ⟨version, read, migrated⟩ := bind_ok_iff.mp migrated
  refine ⟨members, obj_of_membersOf given, ?_⟩
  have positive := one_le_of_recordVersion read
  split at migrated
  case isTrue => cases migrated
  case isFalse notNewer =>
    simp only [currentVersion] at notNewer
    split at migrated
    case isTrue older =>
      simp only [currentVersion] at older
      obtain rfl : version = 1 := by omega
      exact .inr ⟨read, migrated⟩
    case isFalse notOlder =>
      simp only [currentVersion] at notOlder
      obtain rfl : version = currentVersion := by
        simp only [currentVersion]
        omega
      cases migrated
      exact .inl ⟨read, rfl⟩

theorem fromFirst_eq_ok {members : List (String × Json)} {current : Json} :
    fromFirst members = .ok current ↔ ∃ columnEntries columns fieldEntries fields,
      entries (members.lookup "columnMetadata") = .ok columnEntries ∧
      columnEntries.mapM currentColumn = .ok columns ∧
      entries (members.lookup "calculatedFields") = .ok fieldEntries ∧
      fieldEntries.mapM currentField = .ok fields ∧
      Json.obj [("schema_version", .int currentVersion),
        ("column_widths", (given? members "columnWidths").getD (.obj [])),
        ("column_metadata", .arr (columns.filterMap id)),
        ("calculated_fields", .arr (fields.filterMap id))] = current := by
  constructor
  · intro brought
    obtain ⟨columnEntries, listedColumns, brought⟩ := bind_ok_iff.mp brought
    obtain ⟨columns, eachColumn, brought⟩ := bind_ok_iff.mp brought
    obtain ⟨fieldEntries, listedFields, brought⟩ := bind_ok_iff.mp brought
    obtain ⟨fields, eachField, brought⟩ := bind_ok_iff.mp brought
    exact ⟨columnEntries, columns, fieldEntries, fields, listedColumns, eachColumn, listedFields,
      eachField, Except.ok.inj brought⟩
  · rintro ⟨columnEntries, columns, fieldEntries, fields, listedColumns, eachColumn, listedFields,
      eachField, rfl⟩
    apply bind_ok_iff.mpr
    refine ⟨columnEntries, listedColumns, bind_ok_iff.mpr ⟨columns, eachColumn, ?_⟩⟩
    apply bind_ok_iff.mpr
    exact ⟨fieldEntries, listedFields, bind_ok_iff.mpr ⟨fields, eachField, rfl⟩⟩

/-- Bringing a record to the current version makes no widths that were not there. -/
theorem migrate_widths {record value : Json} {members : List (String × Json)} (short : record.Short)
    (migrated : migrate record = .ok (.obj members))
    (found : members.lookup "column_widths" = some value) : value.Short := by
  obtain ⟨old, rfl, ⟨-, same⟩ | ⟨-, brought⟩⟩ := migrate_cases migrated
  · rw [← same] at short
    exact short.of_lookup found
  · -- A record of the first version keeps its widths under another name.
    obtain ⟨columnEntries, columns, fieldEntries, fields, -, -, -, -, same⟩ :=
      fromFirst_eq_ok.mp brought
    cases same
    obtain rfl : (given? old "columnWidths").getD (.obj []) = value := by
      simpa [List.lookup_cons] using found
    cases here : given? old "columnWidths" with
    | none => exact .obj (by simp)
    | some widths => exact short.of_lookup (Option.eq_some_of_filter_eq_some here)

theorem settings_parts {members : List (String × Json)}
    (checked : Checked.settings (.obj members) = Checked.ok settings) :
    Checked.optionalMember members "schema_version" currentVersion Checked.integer =
        Checked.ok settings.version ∧
      Checked.optionalMember members "column_widths" [] Checked.widths =
        Checked.ok settings.widths ∧
      Checked.optionalMember members "column_metadata" [] (Checked.list Checked.storedColumn) =
        Checked.ok settings.columns ∧
      Checked.optionalMember members "calculated_fields" [] (Checked.list Checked.storedField) =
        Checked.ok settings.fields := by
  obtain ⟨_, _, withFields, -, rfl⟩ := Checked.seq_eq_ok.mp checked
  obtain ⟨_, fields, withColumns, givenFields, rfl⟩ := Checked.seq_eq_ok.mp withFields
  obtain ⟨_, columns, withWidths, givenColumns, rfl⟩ := Checked.seq_eq_ok.mp withColumns
  obtain ⟨_, widths, withVersion, givenWidths, rfl⟩ := Checked.seq_eq_ok.mp withWidths
  obtain ⟨version, givenVersion, rfl⟩ := Checked.map_eq_ok.mp withVersion
  exact ⟨givenVersion, givenWidths, givenColumns, givenFields⟩

theorem settings_widths {members : List (String × Json)}
    (short : ∀ value, members.lookup "column_widths" = some value → value.Short)
    (checked : Checked.settings (.obj members) = Checked.ok settings) :
    WritableWidths settings.widths := by
  have given := (settings_parts checked).2.1
  unfold Checked.optionalMember at given
  split at given
  case h_1 value found => exact .of_read (short value found) (Checked.under_eq_ok.mp given)
  case h_2 =>
    rw [← Except.ok.inj given]
    exact .empty

theorem checked_of_ofJson {document : Json} (read : ofJson document = .ok settings) :
    Checked.settings document = Checked.ok settings := by
  unfold ofJson Checked.toExcept at read
  split at read
  case h_1 passed =>
    cases read
    exact passed
  case h_2 => cases read

theorem ofRecord_widths {record : Json} (short : record.Short)
    (given : ofRecord record = .ok settings) : WritableWidths settings.widths := by
  obtain ⟨current, migrated, read⟩ := bind_ok_iff.mp given
  have checked := checked_of_ofJson read
  cases current with
  | obj members => exact settings_widths (fun _ => migrate_widths short migrated) checked
  | _ => cases checked

end Settings

end Gridbook
