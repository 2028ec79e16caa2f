import Mathlib
import Gridbook.Proofs.Settings.Shelf

/-! # Versions of settings records

A store writes settings under whatever version they carry, but all that it reads is brought to the
current version first. So settings of another version do not come back: those of the first are taken
for a record in the old spelling, and the rest are discarded or refused.
-/

namespace Gridbook

namespace Settings

variable {settings : Settings} {members : List (String × Json)}

theorem lookup_of_recordVersion {version : Int} (later : 1 < version)
    (read : recordVersion members = .ok version) :
    members.lookup "schema_version" = some (.int version) := by
  unfold recordVersion at read
  cases found : members.lookup "schema_version" with
  | none =>
      rw [found] at read
      cases read
      exact absurd later (by decide)
  | some value =>
      rw [found] at read
      cases value with
      | int n =>
          simp only [Option.getD_some] at read
          split at read
          case isTrue => cases read
          case isFalse => rw [Except.ok.inj read]
      | bool b =>
          cases b <;> cases read
          exact absurd later (by decide)
      | null | float | str | arr | obj => cases read

theorem lookup_of_migrate {record : Json} (migrated : migrate record = .ok (.obj members)) :
    members.lookup "schema_version" = some (.int currentVersion) := by
  obtain ⟨old, rfl, ⟨read, same⟩ | ⟨-, brought⟩⟩ := migrate_cases migrated
  · cases same
    exact lookup_of_recordVersion (by decide) read
  · obtain ⟨columnEntries, columns, fieldEntries, fields, -, -, -, -, same⟩ :=
      fromFirst_eq_ok.mp brought
    cases same
    rfl

theorem settings_version {version : Int}
    (found : members.lookup "schema_version" = some (.int version))
    (checked : Checked.settings (.obj members) = Checked.ok settings) :
    settings.version = version := by
  have read := (settings_parts checked).1
  rw [Checked.optionalMember, found] at read
  exact (Except.ok.inj (Checked.under_eq_ok.mp read)).symm

theorem ofRecord_version {record : Json} (given : ofRecord record = .ok settings) :
    settings.version = currentVersion := by
  obtain ⟨current, migrated, read⟩ := bind_ok_iff.mp given
  have checked := checked_of_ofJson read
  cases current with
  | obj members => exact settings_version (lookup_of_migrate migrated) checked
  | null | bool | int | float | str | arr => cases checked

theorem nodup_keys_foldl_set {entries found : List (Int × Int)}
    (distinct : (found.map Prod.fst).Nodup) :
    ((entries.foldl (fun found (i, w) => Assoc.set i w found) found).map Prod.fst).Nodup := by
  induction entries generalizing found with
  | nil => exact distinct
  | cons entry rest ih => exact ih (Assoc.nodup_keys_set distinct)

/-- A check lets no settings pass in which an index has two widths. -/
theorem distinct_of_ofJson {document : Json} (given : ofJson document = .ok settings) :
    (settings.widths.map Prod.fst).Nodup := by
  have checked := checked_of_ofJson given
  cases document with
  | obj members =>
      have read := (settings_parts checked).2.1
      unfold Checked.optionalMember at read
      split at read
      case h_1 value found =>
        have read := Checked.under_eq_ok.mp read
        cases value with
        | obj entries =>
            obtain ⟨widths, -, same⟩ := Checked.map_eq_ok.mp read
            rw [← same]
            exact nodup_keys_foldl_set List.nodup_nil
        | null | bool | int | float | str | arr => cases read
      case h_2 =>
        rw [← Except.ok.inj read]
        exact List.nodup_nil
  | null | bool | int | float | str | arr => cases checked

theorem storable_of_text {layout : Json.Layout} {text : String}
    (current : settings.version = currentVersion) (distinct : (settings.widths.map Prod.fst).Nodup)
    (written : settings.text layout = .ok text) : settings.Storable := by
  unfold Settings.text at written
  split at written
  case isFalse => cases written
  case isTrue short =>
    rw [integers, List.all_cons, List.all_flatMap] at short
    simp only [List.all_eq_true, List.all_cons, List.all_nil, Bool.and_true, Bool.and_eq_true,
      decide_eq_true_eq] at short
    exact ⟨current, distinct, short.2⟩

end Settings

namespace Store

variable {store next : Store} {id : String} {settings : Settings}

theorem load_version (loaded : (store.load id).outcome = .ok (some settings)) :
    settings.version = Settings.currentVersion := by
  obtain ⟨record, -, loaded⟩ := report_bind_ok_iff.mp loaded
  cases record with
  | none => cases loaded
  | some record =>
      simp only at loaded
      split at loaded
      case h_1 given =>
        cases loaded
        exact Settings.ofRecord_version given
      case h_2 => cases loaded
      case h_3 =>
        obtain ⟨_, -, same⟩ := report_bind_ok_iff.mp loaded
        cases same

theorem update_eq_ok {f : Option Settings → Except Fault Settings} :
    (store.update id f).outcome = .ok (next, settings) ↔
      ∃ stored text, (store.load id).outcome = .ok stored ∧ f stored = .ok settings ∧
        settings.text store.layout = .ok text ∧ store.put id text = next := by
  constructor
  · intro updated
    obtain ⟨stored, loaded, updated⟩ := report_bind_ok_iff.mp updated
    obtain ⟨made, changed, updated⟩ := report_bind_ok_iff.mp updated
    obtain ⟨kept, saved, same⟩ := report_bind_ok_iff.mp updated
    cases same
    obtain ⟨text, written, put⟩ := bind_ok_iff.mp saved
    exact ⟨stored, text, loaded, changed, written, Except.ok.inj put⟩
  · rintro ⟨stored, text, loaded, changed, written, rfl⟩
    refine report_bind_ok_iff.mpr ⟨stored, loaded, report_bind_ok_iff.mpr ⟨settings, changed, ?_⟩⟩
    exact report_bind_ok_iff.mpr ⟨store.put id text, bind_ok_iff.mpr ⟨text, written, rfl⟩, rfl⟩

/-- Settings that an update saves are read back exactly if they have the current version. No index
has two widths in them, as in all settings that a check lets pass. -/
theorem read_back_iff_current {f : Option Settings → Except Fault Settings}
    (distinct : (settings.widths.map Prod.fst).Nodup)
    (updated : (store.update id f).outcome = .ok (next, settings)) :
    (next.load id).outcome = .ok (some settings) ↔ settings.version = Settings.currentVersion := by
  constructor
  · exact load_version
  · intro current
    obtain ⟨_, text, -, -, written, rfl⟩ := update_eq_ok.mp updated
    have storable := Settings.storable_of_text current distinct written
    have rendered : text = settings.toJson.render store.layout := by
      rw [Settings.text_of_storable storable] at written
      exact (Except.ok.inj written).symm
    rw [load_of_text storable (by rw [text?_put, if_pos rfl, rendered]; rfl)]
    rfl

def widened (version : Int) : Settings := { Settings.empty with version, widths := [(0, 99)] }

def widen (version : Int) (current : Option Settings) : Except Fault Settings :=
  Settings.amend current
    [("schema_version", .int version), ("column_widths", .obj [("0", .int 99)])]

theorem widen_none (version : Int) : widen version none = .ok (widened version) := by rfl

theorem widened_writable (version : Int) : Settings.WritableWidths (widened version).widths := by
  change Settings.WritableWidths [(0, 99)]
  exact ⟨by decide, by decide⟩

theorem update_widen {version : Int} (short : digitCount version.natAbs ≤ Json.maxIntegerDigits) :
    (empty .memory).update "t" (widen version) =
      pure ((empty .memory).put "t" ((widened version).toJson.render .line), widened version) := by
  have loaded : (empty .memory).load "t" = pure none := load_of_none rfl
  have written : (widened version).text .line = .ok ((widened version).toJson.render .line) :=
    Settings.text_of_writable short (widened_writable version) .line
  have saved : (empty .memory).save "t" (widened version) =
      .ok ((empty .memory).put "t" ((widened version).toJson.render .line)) :=
    bind_ok_iff.mpr ⟨_, written, rfl⟩
  simp only [update, loaded, pure_bind, widen_none, saved, Report.lift_ok]

/-- The width is read back from settings of the current version. -/
theorem widened_read_back : ((widened 2).widths.map Prod.fst).Nodup ∧
    ∃ kept, ((empty .memory).update "t" (widen 2)).outcome = .ok (kept, widened 2) ∧
      (kept.load "t").outcome = .ok (some (widened 2)) := by
  have distinct : ((widened 2).widths.map Prod.fst).Nodup := by
    have made := widen_none 2
    unfold widen Settings.amend at made
    exact Settings.distinct_of_ofJson made
  have short : digitCount (2 : Int).natAbs ≤ Json.maxIntegerDigits := by decide
  have updated := congrArg Report.outcome (update_widen short)
  exact ⟨distinct, _, updated, (read_back_iff_current distinct updated).mpr rfl⟩

/-- From settings of the first version nothing is read back, though they are saved. -/
theorem first_version_emptied :
    ∃ kept, ((empty .memory).update "t" (widen 1)).outcome = .ok (kept, widened 1) ∧
      (kept.load "t").outcome = .ok (some Settings.empty) ∧ Settings.empty ≠ widened 1 := by
  have short : digitCount (1 : Int).natAbs ≤ Json.maxIntegerDigits := by decide
  refine ⟨_, congrArg Report.outcome (update_widen short), ?_, by decide⟩
  have plain : Json.Plain Json.maxNesting (widened 1).toJson :=
    Settings.toJson_plain 977 short (widened_writable 1)
  have read := Json.read_render plain .line
  have migrated : Settings.ofRecord (widened 1).toJson = .ok Settings.empty := by rfl
  have record : ((empty .memory).put "t" ((widened 1).toJson.render .line)).record? "t" =
      pure (some (widened 1).toJson) := by
    rw [record?, text?_put, if_pos rfl]
    simp only [put, empty, read]
    rfl
  rw [load, record, pure_bind]
  simp only [migrated]
  rfl

end Store

end Gridbook
