import Mathlib
import Gridbook.Proofs.Settings.Version

/-! # Where loading stops

Much can be wrong with a stored record, and a record of a later version is the only one that is
refused; the others are passed over. What stands in front of that is reading the document: if this
fails, it is a fault of the call in either medium, unless a file is no JSON.
-/

namespace Gridbook

namespace Settings

variable {members : List (String × Json)} {record : Json} {version : Int}

/-- A fault tells of this later version. -/
abbrev Newer (version : Int) (fault : Fault) : Prop := fault = .newerVersion version

theorem newer_iff {α : Type} {outcome : Except Fault α} :
    Stops (Newer version) outcome ↔ outcome = .error (.newerVersion version) := by
  constructor
  · rintro ⟨_, stopped, rfl⟩
    exact stopped
  · exact fun stopped => ⟨_, stopped, rfl⟩

theorem not_newer_of_membersOf : ¬ Stops (Newer version) (membersOf record) := by
  cases record <;> simp [membersOf]

theorem not_newer_of_needed {name : String} : ¬ Stops (Newer version) (needed members name) := by
  unfold needed
  split <;> simp

theorem not_newer_of_entries {list : Option Json} : ¬ Stops (Newer version) (entries list) := by
  unfold entries
  split
  · simp
  · split
    · simp
    · split <;> simp

theorem not_newer_of_recordVersion : ¬ Stops (Newer version) (recordVersion members) := by
  simp only [recordVersion]
  split_ifs <;> simp

theorem not_newer_of_currentColumn {entry : Json} :
    ¬ Stops (Newer version) (currentColumn entry) := by
  refine Stops.not_bind not_newer_of_membersOf fun members _ => ?_
  split
  · exact Stops.pure _
  · exact Stops.not_bind not_newer_of_needed fun _ _ => Stops.pure _

theorem not_newer_of_currentField {entry : Json} :
    ¬ Stops (Newer version) (currentField entry) := by
  refine Stops.not_bind not_newer_of_membersOf fun members _ => ?_
  split
  · exact Stops.pure _
  · exact Stops.not_bind not_newer_of_needed fun _ _ => Stops.pure _

theorem not_newer_of_fromFirst : ¬ Stops (Newer version) (fromFirst members) := by
  refine Stops.not_bind not_newer_of_entries fun _ _ => ?_
  refine Stops.not_bind (Stops.not_mapM fun _ _ => not_newer_of_currentColumn) fun _ _ => ?_
  refine Stops.not_bind not_newer_of_entries fun _ _ => ?_
  refine Stops.not_bind (Stops.not_mapM fun _ _ => not_newer_of_currentField) fun _ _ => ?_
  exact Stops.pure _

theorem not_newer_of_ofJson {document : Json} : ¬ Stops (Newer version) (ofJson document) := by
  unfold ofJson Checked.toExcept
  split <;> simp

theorem recordVersion_of_lookup (found : members.lookup "schema_version" = some (.int version))
    (positive : 1 ≤ version) : recordVersion members = .ok version := by
  simp [recordVersion, found, positive]

/-- Bringing a record over stops at its version if that is a later one, and at nothing like it
elsewhere. -/
theorem migrate_newer_iff : Stops (Newer version) (migrate record) ↔
    ∃ members, record = .obj members ∧
      members.lookup "schema_version" = some (.int version) ∧ currentVersion < version := by
  rw [migrate, Stops.bind, or_iff_right not_newer_of_membersOf]
  constructor
  · rintro ⟨members, given, stopped⟩
    rw [Stops.bind, or_iff_right not_newer_of_recordVersion] at stopped
    obtain ⟨found, read, stopped⟩ := stopped
    refine ⟨members, obj_of_membersOf given, ?_⟩
    split at stopped
    case isTrue newer =>
      obtain ⟨_, told, rfl⟩ := stopped
      cases told
      -- A version behind the first is no truth value, and it does not come from a missing member.
      have later : 1 < currentVersion := by decide
      exact ⟨lookup_of_recordVersion (later.trans newer) read, newer⟩
    case isFalse =>
      split at stopped
      · exact absurd stopped not_newer_of_fromFirst
      · exact absurd stopped (Stops.pure _)
  · rintro ⟨members, rfl, found, newer⟩
    have positive : (1 : Int) ≤ currentVersion := by decide
    have read := recordVersion_of_lookup found (positive.trans newer.le)
    refine ⟨members, rfl, Stops.bind.mpr (.inr ⟨version, read, ?_⟩)⟩
    rw [if_pos newer]
    exact Stops.error.mpr rfl

/-- Of all that can be wrong with a record, only its version makes it one of a later version. -/
theorem ofRecord_newer_iff : ofRecord record = .error (.newerVersion version) ↔
    ∃ members, record = .obj members ∧
      members.lookup "schema_version" = some (.int version) ∧ currentVersion < version := by
  rw [← newer_iff, ofRecord, Stops.bind, migrate_newer_iff]
  refine or_iff_left ?_
  rintro ⟨_, -, stopped⟩
  exact not_newer_of_ofJson stopped

end Settings

namespace Store

variable {store : Store} {id text : String} {record : Json} {trouble : Json.Trouble}

def Medium.passesOver : Medium → Json.Trouble → Bool
  | .files, .malformed .. => true
  | _, _ => false

def IsLater (text : String) (version : Int) : Prop :=
  ∃ members, Json.read text = .ok (.obj members) ∧
    members.lookup "schema_version" = some (.int version) ∧ Settings.currentVersion < version

theorem record?_of_read (held : store.text? id = some text) (read : Json.read text = .ok record)
    (given : record ≠ .null) : store.record? id = pure (some record) := by
  simp only [record?, held, read]

def IsReadable (text : String) (settings : Settings) : Prop :=
  ∃ record, Json.read text = .ok record ∧ Settings.ofRecord record = .ok settings

theorem load_of_read (held : store.text? id = some text) (read : Json.read text = .ok record) :
    (store.load id).outcome = match Settings.ofRecord record with
      | .ok settings => .ok (some settings)
      | .error (.newerVersion version) => .error (.newerVersion version)
      | .error _ => .ok none := by
  rcases eq_or_ne record .null with rfl | given
  · have missing : store.record? id = pure none := by simp only [record?, held, read]
    rw [load, missing, pure_bind]
    rfl
  · simp only [load, record?_of_read held read given, pure_bind]
    cases Settings.ofRecord record with
    | ok settings => rfl
    | error fault => cases fault <;> rfl

theorem load_of_trouble (held : store.text? id = some text)
    (troubled : Json.read text = .error trouble) : (store.load id).outcome =
      if store.medium.passesOver trouble then .ok none else .error (.unreadable text trouble) := by
  unfold load record?
  rw [held]
  cases medium : store.medium <;> cases trouble <;> simp only [troubled] <;> rfl

theorem isLater_iff {version : Int} (read : Json.read text = .ok record) :
    IsLater text version ↔ Settings.ofRecord record = .error (.newerVersion version) := by
  simp only [IsLater, read, Except.ok.injEq, Settings.ofRecord_newer_iff]

theorem not_isLater {version : Int} (troubled : Json.read text = .error trouble) :
    ¬ IsLater text version := by
  simp [IsLater, troubled]

theorem load_error_iff {fault : Fault} (held : store.text? id = some text) :
    (store.load id).outcome = .error fault ↔
      (∃ version, IsLater text version ∧ fault = .newerVersion version) ∨
        ∃ trouble, Json.read text = .error trouble ∧
          store.medium.passesOver trouble = false ∧ fault = .unreadable text trouble := by
  cases read : Json.read text with
  | error trouble =>
      rw [load_of_trouble held read]
      cases passed : store.medium.passesOver trouble <;>
        simp [not_isLater read, passed, @eq_comm _ fault]
  | ok record =>
      rw [load_of_read held read]
      simp only [isLater_iff read, reduceCtorEq, false_and, exists_false, or_false]
      split
      case h_1 given => simp [given]
      case h_2 given => simp [given, @eq_comm _ fault]
      case h_3 other given =>
        have older : ∀ version, ¬ _ = Fault.newerVersion version := other
        simp [given, older]

theorem load_some_iff {settings : Settings} (held : store.text? id = some text) :
    (store.load id).outcome = .ok (some settings) ↔ IsReadable text settings := by
  unfold IsReadable
  cases read : Json.read text with
  | error trouble =>
      rw [load_of_trouble held read]
      cases store.medium.passesOver trouble <;> simp
  | ok record =>
      rw [load_of_read held read]
      split
      case h_1 given => simp [given]
      case h_2 given => simp [given]
      case h_3 given => simp [given]

theorem load_eq_load_iff {other : Store} {otherId : String} (held : store.text? id = some text)
    (otherHeld : other.text? otherId = some text) :
    (other.load otherId).outcome = (store.load id).outcome ↔ other.medium = store.medium ∨
      ∀ reason left, Json.read text ≠ .error (.malformed reason left) := by
  cases read : Json.read text with
  | error trouble =>
      rw [load_of_trouble held read, load_of_trouble otherHeld read]
      cases other.medium <;> cases store.medium <;> cases trouble <;> simp [Medium.passesOver]
  | ok record => simp [load_of_read held read, load_of_read otherHeld read]

theorem load_none_iff (held : store.text? id = some text) :
    (store.load id).outcome = .ok none ↔
      (∀ settings, ¬ IsReadable text settings) ∧ (∀ version, ¬ IsLater text version) ∧
        ∀ trouble, Json.read text = .error trouble → store.medium.passesOver trouble = true := by
  constructor
  · intro missing
    refine ⟨?_, ?_, ?_⟩
    · intro settings readable
      rw [(load_some_iff held).mpr readable] at missing
      cases missing
    · intro version later
      rw [(load_error_iff held).mpr (.inl ⟨version, later, rfl⟩)] at missing
      cases missing
    · intro trouble troubled
      by_contra kept
      have kept := Bool.eq_false_iff.mpr kept
      rw [(load_error_iff held).mpr (.inr ⟨trouble, troubled, kept, rfl⟩)] at missing
      cases missing
  · rintro ⟨unreadable, notLater, passed⟩
    rcases outcome : (store.load id).outcome with fault | settings | settings
    · rcases (load_error_iff held).mp outcome with
        ⟨version, later, -⟩ | ⟨trouble, troubled, kept, -⟩
      · exact absurd later (notLater version)
      · rw [passed trouble troubled] at kept
        cases kept
    · rfl
    · exact absurd ((load_some_iff held).mp outcome) (unreadable settings)

/-- Loading stops at a record of a later version and at a document that cannot be read, unless it is
a file that is no JSON. It gives the settings of a record that makes sense and nothing for any other
document. Only of a document that is no JSON two stores say different things. -/
theorem load_stops_iff (held : store.text? id = some text) :
    (∀ fault, (store.load id).outcome = .error fault ↔
      (∃ version, IsLater text version ∧ fault = .newerVersion version) ∨
        ∃ trouble, Json.read text = .error trouble ∧
          store.medium.passesOver trouble = false ∧ fault = .unreadable text trouble) ∧
      (∀ settings, (store.load id).outcome = .ok (some settings) ↔ IsReadable text settings) ∧
      ((store.load id).outcome = .ok none ↔
        (∀ settings, ¬ IsReadable text settings) ∧ (∀ version, ¬ IsLater text version) ∧
          ∀ trouble, Json.read text = .error trouble → store.medium.passesOver trouble = true) ∧
      ∀ other otherId, Store.text? other otherId = some text →
        ((other.load otherId).outcome = (store.load id).outcome ↔ other.medium = store.medium ∨
          ∀ reason left, Json.read text ≠ .error (.malformed reason left)) :=
  ⟨fun _ => load_error_iff held, fun _ => load_some_iff held, load_none_iff held,
    fun _ _ => load_eq_load_iff held⟩

def laterText : String := "\x7b\"schema_version\": 3\x7d"

/-- Either medium refuses a record of a later version. -/
theorem laterText_refused :
    ((empty .memory).put "t" laterText).text? "t" = some laterText ∧
      ((empty .files).put "t" laterText).text? "t" = some laterText ∧
      (((empty .memory).put "t" laterText).load "t").outcome = .error (.newerVersion 3) ∧
      (((empty .files).put "t" laterText).load "t").outcome = .error (.newerVersion 3) := by
  have memory : ((empty .memory).put "t" laterText).text? "t" = some laterText := by
    rw [text?_put, if_pos rfl]
  have files : ((empty .files).put "t" laterText).text? "t" = some laterText := by
    rw [text?_put, if_pos rfl]
  have read : Json.read laterText = .ok (.obj [("schema_version", .int 3)]) := by
    have shape : laterText.toList =
        '\x7b' :: '"' :: "schema_version".toList ++ ['"', ':', ' ', '3', '\x7d'] := by
      decide +kernel
    rw [Json.read, Json.readWithin, shape]
    rfl
  have later : IsLater laterText 3 := ⟨_, read, rfl, by decide⟩
  exact ⟨memory, files, ((load_stops_iff memory).1 _).mpr (.inl ⟨3, later, rfl⟩),
    ((load_stops_iff files).1 _).mpr (.inl ⟨3, later, rfl⟩)⟩

def brokenText : String := "\x7bnot json"

/-- A store in memory stops at a document that is no JSON, where a store of files gives nothing. -/
theorem brokenText_stops :
    (((empty .memory).put "t" brokenText).load "t").outcome =
        .error (.unreadable brokenText (.malformed .propertyName 8)) ∧
      (((empty .files).put "t" brokenText).load "t").outcome = .ok none := by
  have memory : ((empty .memory).put "t" brokenText).text? "t" = some brokenText := by
    rw [text?_put, if_pos rfl]
  have files : ((empty .files).put "t" brokenText).text? "t" = some brokenText := by
    rw [text?_put, if_pos rfl]
  have troubled : Json.read brokenText = .error (.malformed .propertyName 8) := by
    have shape : brokenText.toList = ['\x7b', 'n', 'o', 't', ' ', 'j', 's', 'o', 'n'] := by
      decide +kernel
    rw [Json.read, Json.readWithin, shape]
    rfl
  exact ⟨load_of_trouble memory troubled, load_of_trouble files troubled⟩

end Store

end Gridbook
