import Mathlib
import Gridbook.Proofs.Table.Failure

/-! # Taking over settings

A stored field is left out when a column has its name as it stands, but the column that it adds has
the name without the blanks at its ends. So a field can be stopped by a name that is taken or empty
once it is trimmed, and taking over settings stops there. Otherwise it has a result, and taking over
the same settings again changes nothing as long as the names are trimmed.
-/

namespace Gridbook

/-- A field without the blanks at the ends of its name and formula, if something is left of both. -/
def StoredField.trimmed? (field : StoredField) : Option StoredField :=
  if named : Text.trim field.name ≠ "" then
    if given : Text.trim field.formula ≠ "" then
      some ⟨Text.trim field.name, Text.trim field.formula, named, given⟩
    else none
  else none

namespace Table

/-- A stored field, and the columns that stand in the table when its turn comes. -/
structure Offer where
  columns : List String
  field : StoredField

namespace Offer

/-- Whether the field is left out: a column has its name as it stands. -/
def isTaken (offer : Offer) : Bool :=
  offer.columns.contains offer.field.name

def columnsBehind (offer : Offer) : List String :=
  if offer.isTaken then offer.columns else offer.columns ++ [Text.trim offer.field.name]

/-- What stops a field that is not left out. -/
inductive Refused (offer : Offer) : Fault → Prop where
  | blank (free : offer.isTaken = false)
      (empty : Text.trim offer.field.name = "" ∨ Text.trim offer.field.formula = "") :
      Refused offer .incompleteField
  | padded (free : offer.isTaken = false) (named : Text.trim offer.field.name ≠ "")
      (given : Text.trim offer.field.formula ≠ "")
      (known : Text.trim offer.field.name ∈ offer.columns) :
      Refused offer (.columnExists (Text.trim offer.field.name))
  | overlong {count : Nat} (free : offer.isTaken = false) (named : Text.trim offer.field.name ≠ "")
      (given : Text.trim offer.field.formula ≠ "")
      (fresh : Text.trim offer.field.name ∉ offer.columns)
      (long : Formula.Overlong (Text.trim offer.field.formula) count) :
      Refused offer (.numeralTooLong count)

end Offer

/-- Stored fields at their turns, one behind the other, in a table that starts with these
columns. -/
def offers (columns : List String) : List StoredField → List Offer
  | [] => []
  | field :: rest => ⟨columns, field⟩ :: offers (Offer.columnsBehind ⟨columns, field⟩) rest

/-- The fields that are not left out, trimmed. -/
def addedFields (offers : List Offer) : List StoredField :=
  (offers.filter fun offer => !offer.isTaken).filterMap fun offer => offer.field.trimmed?

def takenNotices (offers : List Offer) : List Notice :=
  (offers.filter Offer.isTaken).map fun offer => .takenName offer.field.name

/-- The first field that is stopped, and why. -/
def Refusal (offers : List Offer) (fault : Fault) : Prop :=
  ∃ before offer after, offers = before ++ offer :: after ∧
    (∀ earlier ∈ before, ∀ trouble, ¬ earlier.Refused trouble) ∧ offer.Refused fault

/-- A table with a calculated column for each field, computed from what stands in front of it. -/
def withFields (registry : Registry) (table : Table) (fields : List StoredField) : Table :=
  fields.foldl (fun table field =>
    table.addColumn (.calculated field.name field.formula field.formula_ne)
      (table.rows.map (Formula.cellOf registry table.columns field.formula))) table

def hasPlain (table : Table) (name : String) : Bool :=
  table.info.any fun info => !info.isCalculated && info.name == name

def absentNotices (settings : Settings) (table : Table) : List Notice :=
  match (settings.columns.map StoredColumn.name).filter fun name => !table.hasPlain name with
  | [] => []
  | absent => [.absentColumns absent]

variable {registry : Registry} {table next : Table} {settings : Settings} {offer : Offer}
  {field : StoredField} {fields : List StoredField} {fault : Fault} {columns : List String}

theorem Offer.refused_iff : Offer.Refused ⟨table.columns, field⟩ fault ↔
    field.name ∉ table.columns ∧ table.Refuses field.name field.formula fault := by
  have taken : Offer.isTaken ⟨table.columns, field⟩ = false ↔ field.name ∉ table.columns := by
    simp [Offer.isTaken]
  constructor
  · intro refused
    cases refused with
    | blank free empty => exact ⟨taken.mp free, .incomplete empty⟩
    | padded free named given known => exact ⟨taken.mp free, .taken named given known⟩
    | overlong free named given fresh long =>
        exact ⟨taken.mp free, .overlong named given fresh long⟩
  · rintro ⟨free, refuses⟩
    cases refuses with
    | incomplete empty => exact .blank (taken.mpr free) empty
    | taken named given known => exact .padded (taken.mpr free) named given known
    | overlong named given fresh long => exact .overlong (taken.mpr free) named given fresh long

theorem Offer.Refused.materialize (refused : Offer.Refused ⟨table.columns, field⟩ fault)
    (registry : Registry) :
    table.materialize registry field.name field.formula = .error fault :=
  materialize_error_iff.mpr (Offer.refused_iff.mp refused).2

theorem materialize_added (done : table.materialize registry field.name field.formula = .ok next) :
    ∃ trimmed, field.trimmed? = some trimmed ∧ next = table.withFields registry [trimmed] := by
  unfold materialize at done
  simp only at done
  split at done
  case isTrue => cases done
  case isFalse named =>
    split at done
    case isTrue => cases done
    case isFalse given =>
      split at done
      case isTrue => cases done
      case isFalse =>
        obtain ⟨cells, evaluated, done⟩ := bind_ok_iff.mp done
        cases done
        rw [Formula.evaluateRows_ok evaluated]
        refine ⟨⟨Text.trim field.name, Text.trim field.formula, named, given⟩, ?_, rfl⟩
        rw [StoredField.trimmed?, dif_pos named, dif_pos given]

theorem restoreField_cases (registry : Registry) (table : Table) (field : StoredField) :
    (field.name ∈ table.columns ∧
      restoreField registry table field = ⟨[.takenName field.name], .ok table⟩) ∨
    (∃ fault, Offer.Refused ⟨table.columns, field⟩ fault ∧
      restoreField registry table field = Report.fail fault) ∨
    ∃ trimmed, field.name ∉ table.columns ∧ field.trimmed? = some trimmed ∧
      (∀ fault, ¬ Offer.Refused ⟨table.columns, field⟩ fault) ∧
      restoreField registry table field = pure (table.withFields registry [trimmed]) := by
  unfold restoreField
  by_cases taken : field.name ∈ table.columns
  · left
    rw [if_pos (List.contains_iff_mem.mpr taken)]
    exact ⟨taken, rfl⟩
  · right
    rw [if_neg (by simpa using taken)]
    cases done : table.materialize registry field.name field.formula with
    | error fault =>
        left
        exact ⟨fault, Offer.refused_iff.mpr ⟨taken, materialize_error_iff.mp done⟩, rfl⟩
    | ok next =>
        right
        obtain ⟨trimmed, shape, rfl⟩ := materialize_added done
        refine ⟨trimmed, taken, shape, ?_, rfl⟩
        intro fault refused
        have stopped := refused.materialize registry
        cases done.symm.trans stopped

theorem refusal_cons {rest : List Offer} : Refusal (offer :: rest) fault ↔
    offer.Refused fault ∨ (∀ trouble, ¬ offer.Refused trouble) ∧ Refusal rest fault := by
  constructor
  · rintro ⟨before, stopped, after, shape, passed, refused⟩
    cases before with
    | nil =>
        cases shape
        exact .inl refused
    | cons first before =>
        cases shape
        obtain ⟨free, passed⟩ := List.forall_mem_cons.mp passed
        exact .inr ⟨free, before, stopped, after, rfl, passed, refused⟩
  · rintro (refused | ⟨free, before, stopped, after, rfl, passed, refused⟩)
    · exact ⟨[], offer, rest, rfl, List.forall_mem_nil _, refused⟩
    · exact ⟨offer :: before, stopped, after, rfl, List.forall_mem_cons.mpr ⟨free, passed⟩, refused⟩

theorem exists_refusal_iff {offers : List Offer} :
    (∃ fault, Refusal offers fault) ↔ ∃ offer ∈ offers, ∃ fault, offer.Refused fault := by
  constructor
  · rintro ⟨fault, before, offer, after, rfl, -, refused⟩
    exact ⟨offer, by simp, fault, refused⟩
  · intro some
    induction offers with
    | nil => simp at some
    | cons first rest ih =>
        by_cases here : ∃ fault, first.Refused fault
        · obtain ⟨fault, refused⟩ := here
          exact ⟨fault, refusal_cons.mpr (.inl refused)⟩
        · obtain ⟨offer, among, refused⟩ := some
          rcases List.mem_cons.mp among with rfl | later
          · exact absurd refused here
          · obtain ⟨fault, refusal⟩ := ih ⟨offer, later, refused⟩
            exact ⟨fault, refusal_cons.mpr (.inr ⟨not_exists.mp here, refusal⟩)⟩

theorem withFields_cons {rest : List StoredField} : table.withFields registry (field :: rest) =
    (table.withFields registry [field]).withFields registry rest := rfl

@[simp] theorem withFields_columns :
    (table.withFields registry fields).columns = table.columns ++ fields.map StoredField.name := by
  induction fields generalizing table with
  | nil => simp [withFields]
  | cons field rest ih =>
      rw [withFields_cons, ih]
      simp [withFields, addColumn, ColumnInfo.calculated]

theorem trimmed?_name {trimmed : StoredField} (shape : field.trimmed? = some trimmed) :
    trimmed.name = Text.trim field.name := by
  unfold StoredField.trimmed? at shape
  split at shape
  · split at shape
    · cases shape
      rfl
    · cases shape
  · cases shape

theorem offers_taken (taken : field.name ∈ columns) :
    offers columns (field :: fields) = ⟨columns, field⟩ :: offers columns fields := by
  simp [offers, Offer.columnsBehind, Offer.isTaken, taken]

theorem offers_added (registry : Registry) {trimmed : StoredField}
    (free : field.name ∉ table.columns) (shape : field.trimmed? = some trimmed) :
    offers table.columns (field :: fields) =
      ⟨table.columns, field⟩ :: offers (table.withFields registry [trimmed]).columns fields := by
  simp [offers, Offer.columnsBehind, Offer.isTaken, free, trimmed?_name shape]

theorem foldlM_restoreField_error_iff :
    (fields.foldlM (restoreField registry) table).outcome = .error fault ↔
      Refusal (offers table.columns fields) fault := by
  induction fields generalizing table with
  | nil => simp [offers, Refusal, pure]
  | cons field rest ih =>
      rw [List.foldlM_cons]
      obtain ⟨taken, turn⟩ | ⟨trouble, refused, turn⟩ | ⟨trimmed, free, shape, unrefused, turn⟩ :=
        restoreField_cases registry table field
      · have unrefused : ∀ fault, ¬ Offer.Refused ⟨table.columns, field⟩ fault :=
          fun fault refused => (Offer.refused_iff.mp refused).1 taken
        rw [offers_taken taken, refusal_cons, ← ih, turn]
        simp [bind, unrefused]
      · rw [offers, refusal_cons, turn]
        constructor
        · intro stopped
          cases stopped
          exact .inl refused
        · rintro (again | ⟨unrefused, -⟩)
          · cases (refused.materialize registry).symm.trans (again.materialize registry)
            rfl
          · exact absurd refused (unrefused trouble)
      · rw [offers_added registry free shape, refusal_cons, ← ih, turn, pure_bind]
        simp [unrefused]

theorem foldlM_restoreField_ok
    (unrefused : ∀ offer ∈ offers table.columns fields, ∀ fault, ¬ offer.Refused fault) :
    fields.foldlM (restoreField registry) table =
      ⟨takenNotices (offers table.columns fields),
        .ok (table.withFields registry (addedFields (offers table.columns fields)))⟩ := by
  induction fields generalizing table with
  | nil => rfl
  | cons field rest ih =>
      rw [List.foldlM_cons]
      obtain ⟨taken, turn⟩ | ⟨trouble, refused, turn⟩ | ⟨trimmed, free, shape, -, turn⟩ :=
        restoreField_cases registry table field
      · rw [offers_taken taken] at unrefused ⊢
        obtain ⟨-, later⟩ := List.forall_mem_cons.mp unrefused
        rw [turn]
        simp [bind, ih later, takenNotices, addedFields, Offer.isTaken, taken]
      · exact absurd refused (unrefused _ List.mem_cons_self trouble)
      · rw [offers_added registry free shape] at unrefused ⊢
        obtain ⟨-, later⟩ := List.forall_mem_cons.mp unrefused
        have kept : Offer.isTaken ⟨table.columns, field⟩ = false := by
          simpa [Offer.isTaken] using free
        rw [turn, pure_bind, ih later, ← withFields_cons]
        simp [takenNotices, addedFields, kept, shape]

theorem contains_stored (table : Table) (name : String) :
    ((table.info.filterMap ColumnInfo.stored?).map StoredColumn.name).contains name =
      table.hasPlain name := by
  rw [hasPlain]
  induction table.info with
  | nil => rfl
  | cons info rest ih =>
      cases kind : info.isCalculated with
      | true => simpa [ColumnInfo.stored?, kind] using ih
      | false =>
          have kept : info.stored? = some ⟨info.name, info.type, info.format⟩ := by
            simp [ColumnInfo.stored?, kind]
          rw [List.filterMap_cons_some kept, List.map_cons, List.contains_cons, ih, List.any_cons,
            kind, Bool.not_false, Bool.true_and, BEq.comm]

theorem replay_notices (registry : Registry) (settings : Settings) (table : Table) :
    (table.replay registry settings).notices =
      absentNotices settings table ++ (settings.fields.foldlM (restoreField registry)
        (table.mapInfo (ColumnInfo.restored settings))).notices := by
  unfold replay absentNotices
  simp only [contains_stored]
  cases (settings.columns.map StoredColumn.name).filter fun name => !table.hasPlain name <;> rfl

theorem mapInfo_current (settings : Settings) (table : Table) :
    table.mapInfo (ColumnInfo.restored
      { settings with columns := settings.columns.filter fun c => table.hasPlain c.name }) =
        table.mapInfo (ColumnInfo.restored settings) := by
  have same : ∀ info ∈ table.info, info.restored
      { settings with columns := settings.columns.filter fun c => table.hasPlain c.name } =
        info.restored settings := by
    intro info among
    unfold ColumnInfo.restored
    cases kind : info.isCalculated with
    | true => rfl
    | false =>
        have present : table.hasPlain info.name = true :=
          List.any_eq_true.mpr ⟨info, among, by simp [kind]⟩
        have entry : ∀ c : StoredColumn,
            (table.hasPlain c.name && c.name == info.name) = (c.name == info.name) := by
          intro c
          by_cases named : c.name = info.name
          · rw [named, present, Bool.true_and]
          · simp [named]
        simp only [Settings.column?, List.find?_filter, Bool.decide_and, Bool.decide_eq_true, entry]
  unfold mapInfo
  simp only [List.map_congr_left same]

/-- Taking over settings stops at the first field that is refused: no column has its name as it
stands, but trimmed it has no name, or one that is taken, or no formula, or its formula comes to an
integer of more than 4300 digits. If no field is refused there is a result: columns that are not
calculated have the stored types and formats, fields with a name that is taken are left out, and all
others add their columns in order. Stored columns that the table does not have are without effect
and named in a notice. -/
theorem replay_stops_iff_refused (registry : Registry) (settings : Settings) (table : Table) :
    (∀ fault, (table.replay registry settings).outcome = .error fault ↔
      Refusal (offers table.columns settings.fields) fault) ∧
    ((∀ offer ∈ offers table.columns settings.fields, ∀ fault, ¬ offer.Refused fault) ↔
      table.replay registry settings =
        ⟨absentNotices settings table ++ takenNotices (offers table.columns settings.fields),
          .ok ((table.mapInfo (ColumnInfo.restored settings)).withFields registry
            (addedFields (offers table.columns settings.fields)))⟩) ∧
    (table.replay registry settings).outcome = (table.replay registry
      { settings with columns := settings.columns.filter fun c => table.hasPlain c.name }).outcome
    := by
  have stops : ∀ fault, (table.replay registry settings).outcome = .error fault ↔
      Refusal (offers table.columns settings.fields) fault := by
    intro fault
    rw [replay_outcome]
    exact foldlM_restoreField_error_iff
  refine ⟨stops, ?_, ?_⟩
  · constructor
    · intro unrefused
      have folded := @foldlM_restoreField_ok registry
        (table.mapInfo (ColumnInfo.restored settings)) _ unrefused
      have outcome := replay_outcome registry settings table
      have notices := replay_notices registry settings table
      rw [folded] at outcome notices
      calc table.replay registry settings
          = ⟨(table.replay registry settings).notices, (table.replay registry settings).outcome⟩ :=
            rfl
        _ = _ := by rw [outcome, notices]; rfl
    · intro done offer among fault refused
      obtain ⟨first, refusal⟩ := exists_refusal_iff.mpr ⟨offer, among, fault, refused⟩
      have stopped := (stops first).mpr refusal
      rw [done] at stopped
      cases stopped
  · rw [replay_outcome, replay_outcome, mapInfo_current]

/-- A field whose name is taken once it is trimmed passes the check of the settings, and yet it is
not left out: it stops the table. -/
theorem padded_name_stops : ∃ settings,
    Settings.ofJson (.obj [("calculated_fields",
      .arr [.obj [("name", .str " k"), ("formula", .str "1")]])]) = .ok settings ∧
    (plainLone.replay .standard settings).outcome = .error (.columnExists "k") := by
  refine ⟨{ Settings.empty with fields := [⟨" k", "1", by decide, by decide⟩] }, by rfl, ?_⟩
  have refused : Offer.Refused ⟨["k"], ⟨" k", "1", by decide, by decide⟩⟩ (.columnExists "k") :=
    .padded (by decide) (by decide +kernel) (by decide +kernel) (by decide +kernel)
  rw [replay_outcome]
  exact foldlM_restoreField_error_iff.mpr ⟨[], _, [], rfl, List.forall_mem_nil _, refused⟩

/-- Every column has the type and format that are stored for it. -/
def Settled (settings : Settings) (table : Table) : Prop :=
  ∀ info ∈ table.info, info.restored settings = info

theorem restored_restored (settings : Settings) (info : ColumnInfo) :
    (info.restored settings).restored settings = info.restored settings := by
  unfold ColumnInfo.restored
  cases kind : info.isCalculated with
  | true => simp [kind]
  | false =>
      have plain : info.formula.isSome = false := kind
      cases entry : settings.column? info.name <;>
        simp [ColumnInfo.isCalculated, plain, entry]

theorem Settled.mapInfo (settings : Settings) (table : Table) :
    Settled settings (table.mapInfo (ColumnInfo.restored settings)) := by
  intro info among
  obtain ⟨old, -, rfl⟩ := List.mem_map.mp among
  exact restored_restored settings old

theorem Settled.extend {name formula : String} (settled : Settled settings table)
    (added : table.materialize registry name formula = .ok next) : Settled settings next := by
  obtain ⟨field, compiled, -, -, -, -, rfl⟩ := materialize_cases added
  intro info among
  rw [extend_info, List.mem_append, List.mem_singleton] at among
  rcases among with earlier | rfl
  · exact settled info earlier
  · rfl

theorem Settled.mapInfo_eq (settled : Settled settings table) :
    table.mapInfo (ColumnInfo.restored settings) = table := by
  have info : (table.mapInfo (ColumnInfo.restored settings)).info = table.info :=
    (List.map_congr_left settled).trans (List.map_id table.info)
  exact eq_of_parts rfl rfl info

theorem mem_columns_of_foldlM {name : String} (present : name ∈ table.columns)
    (done : (fields.foldlM (restoreField registry) table).outcome = .ok next) :
    name ∈ next.columns := by
  refine foldlM_preserves (P := fun table => name ∈ table.columns) ?_ done present
  intro table next other formula added present
  rw [(materialize_ok added).1]
  exact List.mem_append_left _ present

theorem names_mem_columns (trimmed : ∀ field ∈ fields, Text.trim field.name = field.name)
    (done : (fields.foldlM (restoreField registry) table).outcome = .ok next) :
    ∀ field ∈ fields, field.name ∈ next.columns := by
  induction fields generalizing table with
  | nil => simp
  | cons field rest ih =>
      obtain ⟨here, later⟩ := List.forall_mem_cons.mp trimmed
      rw [List.foldlM_cons] at done
      obtain ⟨middle, turn, done⟩ := report_bind_ok_iff.mp done
      have placed : field.name ∈ middle.columns := by
        obtain ⟨taken, left⟩ | ⟨fault, -, stopped⟩ | ⟨added, -, shape, -, made⟩ :=
          restoreField_cases registry table field
        · rw [left] at turn
          cases turn
          exact taken
        · rw [stopped] at turn
          cases turn
        · rw [made] at turn
          cases turn
          simp [trimmed?_name shape, here]
      exact List.forall_mem_cons.mpr ⟨mem_columns_of_foldlM placed done, ih later done⟩

theorem foldlM_restoreField_taken (taken : ∀ field ∈ fields, field.name ∈ table.columns) :
    (fields.foldlM (restoreField registry) table).outcome = .ok table := by
  induction fields with
  | nil => rfl
  | cons field rest ih =>
      obtain ⟨here, later⟩ := List.forall_mem_cons.mp taken
      rw [List.foldlM_cons]
      apply report_bind_ok_iff.mpr
      refine ⟨table, ?_, ih later⟩
      rw [restoreField, if_pos (List.contains_iff_mem.mpr here)]
      rfl

/-- Settings whose fields have trimmed names change nothing when they are taken over again. The
table may have calculated columns before, and fields may stand more than once. -/
theorem replay_again (trimmed : ∀ field ∈ settings.fields, Text.trim field.name = field.name)
    (done : (table.replay registry settings).outcome = .ok next) :
    (next.replay registry settings).outcome = .ok next := by
  rw [replay_outcome] at done ⊢
  have settled : Settled settings next :=
    foldlM_preserves (P := Settled settings) (fun _ _ _ _ added settled => settled.extend added)
      done (.mapInfo settings table)
  have taken : ∀ field ∈ settings.fields, field.name ∈ next.columns :=
    names_mem_columns trimmed done
  rw [settled.mapInfo_eq]
  exact foldlM_restoreField_taken taken

/-- Settings in which the column of the source counts as an amount and another one is not there. -/
def pricedCopies (fields : List StoredField) : Settings :=
  { Settings.empty with columns := [⟨"k", .currency, none⟩, ⟨"gone", .date, none⟩], fields }

/-- One field has the name of the copy, and one is new and stands twice. -/
theorem copied_replayed_again :
    let settings := pricedCopies [⟨"a", "1", by decide, by decide⟩,
      ⟨"b", "k", by decide, by decide⟩, ⟨"b", "1", by decide, by decide⟩]
    (∀ field ∈ settings.fields, Text.trim field.name = field.name) ∧
      ∃ next, (copied.replay .standard settings).outcome = .ok next ∧
        next.columns = ["k", "a", "b"] ∧ next.rows = [[.int 1, .int 1, .int 1]] ∧
        (next.replay .standard settings).outcome = .ok next := by
  intro settings
  have trimmed : ∀ field ∈ settings.fields, Text.trim field.name = field.name := by decide +kernel
  have ready : StoredField.Ready ⟨"b", "k", by decide, by decide⟩ :=
    ⟨by decide +kernel, by decide +kernel, _, compile_k⟩
  let start := copied.mapInfo (ColumnInfo.restored settings)
  have fresh : "b" ∉ start.columns := by decide
  have made := @materialize_column .standard start _ _ ready compile_k fresh
  have cells : (start.rows.map fun row => ((Scope.cell? ⟨.standard, .ofColumns start.columns, row⟩
      "k").map Cell.normalized).getD .failure) = [.int 1] := by decide +kernel
  rw [cells] at made
  obtain ⟨next, added, columns, rows⟩ : ∃ next, start.materialize .standard "b" "k" = .ok next ∧
      next.columns = ["k", "a", "b"] ∧ next.rows = [[.int 1, .int 1, .int 1]] :=
    ⟨_, made, rfl, rfl⟩
  have done : (copied.replay .standard settings).outcome = .ok next := by
    rw [replay_outcome]
    apply report_bind_ok_iff.mpr
    refine ⟨start, rfl, report_bind_ok_iff.mpr ⟨next, ?_, ?_⟩⟩
    · rw [restoreField, if_neg (by decide)]
      exact added
    · rw [List.foldlM_cons, restoreField, if_pos (by simp [columns])]
      rfl
  exact ⟨trimmed, next, done, columns, rows, replay_again trimmed done⟩

end Table

end Gridbook
