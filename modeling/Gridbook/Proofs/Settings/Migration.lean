import Mathlib
import Gridbook.Proofs.Settings.Version
import Gridbook.Text.Case

/-! # What records of the first version say

A record is brought to the current version once: what comes out of it comes out of itself again. The
settings that a record of the first version gives say what it says, entry by entry and in order;
calculated columns among its columns and fields without a formula are passed over.
-/

namespace Gridbook

namespace Double

theorem showDecimal_starts (x : Decimal) :
    ∃ c rest, showDecimal x = c :: rest ∧ (c = '-' ∨ c.isDigit = true) := by
  obtain ⟨c, digits, first, digit⟩ := Numeral.toDigits_cons x.coefficient
  cases negative : x.negative with
  | true => exact ⟨'-', _, by rw [showDecimal, negative]; rfl, .inl rfl⟩
  | false =>
      simp only [showDecimal, negative, first, Bool.false_eq_true, if_false, List.nil_append]
      split
      · exact ⟨'0', _, rfl, .inr rfl⟩
      · split
        · split
          · exact ⟨c, _, rfl, .inr digit⟩
          · split
            · exact ⟨c, _, rfl, .inr digit⟩
            · exact ⟨'0', _, rfl, .inr rfl⟩
        · exact ⟨c, _, rfl, .inr digit⟩

end Double

theorem intDigits_starts (n : Int) :
    ∃ c rest, (intDigits n).toList = c :: rest ∧ (c = '-' ∨ c.isDigit = true) := by
  obtain ⟨c, digits, first, digit⟩ := Numeral.toDigits_cons n.natAbs
  rw [Numeral.toList_intDigits, first]
  split
  · exact ⟨'-', _, rfl, .inl rfl⟩
  · exact ⟨c, _, rfl, .inr digit⟩

theorem Text.lower_starts {s : String} {c : Char} {rest : List Char} (shape : s.toList = c :: rest)
    (ascii : c.toNat < 128) : ∃ others, (Text.lower s).toList = c.toLower :: others := by
  have plain : (c == 'Σ') = false := by
    apply beq_false_of_ne
    rintro rfl
    exact absurd ascii (by decide)
  rw [lower, String.toList_ofList, shape, lowerAfter, plain, lowerOf, if_pos ascii]
  exact ⟨_, rfl⟩

namespace ColumnType

theorem name_of_ofName? {name : String} {type : ColumnType} (found : ofName? name = some type) :
    type.name = name := by
  simpa using List.find?_some found

theorem name_injective : Function.Injective name := by
  intro first second same
  have found := ofName?_name first
  rw [same, ofName?_name] at found
  exact (Option.some.inj found).symm

theorem name_starts (type : ColumnType) :
    ∃ c rest, type.name.toList = c :: rest ∧ c ∈ ['t', 'n', 'd', 'b', 'c'] := by
  cases type <;> exact ⟨_, _, rfl, by decide⟩

theorem lower_ne_name {s : String} {c : Char} {rest : List Char} (shape : s.toList = c :: rest)
    (ascii : c.toNat < 128) (other : c.toLower ∉ ['t', 'n', 'd', 'b', 'c']) (type : ColumnType) :
    Text.lower s ≠ type.name := by
  intro same
  obtain ⟨others, starts⟩ := Text.lower_starts shape ascii
  obtain ⟨d, more, named, among⟩ := type.name_starts
  rw [same, named] at starts
  cases starts
  exact other among

/-- Neither a sign nor a digit begins the name of a type, and lower case leaves both alone. -/
theorem lower_ne_name_of_number {s : String}
    (starts : ∃ c rest, s.toList = c :: rest ∧ (c = '-' ∨ c.isDigit = true)) (type : ColumnType) :
    Text.lower s ≠ type.name := by
  obtain ⟨c, rest, shape, rfl | digit⟩ := starts
  · exact lower_ne_name shape (by decide) (by decide) type
  · have range : 48 ≤ c.toNat ∧ c.toNat ≤ 57 := Char.isDigit_iff_toNat.mp digit
    have notUpper : ¬ c.isUpper = true := by
      intro upper
      have letter : 65 ≤ c.toNat := (of_decide_eq_true upper).1
      omega
    have same : c.toLower = c := Char.toLower_eq_of_not_isUpper notUpper
    refine lower_ne_name shape (by omega) ?_ type
    rw [same]
    intro among
    have letters : ∀ d ∈ ['t', 'n', 'd', 'b', 'c'], d.isDigit = false := by simp
    rw [letters c among] at digit
    cases digit

theorem lower_ne_name_of_word {word : String}
    (among : word ∈ ["None", "True", "False", "nan", "inf", "-inf"]) (type : ColumnType) :
    Text.lower word ≠ type.name := by
  revert word
  cases type <;> decide +kernel

theorem str_of_lower {value : Json} {type : ColumnType}
    (named : Text.lower value.plainText = type.name) : ∃ s, value = .str s := by
  cases value with
  | str s => exact ⟨s, rfl⟩
  | null => exact absurd named (lower_ne_name_of_word (by decide) type)
  | bool b =>
      refine absurd named (lower_ne_name_of_word ?_ type)
      cases b <;> decide
  | int n => exact absurd named (lower_ne_name_of_number (intDigits_starts n) type)
  | float x =>
      cases x with
      | nan => exact absurd named (lower_ne_name_of_word (by decide) type)
      | infinite negative =>
          refine absurd named (lower_ne_name_of_word ?_ type)
          cases negative <;> decide
      | finite negative m e h =>
          refine absurd named (lower_ne_name_of_number ?_ type)
          simpa [Json.plainText, Json.shown, Double.text] using Double.showDecimal_starts _
  | arr items =>
      have shape : (Json.arr items).shown.toList =
          '[' :: ((", ".intercalate (Json.shownItems items)).toList ++ [']']) := by
        simp [Json.shown]
      exact absurd named (lower_ne_name shape (by decide) (by decide) type)
  | obj members =>
      have shape : (Json.obj members).shown.toList =
          '\x7b' :: ((", ".intercalate (Json.shownMembers members)).toList ++ ['\x7d']) := by
        simp [Json.shown]
      exact absurd named (lower_ne_name shape (by decide) (by decide) type)

end ColumnType

namespace Checked

variable {α : Type} {value : Json} {members : List (String × Json)} {name : String}

theorem str_of_string {s : String} (passed : string value = ok s) : value = .str s := by
  cases value with
  | str t => exact congrArg Json.str (Except.ok.inj passed)
  | null | bool | int | float | arr | obj => cases passed

theorem str_of_filledString {s : { s : String // s ≠ "" }} (passed : filledString value = ok s) :
    value = .str s.1 := by
  cases value with
  | str t =>
      unfold filledString at passed
      simp only at passed
      split at passed
      case isTrue =>
        obtain rfl := Except.ok.inj passed
        rfl
      case isFalse => cases passed
  | null | bool | int | float | arr | obj => cases passed

theorem elim_of_optionalString {format : Option String}
    (passed : optionalString value = ok format) : value = format.elim .null .str := by
  cases value with
  | null =>
      cases passed
      rfl
  | str s =>
      cases passed
      rfl
  | bool | int | float | arr | obj => cases passed

theorem str_of_columnType {type : ColumnType} (passed : columnType value = ok type) :
    value = .str type.name := by
  cases value with
  | str s =>
      unfold columnType at passed
      simp only at passed
      split at passed
      case h_1 found =>
        cases passed
        rw [ColumnType.name_of_ofName? found]
      case h_2 => cases passed
  | null | bool | int | float | arr | obj => cases passed

theorem of_member {check : Json → Checked α} {a : α}
    (passed : member members name check = ok a) (found : members.lookup name = some value) :
    check value = ok a := by
  rw [member, found] at passed
  exact under_eq_ok.mp passed

theorem of_optionalMember {check : Json → Checked α} {default a : α}
    (passed : optionalMember members name default check = ok a)
    (found : members.lookup name = some value) : check value = ok a := by
  rw [optionalMember, found] at passed
  exact under_eq_ok.mp passed

theorem forall₂_of_all {checks : List (Checked α)} {values : List α}
    (passed : all checks = ok values) :
    List.Forall₂ (fun check a => check = ok a) checks values := by
  induction checks generalizing values with
  | nil =>
      cases passed
      exact .nil
  | cons check rest ih =>
      obtain ⟨_, later, made, others, rfl⟩ := seq_eq_ok.mp passed
      obtain ⟨first, here, rfl⟩ := map_eq_ok.mp made
      exact .cons here (ih others)

theorem forall₂_of_list {item : Json → Checked α} {items : List Json} {values : List α}
    (passed : list item (.arr items) = ok values) :
    List.Forall₂ (fun value a => item value = ok a) items values := by
  have each := forall₂_of_all passed
  rw [List.forall₂_map_left_iff] at each
  have checked :
      List.Forall₂ (fun value a => item value = ok a) (items.zipIdx.map Prod.fst) values :=
    List.forall₂_map_left_iff.mpr (each.imp fun entry a => under_eq_ok.mp)
  rwa [List.zipIdx_map_fst] at checked

theorem storedColumn_parts {column : StoredColumn}
    (passed : storedColumn (.obj members) = ok column) :
    member members "name" string = ok column.name ∧
      optionalMember members "data_type" .text columnType = ok column.type ∧
      optionalMember members "format" none optionalString = ok column.format := by
  obtain ⟨_, _, withFormat, -, rfl⟩ := seq_eq_ok.mp passed
  obtain ⟨_, format, withType, givenFormat, rfl⟩ := seq_eq_ok.mp withFormat
  obtain ⟨_, type, withName, givenType, rfl⟩ := seq_eq_ok.mp withType
  obtain ⟨name, givenName, rfl⟩ := map_eq_ok.mp withName
  exact ⟨givenName, givenType, givenFormat⟩

theorem storedField_parts {field : StoredField} (passed : storedField (.obj members) = ok field) :
    member members "name" filledString = ok ⟨field.name, field.name_ne⟩ ∧
      member members "formula" filledString = ok ⟨field.formula, field.formula_ne⟩ := by
  obtain ⟨_, _, withFormula, -, rfl⟩ := seq_eq_ok.mp passed
  obtain ⟨_, formula, withName, givenFormula, rfl⟩ := seq_eq_ok.mp withFormula
  obtain ⟨name, givenName, rfl⟩ := map_eq_ok.mp withName
  exact ⟨givenName, givenFormula⟩

end Checked

namespace Settings

variable {members : List (String × Json)} {settings : Settings}

/-- What an entry of the columns says of a column: a type that is not given is text. -/
structure SaysColumn (entry : List (String × Json)) (column : StoredColumn) : Prop where
  name : entry.lookup "name" = some (.str column.name)
  type : given? entry "dataType" = none ∧ column.type = .text ∨
    ∃ spelled, given? entry "dataType" = some (.str spelled) ∧
      Text.lower spelled = column.type.name
  format : (entry.lookup "format").getD .null = column.format.elim .null .str

structure SaysField (entry : List (String × Json)) (field : StoredField) : Prop where
  name : entry.lookup "name" = some (.str field.name)
  formula : entry.lookup "formula" = some (.str field.formula)

/-- Whether an entry of the columns is of a column that is not calculated. -/
def isPlain (entry : List (String × Json)) : Bool :=
  (given? entry "isCalculated").isNone

/-- Whether an entry of the calculated fields has a formula. -/
def hasFormula (entry : List (String × Json)) : Bool :=
  (given? entry "formula").isSome

/-- A record lists these entries under a name, and none if nothing is given there. -/
def Lists (members : List (String × Json)) (name : String) (listed : List (List (String × Json))) :
    Prop :=
  (given? members name).getD (.arr []) = .arr (listed.map .obj)

/-- A step that turns entries into current form: an entry that is not kept gives nothing, and what
passes the check of one that is kept is what the entry says. -/
def Upgrades {α : Type} (step : Json → Except Fault (Option Json)) (check : Json → Checked α)
    (keep : List (String × Json) → Bool) (Says : List (String × Json) → α → Prop) : Prop :=
  ∀ entry upgraded, step entry = .ok upgraded → ∃ members, entry = .obj members ∧
    (keep members = false ∧ upgraded = none ∨ keep members = true ∧ ∃ current,
      upgraded = some current ∧ ∀ a, check current = Checked.ok a → Says members a)

theorem lookup_of_given? {name : String} {value : Json} (given : given? members name = some value) :
    members.lookup name = some value :=
  Option.eq_some_of_filter_eq_some given

theorem lookup_of_needed {name : String} {value : Json} (found : needed members name = .ok value) :
    members.lookup name = some value := by
  unfold needed at found
  split at found
  case h_1 present =>
    cases found
    exact present
  case h_2 => cases found

theorem type_of_spelled {type : ColumnType}
    (spelled : Text.lower ((given? members "dataType").getD (.str "text")).plainText = type.name) :
    given? members "dataType" = none ∧ type = .text ∨
      ∃ s, given? members "dataType" = some (.str s) ∧ Text.lower s = type.name := by
  cases given : given? members "dataType" with
  | none =>
      rw [given] at spelled
      have usual : Text.lower "text" = ColumnType.text.name := by decide +kernel
      exact .inl ⟨rfl, ColumnType.name_injective (spelled.symm.trans usual)⟩
  | some value =>
      rw [given] at spelled
      obtain ⟨s, rfl⟩ := ColumnType.str_of_lower spelled
      exact .inr ⟨s, rfl, spelled⟩

theorem column_upgrades : Upgrades currentColumn Checked.storedColumn isPlain SaysColumn := by
  intro entry upgraded made
  obtain ⟨members, given, made⟩ := bind_ok_iff.mp made
  refine ⟨members, obj_of_membersOf given, ?_⟩
  split at made
  case isTrue calculated =>
    left
    cases made
    exact ⟨by simpa [isPlain] using calculated, rfl⟩
  case isFalse plain =>
    right
    obtain ⟨name, named, made⟩ := bind_ok_iff.mp made
    cases made
    refine ⟨by simpa [isPlain] using plain, _, rfl, ?_⟩
    intro column passed
    obtain ⟨givenName, givenType, givenFormat⟩ := Checked.storedColumn_parts passed
    have nameIs := Checked.str_of_string (Checked.of_member givenName rfl)
    have typeIs := Checked.str_of_columnType (Checked.of_optionalMember givenType rfl)
    have formatIs := Checked.elim_of_optionalString (Checked.of_optionalMember givenFormat rfl)
    have found := lookup_of_needed named
    rw [nameIs] at found
    exact ⟨found, type_of_spelled (Json.str.inj typeIs), formatIs⟩

theorem field_upgrades : Upgrades currentField Checked.storedField hasFormula SaysField := by
  intro entry upgraded made
  obtain ⟨members, given, made⟩ := bind_ok_iff.mp made
  refine ⟨members, obj_of_membersOf given, ?_⟩
  split at made
  case h_1 without =>
    left
    cases made
    exact ⟨by simp [hasFormula, without], rfl⟩
  case h_2 formula present =>
    right
    obtain ⟨name, named, made⟩ := bind_ok_iff.mp made
    cases made
    refine ⟨by simp [hasFormula, present], _, rfl, ?_⟩
    intro field passed
    obtain ⟨givenName, givenFormula⟩ := Checked.storedField_parts passed
    have nameIs := Checked.str_of_filledString (Checked.of_member givenName rfl)
    have formulaIs := Checked.str_of_filledString (Checked.of_member givenFormula rfl)
    have found := lookup_of_needed named
    have spelled := lookup_of_given? present
    rw [nameIs] at found
    rw [formulaIs] at spelled
    exact ⟨found, spelled⟩

/-- What passes the check of upgraded entries is what the kept ones say, in their order. -/
theorem Upgrades.forall₂ {α : Type} {step : Json → Except Fault (Option Json)}
    {check : Json → Checked α} {keep : List (String × Json) → Bool}
    {Says : List (String × Json) → α → Prop} (upgrades : Upgrades step check keep Says)
    {found : List Json} {upgraded : List (Option Json)} {values : List α}
    (made : found.mapM step = .ok upgraded)
    (passed : List.Forall₂ (fun current a => check current = Checked.ok a)
      (upgraded.filterMap id) values) :
    ∃ listed : List (List (String × Json)),
      found = listed.map .obj ∧ List.Forall₂ Says (listed.filter keep) values := by
  induction found generalizing upgraded values with
  | nil =>
      cases made
      cases passed
      exact ⟨[], rfl, .nil⟩
  | cons entry rest ih =>
      obtain ⟨first, others, here, later, rfl⟩ := mapM_ok_cons made
      obtain ⟨members, rfl, ⟨left, rfl⟩ | ⟨kept, current, rfl, means⟩⟩ := upgrades entry first here
      · -- What is passed over still stands in the record.
        obtain ⟨listed, rfl, each⟩ := ih later passed
        exact ⟨members :: listed, rfl, by rwa [List.filter_cons_of_neg (by simp [left])]⟩
      · rw [List.filterMap_cons_some (f := id) rfl] at passed
        cases passed with
        | cons now passed =>
            obtain ⟨listed, rfl, each⟩ := ih later passed
            refine ⟨members :: listed, rfl, ?_⟩
            rw [List.filter_cons_of_pos kept]
            exact .cons (means _ now) each

theorem eq_nil_of_texts {α : Type} {name : α → String} {items : List α}
    {listed : List (List (String × Json))}
    (same : items.map (fun item => Json.str (name item)) = listed.map .obj) : items = [] := by
  cases items with
  | nil => rfl
  | cons first rest => cases listed <;> cases same

theorem lists_of_entries {name : String} {listed : List (List (String × Json))}
    (gone : entries (members.lookup name) = .ok (listed.map .obj)) : Lists members name listed := by
  unfold Lists given?
  cases found : members.lookup name with
  | none =>
      rw [found] at gone
      rw [Option.filter_none, Option.getD_none, Except.ok.inj gone]
  | some value =>
      rw [found] at gone
      unfold entries at gone
      simp only at gone
      split at gone
      case isTrue missing =>
        rw [Option.filter_some, if_neg (by simpa using missing), Option.getD_none,
          Except.ok.inj gone]
      case isFalse given =>
        rw [Option.filter_some, if_pos (by simpa using given), Option.getD_some]
        -- Names of members and characters of a text are no objects, so there are none of them.
        cases value with
        | arr items => rw [Except.ok.inj gone]
        | obj inner =>
            obtain rfl := eq_nil_of_texts (Except.ok.inj gone)
            exact absurd rfl given
        | str s =>
            have empty := eq_nil_of_texts (Except.ok.inj gone)
            rw [String.toList_eq_nil_iff] at empty
            subst empty
            exact absurd rfl given
        | null | bool | int | float => cases gone

/-- What an entry of the widths says of the width of a column: integers that may be spelled out. -/
structure SaysWidth (entry : String × Json) (width : Int × Int) : Prop where
  index : Checked.integerText entry.1 = Checked.ok width.1
  width : Checked.integer entry.2 = Checked.ok width.2

theorem saysWidth_of_widthEntry {entry : String × Json} {width : Int × Int}
    (passed : Checked.widthEntry entry = Checked.ok width) : SaysWidth entry width := by
  obtain ⟨_, size, made, givenSize, rfl⟩ := Checked.seq_eq_ok.mp (Checked.under_eq_ok.mp passed)
  obtain ⟨index, givenIndex, rfl⟩ := Checked.map_eq_ok.mp made
  exact ⟨Checked.under_eq_ok.mp givenIndex, givenSize⟩

/-- Widths are those that a record says, each for one index, where the last entry counts. -/
structure SaysWidths (members : List (String × Json)) (widths : List (Int × Int)) : Prop where
  distinct : (widths.map Prod.fst).Nodup
  given : ∃ named read, (given? members "columnWidths").getD (.obj []) = .obj named ∧
    List.Forall₂ SaysWidth named read ∧ ∀ index, widths.lookup index = read.reverse.lookup index

theorem saysWidths_of_checked {widths : List (Int × Int)}
    (passed : Checked.widths ((given? members "columnWidths").getD (.obj [])) = Checked.ok widths) :
    SaysWidths members widths := by
  cases value : (given? members "columnWidths").getD (.obj []) with
  | obj named =>
      rw [value] at passed
      obtain ⟨read, each, rfl⟩ := Checked.map_eq_ok.mp passed
      have entries := List.forall₂_map_left_iff.mp (Checked.forall₂_of_all each)
      refine ⟨nodup_keys_foldl_set List.nodup_nil, named, read, value, ?_, ?_⟩
      · exact entries.imp fun _ _ => saysWidth_of_widthEntry
      · intro index
        rw [← List.append_nil read.reverse]
        exact Assoc.lookup_foldl_set read [] index
  | null | bool | int | float | str | arr =>
      rw [value] at passed
      cases passed

/-- Settings are those that a record of the first version says: its widths, a column for each entry
that is not calculated and a field for each entry with a formula, both in the order of the
entries. -/
structure Says (members : List (String × Json)) (settings : Settings) : Prop where
  version : settings.version = currentVersion
  widths : SaysWidths members settings.widths
  columns : ∃ listed, Lists members "columnMetadata" listed ∧
    List.Forall₂ SaysColumn (listed.filter isPlain) settings.columns
  fields : ∃ listed, Lists members "calculatedFields" listed ∧
    List.Forall₂ SaysField (listed.filter hasFormula) settings.fields

theorem Upgrades.lists {α : Type} {step : Json → Except Fault (Option Json)}
    {check : Json → Checked α} {keep : List (String × Json) → Bool}
    {Says : List (String × Json) → α → Prop} (upgrades : Upgrades step check keep Says)
    {name : String} {found : List Json} {upgraded : List (Option Json)} {values : List α}
    (gone : entries (members.lookup name) = .ok found) (made : found.mapM step = .ok upgraded)
    (passed : Checked.list check (.arr (upgraded.filterMap id)) = Checked.ok values) :
    ∃ listed, Lists members name listed ∧ List.Forall₂ Says (listed.filter keep) values := by
  obtain ⟨listed, rfl, each⟩ := upgrades.forall₂ made (Checked.forall₂_of_list passed)
  exact ⟨listed, lists_of_entries gone, each⟩

theorem says_of_ofRecord (version : recordVersion members = .ok 1)
    (given : ofRecord (.obj members) = .ok settings) : Says members settings := by
  have current := ofRecord_version given
  obtain ⟨document, migrated, read⟩ := bind_ok_iff.mp given
  obtain ⟨_, same, ⟨later, -⟩ | ⟨-, brought⟩⟩ := migrate_cases migrated <;> cases same
  · rw [version] at later
    cases later
  · obtain ⟨columnEntries, columns, fieldEntries, fields, listedColumns, eachColumn, listedFields,
      eachField, rfl⟩ := fromFirst_eq_ok.mp brought
    obtain ⟨-, givenWidths, givenColumns, givenFields⟩ := settings_parts (checked_of_ofJson read)
    have widths := Checked.of_optionalMember givenWidths rfl
    have columns := Checked.of_optionalMember givenColumns rfl
    have fields := Checked.of_optionalMember givenFields rfl
    exact ⟨current, saysWidths_of_checked widths,
      column_upgrades.lists listedColumns eachColumn columns,
      field_upgrades.lists listedFields eachField fields⟩

/-- A record that is brought to the current version has it and stays as it is from then on. -/
theorem migrate_again {record current : Json} (migrated : migrate record = .ok current) :
    (∃ brought, current = .obj brought ∧
      brought.lookup "schema_version" = some (.int currentVersion)) ∧
      migrate current = .ok current := by
  obtain ⟨members, rfl, ⟨version, rfl⟩ | ⟨-, brought⟩⟩ := migrate_cases migrated
  · exact ⟨⟨members, rfl, lookup_of_recordVersion (by decide) version⟩, migrate_current version⟩
  · obtain ⟨_, columns, _, fields, -, -, -, -, rfl⟩ := fromFirst_eq_ok.mp brought
    exact ⟨⟨_, rfl, rfl⟩, migrate_current rfl⟩

/-- Bringing a record to the current version is done once, and it keeps what the record says. -/
theorem migration_keeps :
    (∀ members current, migrate (.obj members) = .ok current →
      (∃ brought, current = .obj brought ∧
        brought.lookup "schema_version" = some (.int currentVersion)) ∧
        migrate current = .ok current) ∧
      ∀ members settings, recordVersion members = .ok 1 →
        ofRecord (.obj members) = .ok settings → Says members settings :=
  ⟨fun _ _ => migrate_again, fun _ _ => says_of_ofRecord⟩

/-- A record of the first version: one width is given twice, a column is calculated and a field has
no formula. -/
def firstRecord : List (String × Json) :=
  [("columnWidths", .obj [("0", .int 150), (" 0", .str "90")]),
    ("columnMetadata", .arr [
      .obj [("name", .str "price"), ("dataType", .str "CURRENCY"), ("format", .str "$0.00")],
      .obj [("name", .str "total"), ("isCalculated", .bool true)],
      .obj [("name", .str "note")]]),
    ("calculatedFields", .arr [
      .obj [("name", .str "total"), ("formula", .str "price * 2")],
      .obj [("name", .str "empty"), ("formula", .str "")]])]

def firstSettings : Settings where
  version := currentVersion
  widths := [(0, 90)]
  columns := [⟨"price", .currency, some "$0.00"⟩, ⟨"note", .text, none⟩]
  fields := [⟨"total", "price * 2", by decide, by decide⟩]

theorem firstRecord_kept : recordVersion firstRecord = .ok 1 ∧
    ofRecord (.obj firstRecord) = .ok firstSettings ∧ Says firstRecord firstSettings ∧
    ∃ current, migrate (.obj firstRecord) = .ok current ∧ migrate current = .ok current := by
  have version : recordVersion firstRecord = .ok 1 := rfl
  have given : ofRecord (.obj firstRecord) = .ok firstSettings := by rfl
  obtain ⟨current, migrated, -⟩ := bind_ok_iff.mp given
  exact ⟨version, given, migration_keeps.2 _ _ version given, current, migrated,
    (migration_keeps.1 _ _ migrated).2⟩

end Settings

end Gridbook
