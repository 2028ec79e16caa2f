import Mathlib
import Gridbook.Proofs.Escape
import Gridbook.Proofs.Text.Blank
import Gridbook.Settings
import Gridbook.Table.Edit

/-! # Tables under edits

What each edit of a table does, and what every table that comes from a source by edits still has of
it: the columns of the source in front with their cells, and calculated columns behind them.
-/

namespace Gridbook

theorem map_eq_map_of_keys {α β γ δ : Type} {xs : List α} {ys : List β} {k : α → γ} {l : β → γ}
    {f : α → δ} {g : β → δ} (same : xs.map k = ys.map l)
    (agree : ∀ x ∈ xs, ∀ y ∈ ys, k x = l y → f x = g y) : xs.map f = ys.map g := by
  induction xs generalizing ys with
  | nil =>
      cases ys with
      | nil => rfl
      | cons y ys => cases same
  | cons x xs ih =>
      cases ys with
      | nil => cases same
      | cons y ys =>
          obtain ⟨now, later⟩ := List.cons.inj same
          rw [List.map_cons, List.map_cons, agree x List.mem_cons_self y List.mem_cons_self now,
            ih later fun x amongX y amongY =>
              agree x (List.mem_cons_of_mem _ amongX) y (List.mem_cons_of_mem _ amongY)]

/-- A calculated field that is added as it stands: there is nothing to trim, and its formula is
read. -/
structure StoredField.Ready (field : StoredField) : Prop where
  name : Text.trim field.name = field.name
  formula : Text.trim field.formula = field.formula
  compiled : ∃ compiled, Formula.compile field.formula = .ok compiled

namespace Table

/-- A change to a table. -/
inductive Edit where
  | materialize (name formula : String)
  | remove (index : Int)
  | setType (index : Int) (type : ColumnType)
  | setFormat (index : Int) (tag : Option String)

def edit (registry : Registry) (table : Table) : Edit → Except Fault Table
  | .materialize name formula => table.materialize registry name formula
  | .remove index => table.remove index
  | .setType index type => table.setType index type
  | .setFormat index tag => table.setFormat index tag

/-- What each column is made of: its name and, if it is calculated, its formula. -/
def recipe (table : Table) : List (String × Option String) :=
  table.info.map fun info => (info.name, info.formula)

def extend (registry : Registry) (field : StoredField) (compiled : Option Formula)
    (table : Table) : Table :=
  table.addColumn (.calculated field.name field.formula field.formula_ne)
    (table.rows.map (Formula.evaluateCompiled ⟨registry, .ofColumns table.columns, ·⟩ compiled))

variable {registry : Registry} {table next : Table} {field : StoredField}
  {compiled : Option Formula}

@[simp] theorem extend_columns :
    (table.extend registry field compiled).columns = table.columns ++ [field.name] := rfl

@[simp] theorem extend_info : (table.extend registry field compiled).info =
    table.info ++ [.calculated field.name field.formula field.formula_ne] := rfl

@[simp] theorem extend_rows : (table.extend registry field compiled).rows =
    table.rows.map fun row =>
      row ++ [Formula.evaluateCompiled ⟨registry, .ofColumns table.columns, row⟩ compiled] := by
  simp [extend, addColumn, List.zipWith_map_right]

@[simp] theorem extend_recipe : (table.extend registry field compiled).recipe =
    table.recipe ++ [(field.name, some field.formula)] := by
  simp [recipe, ColumnInfo.calculated]

@[simp] theorem dropColumn_columns (i : Nat) :
    (table.dropColumn i).columns = table.columns.eraseIdx i := rfl

@[simp] theorem dropColumn_rows (i : Nat) :
    (table.dropColumn i).rows = table.rows.map fun row => row.eraseIdx i := rfl

@[simp] theorem dropColumn_recipe (i : Nat) :
    (table.dropColumn i).recipe = table.recipe.eraseIdx i := by
  simp [recipe, dropColumn, List.eraseIdx_map]

theorem extend_front {n : Nat} (inside : n ≤ table.columns.length) :
    (table.extend registry field compiled).rows.map (List.take n) =
      table.rows.map (List.take n) := by
  rw [extend_rows, List.map_map]
  refine List.map_congr_left fun row among => ?_
  exact List.take_append_of_le_length (inside.trans (table.rectangular row among).ge)

theorem dropColumn_front {n i : Nat} (behind : n ≤ i) :
    (table.dropColumn i).rows.map (List.take n) = table.rows.map (List.take n) := by
  rw [dropColumn_rows, List.map_map]
  exact List.map_congr_left fun row _ => List.take_eraseIdx_eq_take_of_le row _ _ behind

theorem materialize_ready (ready : field.Ready)
    (read : Formula.compile field.formula = .ok compiled) (fresh : field.name ∉ table.columns) :
    table.materialize registry field.name field.formula =
      .ok (table.extend registry field compiled) := by
  have absent : table.columns.contains field.name = false := by simpa using fresh
  simp only [materialize, ready.name, ready.formula, field.name_ne, field.formula_ne, absent,
    Formula.evaluateRows, read, if_false, dite_false, Bool.false_eq_true]
  rfl

theorem materialize_cases {name formula : String}
    (done : table.materialize registry name formula = .ok next) :
    ∃ (field : StoredField) (compiled : Option Formula), field.Ready ∧
      field.name = Text.trim name ∧ field.name ∉ table.columns ∧
      Formula.compile field.formula = .ok compiled ∧
      next = table.extend registry field compiled := by
  unfold materialize at done
  simp only at done
  split at done
  · cases done
  · split at done
    · cases done
    · split at done
      · cases done
      case isFalse named given fresh =>
        obtain ⟨cells, evaluated, done⟩ := bind_ok_iff.mp done
        obtain ⟨compiled, read, evaluated⟩ := bind_ok_iff.mp evaluated
        cases evaluated
        cases done
        refine ⟨⟨Text.trim name, Text.trim formula, named, given⟩, compiled, ⟨?_, ?_, ?_⟩, rfl, ?_,
          read, rfl⟩
        · exact Text.trim_trim name
        · exact Text.trim_trim formula
        · exact ⟨compiled, read⟩
        · simpa using fresh

theorem remove_cases {index : Int} (done : table.remove index = .ok next) :
    ∃ i info, table.info[i]? = some info ∧ info.isCalculated = true ∧
      next = table.dropColumn i := by
  unfold remove at done
  split at done
  case isFalse => cases done
  case isTrue =>
    split at done
    case h_1 => cases done
    case h_2 info here =>
      split at done
      case isFalse => cases done
      case isTrue calculated =>
        cases done
        exact ⟨index.toNat, info, here, calculated, rfl⟩

theorem updateInfo_cases {index : Int} {f : ColumnInfo → Except Fault ColumnInfo}
    (done : table.updateInfo index f = .ok next) :
    ∃ i info changed, table.infoAt index = .ok info ∧ table.info[i]? = some info ∧
      f info = .ok changed ∧ next = table.setInfo i changed := by
  obtain ⟨info, found, done⟩ := bind_ok_iff.mp done
  obtain ⟨changed, made, done⟩ := bind_ok_iff.mp done
  cases done
  have found' := found
  unfold infoAt at found
  cases at_ : position? table.info.length index with
  | none => simp [at_] at found
  | some i =>
      refine ⟨i, info, changed, found', ?_, made, rfl⟩
      simp only [at_, Option.bind_some] at found
      split at found <;> simp_all

/-- Two tables that differ at most in the types and formats of their columns. -/
structure Restyled (table next : Table) : Prop where
  columns : next.columns = table.columns
  rows : next.rows = table.rows
  recipe : next.recipe = table.recipe

theorem setInfo_restyled {i : Nat} {info changed : ColumnInfo} (here : table.info[i]? = some info)
    (name : changed.name = info.name) (formula : changed.formula = info.formula) :
    Restyled table (table.setInfo i changed) := by
  refine ⟨rfl, rfl, ?_⟩
  obtain ⟨inside, rfl⟩ := List.getElem?_eq_some_iff.mp here
  rw [recipe, setInfo, List.map_set, name, formula]
  refine List.ext_getElem (by simp [recipe]) fun j _ _ => ?_
  rw [List.getElem_set]
  split <;> simp_all [recipe]

theorem setType_cases {index : Int} {type : ColumnType}
    (done : table.setType index type = .ok next) :
    Restyled table next ∧ ∃ i info, table.infoAt index = .ok info ∧ table.info[i]? = some info ∧
      next = table.setInfo i { info with type, format := some defaultFormat } := by
  obtain ⟨i, info, changed, found, here, made, rfl⟩ := updateInfo_cases done
  cases made
  exact ⟨setInfo_restyled here rfl rfl, i, info, found, here, rfl⟩

theorem setFormat_cases {index : Int} {tag : Option String}
    (done : table.setFormat index tag = .ok next) :
    Restyled table next ∧ ∃ i info, table.infoAt index = .ok info ∧ table.info[i]? = some info ∧
      next = table.setInfo i { info with format := tag } := by
  obtain ⟨i, info, changed, found, here, made, rfl⟩ := updateInfo_cases done
  have same : changed = { info with format := tag } := by
    cases tag with
    | none =>
        cases made
        rfl
    | some tag =>
        simp only at made
        split at made
        · cases made
          rfl
        · cases made
  subst same
  exact ⟨setInfo_restyled here rfl rfl, i, info, found, here, rfl⟩

/-- A table that comes from a source and has some calculated fields: the columns of the source stand
in front with their cells, and the fields stand behind them in order, each with a name of its own.
The source may have columns that share a name. -/
structure Based (source : Source) (fields : List StoredField) (table : Table) : Prop where
  columns : table.columns = source.columns ++ fields.map StoredField.name
  recipe : table.recipe = source.columns.map (fun name => (name, none)) ++
    fields.map fun field => (field.name, some field.formula)
  ready : ∀ field ∈ fields, field.Ready
  alone : ∀ field ∈ fields, table.columns.count field.name = 1
  rows : table.rows.map (List.take source.columns.length) = source.rows

namespace Based

variable {source : Source} {fields : List StoredField}

theorem restyle (based : Based source fields table) (restyled : Restyled table next) :
    Based source fields next where
  columns := restyled.columns.trans based.columns
  recipe := restyled.recipe.trans based.recipe
  ready := based.ready
  alone := restyled.columns ▸ based.alone
  rows := restyled.rows ▸ based.rows

theorem extend (based : Based source fields table) (ready : field.Ready)
    (fresh : field.name ∉ table.columns) :
    Based source (fields ++ [field]) (table.extend registry field compiled) where
  columns := by simp [based.columns]
  recipe := by simp [based.recipe]
  ready := by
    intro other among
    rcases List.mem_append.mp among with among | last
    · exact based.ready other among
    · rwa [List.mem_singleton.mp last]
  alone := by
    intro other among
    rw [extend_columns, List.count_append]
    rcases List.mem_append.mp among with among | last
    · have once := based.alone other among
      have apart : other.name ≠ field.name := by
        intro same
        rw [same, List.count_eq_zero.mpr fresh] at once
        cases once
      rw [once, List.count_singleton, if_neg (by simpa using apart.symm)]
    · rw [List.mem_singleton.mp last, List.count_eq_zero.mpr fresh, List.count_singleton_self]
  rows := by
    refine (extend_front ?_).trans based.rows
    rw [based.columns, List.length_append]
    exact Nat.le_add_right ..

theorem drop (based : Based source fields table) {i : Nat} {info : ColumnInfo}
    (here : table.info[i]? = some info) (calculated : info.isCalculated = true) :
    Based source (fields.eraseIdx (i - source.columns.length)) (table.dropColumn i) := by
  -- Columns of the source are not calculated, so the one that goes stands behind them.
  have behind : source.columns.length ≤ i := by
    by_contra front
    have kind : table.recipe[i]? = some (info.name, info.formula) := by
      simp [Table.recipe, here]
    rw [based.recipe, List.getElem?_append_left (by simpa using front)] at kind
    obtain ⟨name, -, same⟩ := List.mem_map.mp (List.mem_of_getElem? kind)
    have plain : info.formula = none := (Prod.mk.inj same).2.symm
    simp [ColumnInfo.isCalculated, plain] at calculated
  have columns : (table.dropColumn i).columns = source.columns ++
      (fields.eraseIdx (i - source.columns.length)).map StoredField.name := by
    rw [dropColumn_columns, based.columns, List.eraseIdx_append_of_length_le behind,
      List.eraseIdx_map]
  refine ⟨columns, ?_, ?_, ?_, ?_⟩
  · rw [dropColumn_recipe, based.recipe, List.eraseIdx_append_of_length_le (by simpa using behind),
      List.length_map, List.eraseIdx_map]
  · exact fun field among => based.ready field (List.mem_of_mem_eraseIdx among)
  · intro field among
    have once := based.alone field (List.mem_of_mem_eraseIdx among)
    have fewer := (table.columns.eraseIdx_sublist i).count_le field.name
    have left : 0 < (table.dropColumn i).columns.count field.name := by
      rw [List.count_pos_iff, columns]
      exact List.mem_append_right _ (List.mem_map_of_mem among)
    rw [dropColumn_columns] at left ⊢
    omega
  · exact (dropColumn_front behind).trans based.rows

/-- Every edit that succeeds leaves the columns of the source and their cells. -/
theorem edit (based : Based source fields table) {e : Edit}
    (done : table.edit registry e = .ok next) : ∃ fields, Based source fields next := by
  cases e with
  | materialize name formula =>
      obtain ⟨field, compiled, ready, -, fresh, -, rfl⟩ := materialize_cases done
      exact ⟨_, based.extend ready fresh⟩
  | remove index =>
      obtain ⟨i, info, here, calculated, rfl⟩ := remove_cases done
      exact ⟨_, based.drop here calculated⟩
  | setType index type => exact ⟨fields, based.restyle (setType_cases done).1⟩
  | setFormat index tag => exact ⟨fields, based.restyle (setFormat_cases done).1⟩

end Based

/-- A table that comes from a source of which no two columns share a name. -/
structure Rooted (source : Source) (fields : List StoredField) (table : Table) : Prop
    extends Based source fields table where
  distinct : table.columns.Nodup

namespace Rooted

variable {source : Source} {fields : List StoredField}

theorem restyle (rooted : Rooted source fields table) (restyled : Restyled table next) :
    Rooted source fields next where
  toBased := rooted.toBased.restyle restyled
  distinct := restyled.columns ▸ rooted.distinct

theorem extend (rooted : Rooted source fields table) (ready : field.Ready)
    (fresh : field.name ∉ table.columns) :
    Rooted source (fields ++ [field]) (table.extend registry field compiled) where
  toBased := rooted.toBased.extend ready fresh
  distinct := by
    rw [extend_columns]
    exact List.nodup_append.mpr ⟨rooted.distinct, List.nodup_singleton _, by
      intro name among other last same
      exact fresh (List.mem_singleton.mp last ▸ same ▸ among)⟩

theorem edit (rooted : Rooted source fields table) {e : Edit}
    (done : table.edit registry e = .ok next) : ∃ fields, Rooted source fields next := by
  obtain ⟨later, based⟩ := rooted.toBased.edit done
  refine ⟨later, based, ?_⟩
  cases e with
  | materialize name formula =>
      obtain ⟨field, compiled, ready, -, fresh, -, rfl⟩ := materialize_cases done
      exact (rooted.extend ready fresh).distinct
  | remove index =>
      obtain ⟨i, info, -, -, rfl⟩ := remove_cases done
      exact rooted.distinct.eraseIdx i
  | setType index type => exact (setType_cases done).1.columns ▸ rooted.distinct
  | setFormat index tag => exact (setFormat_cases done).1.columns ▸ rooted.distinct

end Rooted

def Edit.keepsColumns : Edit → Bool
  | .remove _ => false
  | .materialize _ _ | .setType _ _ | .setFormat _ _ => true

def Edit.changesColumns : Edit → Bool
  | .materialize _ _ | .remove _ => true
  | .setType _ _ | .setFormat _ _ => false

/-- Whether an edit removes no column and changes no type or format of a calculated one. -/
def Edit.sparesCalculated (table : Table) : Edit → Prop
  | .materialize _ _ => True
  | .remove _ => False
  | .setType index _ | .setFormat index _ =>
      ∀ info, table.infoAt index = .ok info → info.isCalculated = false

def before (columns : List String) (column : String) : List String :=
  columns.takeWhile fun other => other != column

/-- The columns that stood there when each column was added, behind an edit. -/
def Edit.origins (table : Table) (origins : String → List String) : Edit → String → List String
  | .materialize name _ => Function.update origins (Text.trim name) table.columns
  | .remove _ | .setType _ _ | .setFormat _ _ => origins

/-- A table comes from another by edits that are allowed. For each of its columns the columns are
kept that stood there when it was added. -/
inductive Traced (registry : Registry) (allowed : Table → Edit → Prop) (start : Table) :
    Table → (String → List String) → Prop where
  | start : Traced registry allowed start start (before start.columns)
  | edit {table next : Table} {origins : String → List String} {e : Edit}
      (earlier : Traced registry allowed start table origins) (fits : allowed table e)
      (done : table.edit registry e = .ok next) :
      Traced registry allowed start next (e.origins table origins)

def Edited (registry : Registry) (allowed : Table → Edit → Prop) (start table : Table) : Prop :=
  ∃ origins, Traced registry allowed start table origins

theorem Traced.rooted {allowed : Table → Edit → Prop} {start : Table}
    {origins : String → List String} {source : Source}
    (traced : Traced registry allowed start table origins)
    (rooted : ∃ fields, Rooted source fields start) : ∃ fields, Rooted source fields table := by
  induction traced with
  | start => exact rooted
  | edit earlier fits done ih =>
      obtain ⟨fields, rooted⟩ := ih
      exact rooted.edit done

end Table

end Gridbook
