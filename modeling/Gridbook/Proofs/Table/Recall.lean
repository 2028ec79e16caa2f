import Mathlib
import Gridbook.Proofs.Formula.Reading
import Gridbook.Proofs.Table.Edits

/-! # What calculated cells were computed from

A calculated cell is not computed again when columns are removed. It stays the value of its formula
on the row that stood there when its column was added, of which some columns may be gone since.
-/

namespace Gridbook

namespace Table

variable {columns few many : List String} {column other : String}

theorem before_sublist (columns : List String) (column : String) :
    (before columns column).Sublist columns :=
  List.takeWhile_sublist _

theorem before_cons (first : String) (rest : List String) (column : String) :
    before (first :: rest) column = if first = column then [] else first :: before rest column := by
  by_cases same : first = column <;> simp [before, same]

theorem before_append (among : column ∈ columns) (more : List String) :
    before (columns ++ more) column = before columns column := by
  induction columns with
  | nil => cases among
  | cons first rest ih =>
      rw [List.cons_append, before_cons, before_cons]
      split
      case isTrue => rfl
      case isFalse different =>
        rw [ih (by simpa [Ne.symm different] using among)]

theorem before_append_fresh (fresh : column ∉ columns) :
    before (columns ++ [column]) column = columns := by
  induction columns with
  | nil => simp [before]
  | cons first rest ih =>
      obtain ⟨different, later⟩ := not_or.mp (List.mem_cons.not.mp fresh)
      rw [List.cons_append, before_cons, if_neg (Ne.symm different), ih later]

theorem before_sublist_before (distinct : many.Nodup) (sub : few.Sublist many)
    (kept : column ∈ few) : (before few column).Sublist (before many column) := by
  induction sub with
  | slnil => cases kept
  | cons first sub ih =>
      obtain ⟨fresh, distinct⟩ := List.nodup_cons.mp distinct
      have different : first ≠ column := fun same => fresh (same ▸ sub.subset kept)
      rw [before_cons, if_neg different]
      exact (ih distinct kept).cons first
  | cons_cons first sub ih =>
      rw [before_cons, before_cons]
      split
      case isTrue => exact List.Sublist.slnil
      case isFalse different =>
        have later := (List.mem_cons.mp kept).resolve_left (Ne.symm different)
        exact (ih (List.nodup_cons.mp distinct).2 later).cons_cons first

theorem length_before_lt (among : other ∈ before columns column) :
    (before columns other).length < (before columns column).length := by
  induction columns with
  | nil => cases among
  | cons first rest ih =>
      rw [before_cons] at among
      split at among
      case isTrue => cases among
      case isFalse different =>
        rw [before_cons, before_cons, if_neg different]
        split
        case isTrue => exact Nat.succ_pos _
        case isFalse apart =>
          have later := (List.mem_cons.mp among).resolve_left (Ne.symm apart)
          exact Nat.succ_lt_succ (ih later)

variable {row : List Cell} {cell : Cell}

theorem cellUnder_append (among : column ∈ columns) (fits : row.length = columns.length)
    (moreColumns : List String) (more : List Cell) :
    cellUnder (columns ++ moreColumns) (row ++ more) column = cellUnder columns row column := by
  have inside := List.idxOf_lt_length_iff.mpr among
  rw [cellUnder, cellUnder, List.idxOf_append_of_mem among,
    List.getElem?_append_left (by omega)]

theorem cellUnder_append_fresh (fresh : column ∉ columns) (fits : row.length = columns.length)
    (cell : Cell) : cellUnder (columns ++ [column]) (row ++ [cell]) column = some cell := by
  rw [cellUnder, List.idxOf_append_of_notMem fresh]
  simp [fits]

theorem cellUnder_of_take (among : column ∈ columns) (more : List String) (row : List Cell) :
    cellUnder (columns ++ more) row column =
      cellUnder columns (row.take columns.length) column := by
  have inside := List.idxOf_lt_length_iff.mpr among
  rw [cellUnder, cellUnder, List.idxOf_append_of_mem among, List.getElem?_take_of_lt inside]

theorem cellUnder_eraseIdx (distinct : columns.Nodup) {i : Nat}
    (kept : column ∈ columns.eraseIdx i) :
    cellUnder (columns.eraseIdx i) (row.eraseIdx i) column = cellUnder columns row column := by
  obtain ⟨j, here⟩ := List.mem_iff_getElem?.mp kept
  rw [cellUnder_of_getElem? (distinct.eraseIdx i) here]
  rw [List.getElem?_eraseIdx] at here ⊢
  split at here
  case isTrue early => rw [if_pos early, cellUnder_of_getElem? distinct here]
  case isFalse late => rw [if_neg late, cellUnder_of_getElem? distinct here]

/-- A calculated column was computed when some columns were known: those of them that are left stand
in front of it, and each of its cells is the value of its formula on a row of cells under the known
columns, which are still there under the columns that are left. -/
structure ComputedFrom (registry : Registry) (table : Table) (known : List String)
    (name formula : String) : Prop where
  distinct : known.Nodup
  left : (before table.columns name).Sublist known
  cells : ∃ compiled, Formula.compile formula = .ok compiled ∧ ∀ row ∈ table.rows,
    ∃ old : List Cell, old.length = known.length ∧
      (∀ other ∈ before table.columns name,
        cellUnder known old other = cellUnder table.columns row other) ∧
      cellUnder table.columns row name =
        some (Formula.evaluateCompiled ⟨registry, .ofColumns known, old⟩ compiled)

/-- Every calculated column was computed from the columns that stood there when it was added. -/
def Recalled (registry : Registry) (table : Table) (origins : String → List String) : Prop :=
  ∀ name formula, (name, some formula) ∈ table.recipe →
    ComputedFrom registry table (origins name) name formula

variable {registry : Registry} {table next : Table} {source : Source} {fields : List StoredField}
  {origins : String → List String}

theorem Rooted.names (rooted : Rooted source fields table) :
    table.columns = table.recipe.map Prod.fst := by
  rw [rooted.columns, rooted.recipe, List.map_append, List.map_map, List.map_map]
  simp [Function.comp_def]

theorem Rooted.name_mem (rooted : Rooted source fields table) {name : String}
    {formula : Option String} (entry : (name, formula) ∈ table.recipe) : name ∈ table.columns :=
  rooted.names ▸ List.mem_map_of_mem entry

namespace Recalled

theorem congr (recalled : Recalled registry table origins) (rooted : Rooted source fields table)
    {others : String → List String} (same : ∀ name ∈ table.columns, others name = origins name) :
    Recalled registry table others := by
  intro name formula entry
  rw [same name (rooted.name_mem entry)]
  exact recalled name formula entry

theorem plain (rooted : Rooted source [] table) (origins : String → List String) :
    Recalled registry table origins := by
  intro name formula entry
  rw [rooted.recipe] at entry
  simp at entry

theorem restyle (recalled : Recalled registry table origins) (restyled : Restyled table next) :
    Recalled registry next origins := by
  intro name formula entry
  rw [restyled.recipe] at entry
  obtain ⟨distinct, left, cells⟩ := recalled name formula entry
  exact ⟨distinct, restyled.columns ▸ left, by rwa [restyled.columns, restyled.rows]⟩

theorem extend (recalled : Recalled registry table origins) (rooted : Rooted source fields table)
    {field : StoredField} {compiled : Option Formula} (fresh : field.name ∉ table.columns)
    (read : Formula.compile field.formula = .ok compiled) :
    Recalled registry (table.extend registry field compiled)
      (Function.update origins field.name table.columns) := by
  intro name formula entry
  rw [extend_recipe, List.mem_append, List.mem_singleton] at entry
  rcases entry with earlier | new
  · -- A column that was there keeps its row of old cells: nothing comes in front of it.
    have among := rooted.name_mem earlier
    have other : name ≠ field.name := fun same => fresh (same ▸ among)
    obtain ⟨distinct, left, compiled, read, cells⟩ := recalled name formula earlier
    rw [Function.update_of_ne other]
    refine ⟨distinct, ?_, compiled, read, ?_⟩
    · rwa [extend_columns, before_append among]
    · intro row behind
      rw [extend_rows] at behind
      obtain ⟨row, present, rfl⟩ := List.mem_map.mp behind
      obtain ⟨old, fits, same, value⟩ := cells row present
      have wide := table.rectangular row present
      rw [extend_columns, before_append among]
      refine ⟨old, fits, ?_, ?_⟩
      · intro column front
        rw [cellUnder_append ((before_sublist _ _).subset front) wide]
        exact same column front
      · rwa [cellUnder_append among wide]
  · -- The new column was computed on the row as it was before.
    obtain ⟨rfl, new⟩ := Prod.mk.inj new
    cases new
    rw [Function.update_self]
    refine ⟨rooted.distinct, ?_, compiled, read, ?_⟩
    · rw [extend_columns, before_append_fresh fresh]
    · intro row behind
      rw [extend_rows] at behind
      obtain ⟨row, present, rfl⟩ := List.mem_map.mp behind
      have wide := table.rectangular row present
      rw [extend_columns, before_append_fresh fresh]
      refine ⟨row, wide, ?_, cellUnder_append_fresh fresh wide _⟩
      intro column front
      rw [cellUnder_append front wide]

theorem drop (recalled : Recalled registry table origins) (rooted : Rooted source fields table)
    (i : Nat) : Recalled registry (table.dropColumn i) origins := by
  intro name formula entry
  rw [dropColumn_recipe] at entry
  have kept : name ∈ table.columns.eraseIdx i := by
    rw [rooted.names, List.eraseIdx_map]
    exact List.mem_map_of_mem entry
  have sub := List.eraseIdx_sublist table.columns i
  have front := before_sublist_before rooted.distinct sub kept
  obtain ⟨distinct, left, compiled, read, cells⟩ :=
    recalled name formula (List.mem_of_mem_eraseIdx entry)
  refine ⟨distinct, front.trans left, compiled, read, ?_⟩
  intro row behind
  obtain ⟨row, present, rfl⟩ := List.mem_map.mp behind
  obtain ⟨old, fits, same, value⟩ := cells row present
  refine ⟨old, fits, ?_, ?_⟩
  · intro other among
    rw [same other (front.subset among), dropColumn_columns,
      cellUnder_eraseIdx rooted.distinct ((before_sublist _ _).subset among)]
  · rwa [dropColumn_columns, cellUnder_eraseIdx rooted.distinct kept]

/-- Every edit that succeeds keeps what was computed before. -/
theorem edit (recalled : Recalled registry table origins) (rooted : Rooted source fields table)
    {e : Edit} (done : table.edit registry e = .ok next) :
    Recalled registry next (e.origins table origins) := by
  cases e with
  | materialize name formula =>
      obtain ⟨field, compiled, -, named, fresh, read, rfl⟩ := materialize_cases done
      rw [Edit.origins, ← named]
      exact recalled.extend rooted fresh read
  | remove index =>
      obtain ⟨i, info, -, -, rfl⟩ := remove_cases done
      exact recalled.drop rooted i
  | setType index type => exact recalled.restyle (setType_cases done).1
  | setFormat index tag => exact recalled.restyle (setFormat_cases done).1

theorem extend_before (recalled : Recalled registry table (before table.columns))
    (rooted : Rooted source fields table) {name formula : String}
    (added : table.materialize registry name formula = .ok next) :
    Recalled registry next (before next.columns) := by
  obtain ⟨field, compiled, ready, -, fresh, read, rfl⟩ := materialize_cases added
  refine (recalled.extend rooted fresh read).congr (rooted.extend ready fresh) ?_
  intro column among
  rw [extend_columns] at among ⊢
  rcases List.mem_append.mp among with earlier | new
  · have other : column ≠ field.name := fun same => fresh (same ▸ earlier)
    rw [Function.update_of_ne other, before_append earlier]
  · obtain rfl := List.mem_singleton.mp new
    rw [Function.update_self, before_append_fresh fresh]

end Recalled

theorem Traced.recalled {allowed : Table → Edit → Prop} {start : Table}
    (traced : Traced registry allowed start table origins)
    (rooted : ∃ fields, Rooted source fields start)
    (recalled : Recalled registry start (before start.columns)) :
    Recalled registry table origins := by
  induction traced with
  | start => exact recalled
  | edit earlier fits done ih =>
      obtain ⟨fields, rooted⟩ := earlier.rooted rooted
      exact ih.edit rooted done

/-- A column reads another: when it was added, a name in its formula stood for that one. -/
def Reads (table : Table) (origins : String → List String) (name column : String) : Prop :=
  ∃ text formula key, (name, some text) ∈ table.recipe ∧
    Formula.compile text = .ok (some formula) ∧ key ∈ formula.columns ∧
    ColumnLookup.column? (origins name) key = some column

/-- A column reads one that was removed since, itself or through columns that it reads. -/
inductive Bereft (table : Table) (origins : String → List String) : String → Prop where
  | removed {name column : String} (reads : table.Reads origins name column)
      (gone : column ∉ before table.columns name) : Bereft table origins name
  | through {name column : String} (reads : table.Reads origins name column)
      (bereft : Bereft table origins column) : Bereft table origins name

/-- Two tables with the same columns and formulas, one of which was computed from the columns as
they stand, have the same cells in rows that come from one row of the source, except under columns
that read a removed one. -/
theorem Recalled.same_cell (recalled : Recalled registry table origins)
    (rooted : Rooted source fields table) (again : Recalled registry next (before next.columns))
    (columns : next.columns = table.columns) (recipe : next.recipe = table.recipe)
    {row other : List Cell} (among : row ∈ table.rows) (present : other ∈ next.rows)
    (same : row.take source.columns.length = other.take source.columns.length)
    {name : String} (here : name ∈ table.columns) (spared : ¬ Bereft table origins name) :
    cellUnder table.columns row name = cellUnder table.columns other name := by
  -- The columns that a formula reads stand in front, so the induction is on how many do.
  induction size : (before table.columns name).length using Nat.strong_induction_on
    generalizing name with
  | _ size ih =>
      by_cases plain : name ∈ source.columns
      · rw [rooted.columns, cellUnder_of_take plain, cellUnder_of_take plain, same]
      · have entry : ∃ formula, (name, some formula) ∈ table.recipe := by
          rw [rooted.columns] at here
          obtain ⟨field, listed, rfl⟩ :=
            List.mem_map.mp ((List.mem_append.mp here).resolve_left plain)
          rw [rooted.recipe]
          exact ⟨_, List.mem_append_right _ (List.mem_map_of_mem listed)⟩
        obtain ⟨text, entry⟩ := entry
        obtain ⟨distinct, left, compiled, read, cells⟩ := recalled name text entry
        obtain ⟨-, -, compiledAgain, readAgain, cellsAgain⟩ := again name text (recipe ▸ entry)
        obtain rfl : compiled = compiledAgain := Except.ok.inj (read.symm.trans readAgain)
        obtain ⟨old, fits, kept, value⟩ := cells row among
        obtain ⟨front, fitsFront, keptFront, valueFront⟩ := cellsAgain other present
        rw [columns] at fitsFront keptFront valueFront
        rw [value, valueFront]
        cases compiled with
        | none => rfl
        | some formula =>
            refine congrArg some (Formula.evaluate_of_sublist distinct left fitsFront fits ?_)
            intro key named column stands
            have reads : table.Reads origins name column :=
              ⟨text, formula, key, entry, read, named, stands⟩
            have inFront : column ∈ before table.columns name := by
              by_contra gone
              exact spared (.removed reads gone)
            refine ⟨inFront, ?_⟩
            rw [kept column inFront, keptFront column inFront]
            exact ih _ (size ▸ length_before_lt inFront) ((before_sublist _ _).subset inFront)
              (fun bereft => spared (.through reads bereft)) rfl

theorem not_bereft_before (name : String) : ¬ Bereft table (before table.columns) name := by
  intro bereft
  induction bereft with
  | removed reads gone =>
      obtain ⟨text, formula, key, -, -, -, stands⟩ := reads
      exact gone (ColumnLookup.mem_of_column? stands)
  | through reads bereft ih => exact ih

theorem Recalled.same_cells (recalled : Recalled registry table origins)
    (rooted : Rooted source fields table) (again : Recalled registry next (before next.columns))
    (columns : next.columns = table.columns) (recipe : next.recipe = table.recipe)
    (rows : next.rows.map (List.take source.columns.length) = source.rows) {i : Nat} {name : String}
    (here : table.columns[i]? = some name) (spared : ¬ Bereft table origins name) :
    next.rows.map (·[i]?) = table.rows.map (·[i]?) := by
  refine map_eq_map_of_keys (rows.trans rooted.rows.symm) fun other present row among same => ?_
  rw [← cellUnder_of_getElem? rooted.distinct here, ← cellUnder_of_getElem? rooted.distinct here]
  exact (recalled.same_cell rooted again columns recipe among present same.symm
    (List.mem_of_getElem? here) spared).symm

/-- Without removals nothing else can come out. -/
theorem Recalled.same_rows (recalled : Recalled registry table (before table.columns))
    (rooted : Rooted source fields table) (again : Recalled registry next (before next.columns))
    (columns : next.columns = table.columns) (recipe : next.recipe = table.recipe)
    (rows : next.rows.map (List.take source.columns.length) = source.rows) :
    next.rows = table.rows := by
  have same := map_eq_map_of_keys (f := id) (g := id) (rows.trans rooted.rows.symm)
    fun other present row among same => ?_
  · rwa [List.map_id, List.map_id] at same
  · refine List.ext_getElem? fun i => ?_
    cases here : table.columns[i]? with
    | some name =>
        rw [id, id, ← cellUnder_of_getElem? rooted.distinct here,
          ← cellUnder_of_getElem? rooted.distinct here]
        exact (recalled.same_cell rooted again columns recipe among present same.symm
          (List.mem_of_getElem? here) (not_bereft_before name)).symm
    | none =>
        have outside := List.getElem?_eq_none_iff.mp here
        have wide := table.rectangular row among
        have wideOther := next.rectangular other present
        rw [columns] at wideOther
        rw [id, id, List.getElem?_eq_none (by omega), List.getElem?_eq_none (by omega)]

end Table

end Gridbook
