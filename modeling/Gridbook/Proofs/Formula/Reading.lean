import Mathlib
import Gridbook.Formula.Evaluation

/-! # What a formula reads

The value of a formula depends on the cells of the columns that it names and on nothing else of the
row. A name goes on standing for the same column when other columns are taken away.
-/

namespace Gridbook

namespace Formula

theorem mem_firstUses {names : List String} {name : String} :
    name ∈ firstUses names ↔ name ∈ names := by
  have step (seen : List String) : name ∈ names.foldl
      (fun seen name => if seen.contains name then seen else seen ++ [name]) seen ↔
        name ∈ seen ∨ name ∈ names := by
    induction names generalizing seen with
    | nil => simp
    | cons first rest ih =>
        rw [List.foldl_cons, ih]
        split <;> simp_all [or_assoc]
        grind
  rw [firstUses, step, List.mem_nil_iff, false_or]

theorem mem_columns {formula : Formula} {name : String} :
    name ∈ formula.columns ↔ .column name ∈ formula.nodes := by
  rw [columns, mem_firstUses, List.mem_filterMap]
  constructor
  · rintro ⟨node, among, named⟩
    cases node <;> cases named
    exact among
  · intro among
    exact ⟨_, among, rfl⟩

theorem mem_functions {formula : Formula} {name : String} :
    name ∈ formula.functions ↔ ∃ arguments, .call name arguments ∈ formula.nodes := by
  rw [functions, mem_firstUses, List.mem_filterMap]
  constructor
  · rintro ⟨node, among, called⟩
    cases node <;> cases called
    exact ⟨_, among⟩
  · rintro ⟨arguments, among⟩
    exact ⟨_, among, rfl⟩

/-- Two scopes with one registry agree on some nodes: each column named there has the same cell. -/
def Agree (scope other : Scope) (nodes : List Formula) : Prop :=
  scope.registry = other.registry ∧
    ∀ name, .column name ∈ nodes → scope.cell? name = other.cell? name

variable {scope other : Scope}

theorem Agree.mono {few many : List Formula} (agree : Agree scope other many) (sub : few ⊆ many) :
    Agree scope other few :=
  ⟨agree.1, fun name among => agree.2 name (sub among)⟩

mutual

theorem eval?_congr (formula : Formula) (agree : Agree scope other formula.nodes) :
    eval? scope formula = eval? other formula := by
  cases formula with
  | literal value => rw [eval?, eval?]
  | column name =>
      rw [eval?, eval?]
      exact agree.2 name (by simp [nodes])
  | compare left op right =>
      have l := eval?_congr left (agree.mono (by simp [nodes]))
      have r := eval?_congr right (agree.mono (by simp [nodes]))
      simp only [eval?, l, r]
  | call function arguments =>
      -- A lazy function takes its arguments one by one, any other takes all their values.
      have all := evalAll?_congr arguments (agree.mono (by simp [nodes]))
      have each := guardeds_congr arguments (agree.mono (by simp [nodes]))
      rw [eval?.eq_def scope, eval?.eq_def other]
      simp only [agree.1, all]
      split
      case h_1 => rfl
      case h_2 =>
        split
        · simp_all
        · simp_all
        · rfl
      case h_3 =>
        split
        · simp_all
        · rfl
      case h_4 => rfl

theorem evalAll?_congr (arguments : List Formula)
    (agree : Agree scope other (nodesOfAll arguments)) :
    evalAll? scope arguments = evalAll? other arguments := by
  cases arguments with
  | nil => rw [evalAll?, evalAll?]
  | cons first rest =>
      have now := eval?_congr first (agree.mono (by simp [nodesOfAll]))
      have later := evalAll?_congr rest (agree.mono (by simp [nodesOfAll]))
      simp only [evalAll?, now, later]

theorem guardeds_congr (arguments : List Formula)
    (agree : Agree scope other (nodesOfAll arguments)) :
    ∀ formula ∈ arguments, guarded scope formula = guarded other formula := by
  cases arguments with
  | nil => simp
  | cons first rest =>
      have now := eval?_congr first (agree.mono (by simp [nodesOfAll]))
      have later := guardeds_congr rest (agree.mono (by simp [nodesOfAll]))
      simp only [List.forall_mem_cons]
      exact ⟨by simp only [guarded, now], later⟩

end

theorem evaluate_congr {formula : Formula} (agree : Agree scope other formula.nodes) :
    formula.evaluate scope = formula.evaluate other := by
  rw [evaluate, evaluate, eval?_congr formula agree]

end Formula

namespace ColumnLookup

/-- The column that a name stands for among some columns. -/
def column? (columns : List String) (name : String) : Option String :=
  ((ofColumns columns).index? name).bind (columns[·]?)

theorem mem_of_column? {columns : List String} {name column : String}
    (stands : column? columns name = some column) : column ∈ columns := by
  obtain ⟨i, -, here⟩ := Option.bind_eq_some_iff.mp stands
  exact List.mem_of_getElem? here

/-- The last column that goes by a key: under its own name or its simplified form. -/
def lastUnder (columns : List String) (key : String) : Option String :=
  columns.reverse.find? fun column => key == simplifiedName column || key == column

theorem entries_snoc (columns : List String) (column : String) :
    (ofColumns (columns ++ [column])).entries =
      (simplifiedName column, columns.length) :: (column, columns.length) ::
        (ofColumns columns).entries := by
  simp [ofColumns, List.zipIdx_append]

theorem lookup_entries (columns : List String) (key : String) :
    ((ofColumns columns).entries.lookup key).bind (columns[·]?) = lastUnder columns key ∧
      ∀ i, (ofColumns columns).entries.lookup key = some i → i < columns.length := by
  induction columns using List.reverseRecOn with
  | nil => simp [ofColumns, lastUnder]
  | append_singleton columns column ih =>
      obtain ⟨same, inside⟩ := ih
      have last : lastUnder (columns ++ [column]) key =
          if key == simplifiedName column || key == column then some column
          else lastUnder columns key := by
        simp only [lastUnder, List.reverse_append, List.reverse_singleton, List.singleton_append,
          List.find?_cons]
        split <;> simp_all
      rw [entries_snoc, last]
      simp only [List.lookup_cons]
      cases simplified : key == simplifiedName column with
      | true => simp
      | false =>
          cases own : key == column with
          | true => simp
          | false =>
              cases found : (ofColumns columns).entries.lookup key with
              | none => simpa [found] using same
              | some i =>
                  have early := inside i found
                  refine ⟨?_, fun j here => ?_⟩
                  · simpa [found, List.getElem?_append_left early] using same
                  · cases here
                    simp
                    omega

theorem index?_lt {columns : List String} {name : String} {i : Nat}
    (found : (ofColumns columns).index? name = some i) : i < columns.length := by
  rw [index?] at found
  cases own : (ofColumns columns).entries.lookup name with
  | some j =>
      rw [own] at found
      cases found
      exact (lookup_entries columns name).2 i own
  | none =>
      rw [own] at found
      exact (lookup_entries columns _).2 i found

theorem column?_eq (columns : List String) (name : String) :
    column? columns name =
      (lastUnder columns name <|> lastUnder columns (simplifiedName name)) := by
  obtain ⟨exact, inside⟩ := lookup_entries columns name
  have simplified := (lookup_entries columns (simplifiedName name)).1
  rw [column?, index?, ← exact, ← simplified]
  cases found : (ofColumns columns).entries.lookup name with
  | none => rfl
  | some i => simp [inside i found]

theorem find?_of_sublist {p : String → Bool} {few many : List String} {a : String}
    (distinct : many.Nodup) (sub : few.Sublist many) (found : many.find? p = some a)
    (kept : a ∈ few) : few.find? p = some a := by
  induction sub with
  | slnil => cases kept
  | cons b sub ih =>
      obtain ⟨fresh, distinct⟩ := List.nodup_cons.mp distinct
      rw [List.find?_cons] at found
      split at found
      · cases found
        exact absurd (sub.subset kept) fresh
      · exact ih distinct found kept
  | cons_cons b sub ih =>
      have passes := List.find?_some found
      rw [List.find?_cons] at found ⊢
      split at found
      case h_1 => exact found
      case h_2 here =>
        rcases List.mem_cons.mp kept with rfl | kept
        · rw [here] at passes
          cases passes
        · exact ih (List.nodup_cons.mp distinct).2 found kept

theorem lastUnder_of_sublist {few many : List String} {key column : String}
    (distinct : many.Nodup) (sub : few.Sublist many) (last : lastUnder many key = some column)
    (kept : column ∈ few) : lastUnder few key = some column :=
  find?_of_sublist (List.nodup_reverse.mpr distinct) sub.reverse last (List.mem_reverse.mpr kept)

theorem lastUnder_eq_none_of_sublist {few many : List String} {key : String}
    (sub : few.Sublist many) (last : lastUnder many key = none) : lastUnder few key = none := by
  simp only [lastUnder, List.find?_eq_none, List.mem_reverse] at last ⊢
  exact fun column among => last column (sub.subset among)

theorem column?_of_sublist {few many : List String} {name column : String}
    (distinct : many.Nodup) (sub : few.Sublist many) (stands : column? many name = some column)
    (kept : column ∈ few) : column? few name = some column := by
  rw [column?_eq] at stands ⊢
  cases own : lastUnder many name with
  | some found =>
      obtain rfl : found = column := by simpa [own] using stands
      simp [lastUnder_of_sublist distinct sub own kept]
  | none =>
      have simplified : lastUnder many (simplifiedName name) = some column := by
        simpa [own] using stands
      simp [lastUnder_eq_none_of_sublist sub own, lastUnder_of_sublist distinct sub simplified kept]

theorem column?_eq_none_of_sublist {few many : List String} {name : String}
    (sub : few.Sublist many) (stands : column? many name = none) : column? few name = none := by
  rw [column?_eq] at stands ⊢
  cases own : lastUnder many name with
  | some found => simp [own] at stands
  | none =>
      have simplified : lastUnder many (simplifiedName name) = none := by simpa [own] using stands
      simp [lastUnder_eq_none_of_sublist sub own, lastUnder_eq_none_of_sublist sub simplified]

end ColumnLookup

def cellUnder (columns : List String) (row : List Cell) (column : String) : Option Cell :=
  row[columns.idxOf column]?

theorem cellUnder_of_getElem? {columns : List String} {i : Nat} {column : String}
    (distinct : columns.Nodup) (here : columns[i]? = some column) (row : List Cell) :
    cellUnder columns row column = row[i]? := by
  obtain ⟨inside, rfl⟩ := List.getElem?_eq_some_iff.mp here
  rw [cellUnder, distinct.idxOf_getElem]

variable {registry : Registry} {columns known : List String} {row old : List Cell}

theorem Scope.cell?_eq (distinct : columns.Nodup) (fits : row.length = columns.length)
    (name : String) : Scope.cell? ⟨registry, .ofColumns columns, row⟩ name =
      (ColumnLookup.column? columns name).bind (cellUnder columns row) := by
  rw [Scope.cell?, ColumnLookup.column?]
  cases (ColumnLookup.ofColumns columns).index? name with
  | none => rfl
  | some i =>
      simp only [Option.bind_some]
      cases here : columns[i]? with
      | none =>
          have outside := List.getElem?_eq_none_iff.mp here
          simpa using (by omega : row.length ≤ i)
      | some column => rw [Option.bind_some, cellUnder_of_getElem? distinct here]

/-- A formula has the same value on a row as on an older one with more columns, if each of its names
that stood for a column then stands for one that is left and has the same cell. -/
theorem Formula.evaluate_of_sublist {formula : Formula} (distinct : known.Nodup)
    (sub : columns.Sublist known) (fits : row.length = columns.length)
    (fitted : old.length = known.length)
    (kept : ∀ name ∈ formula.columns, ∀ column, ColumnLookup.column? known name = some column →
      column ∈ columns ∧ cellUnder known old column = cellUnder columns row column) :
    formula.evaluate ⟨registry, .ofColumns known, old⟩ =
      formula.evaluate ⟨registry, .ofColumns columns, row⟩ := by
  have agree : Agree ⟨registry, .ofColumns known, old⟩ ⟨registry, .ofColumns columns, row⟩
      formula.nodes := by
    refine ⟨rfl, fun name among => ?_⟩
    rw [Scope.cell?_eq distinct fitted, Scope.cell?_eq (distinct.sublist sub) fits]
    cases stands : ColumnLookup.column? known name with
    | none =>
        rw [ColumnLookup.column?_eq_none_of_sublist sub stands]
        rfl
    | some column =>
        obtain ⟨left, same⟩ := kept name (mem_columns.mpr among) column stands
        rw [ColumnLookup.column?_of_sublist distinct sub stands left]
        exact same
  exact evaluate_congr agree

namespace Formula

theorem compile_bare {text content : String} {i j : Nat}
    (filled : (Text.trim (body text)).isEmpty = false)
    (tokens : Token.ofFormula (body text) = .ok [⟨.bare content, i⟩, ⟨.stop, j⟩])
    (noInteger : Numeral.integer? (dropLineEnd content.toList) = none)
    (noNumber : Numeral.read? false (dropLineEnd content.toList) = none) :
    compile text = .ok (some (.column content)) := by
  have bare : ofBare content = .ok (.column content) := by
    simp only [ofBare, noInteger, noNumber]
  have operand : ofTokens [⟨.bare content, i⟩, ⟨.stop, j⟩] = .ok (.column content) := by
    simp [ofTokens, parseArgument, parseOperand, bare, firstToken, bind, Except.bind, pure,
      Except.pure]
  rw [compile, parse, filled, tokens]
  simp [operand]

theorem evaluate_column (scope : Scope) (name : String) : evaluate scope (.column name) =
    ((scope.cell? name).map Cell.normalized).getD .failure := by
  rw [evaluate, eval?]
  cases scope.cell? name <;> rfl

theorem evaluateRows_of_parse {text : String} {formula : Formula}
    (parsed : parse text = .ok formula) (rows : List (List Cell)) :
    evaluateRows registry columns text rows =
      .ok (rows.map fun row => formula.evaluate ⟨registry, .ofColumns columns, row⟩) := by
  rw [evaluateRows, compile, parsed]
  rfl

end Formula

end Gridbook
