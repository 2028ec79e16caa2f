import Gridbook.Proofs.Formula.Overlong
import Gridbook.Proofs.Table.Saving

/-! # Formulas that fail

A formula that fails gives error cells, whatever fails in it. Evaluation and materializing stop at
nothing in it but an integer that is too long to be read.
-/

namespace Gridbook

namespace Formula

variable {registry : Registry} {columns : List String} {text : String} {rows : List (List Cell)}

/-- The cell that a text gives on a row: the value of its formula, and the error cell where it is no
formula or has no value. -/
def cellOf (registry : Registry) (columns : List String) (text : String) (row : List Cell) : Cell :=
  match parse text with
  | .ok formula =>
      ((formula.eval? ⟨registry, .ofColumns columns, row⟩).map Cell.normalized).getD .failure
  | .error _ => .failure

theorem cellOf_of_ok {formula : Formula} (parsed : parse text = .ok formula) (row : List Cell) :
    cellOf registry columns text row = formula.evaluate ⟨registry, .ofColumns columns, row⟩ := by
  rw [cellOf, parsed, evaluate]
  cases given : formula.eval? ⟨registry, .ofColumns columns, row⟩ <;> simp [given]

theorem cellOf_of_error {fault : Fault} (stopped : parse text = .error fault) (row : List Cell) :
    cellOf registry columns text row = .failure := by
  rw [cellOf, stopped]

theorem evaluateRows_cases (registry : Registry) (columns : List String) (text : String)
    (rows : List (List Cell)) :
    (evaluateRows registry columns text rows = .ok (rows.map (cellOf registry columns text)) ∧
      ¬ ∃ count, Overlong text count) ∨
    ∃ count, Overlong text count ∧
      evaluateRows registry columns text rows = .error (.numeralTooLong count) := by
  have only := @parse_error_iff text
  cases parsed : parse text with
  | ok formula =>
      refine .inl ⟨?_, ?_⟩
      · have cells : cellOf registry columns text =
            fun row => formula.evaluate ⟨registry, .ofColumns columns, row⟩ :=
          funext (cellOf_of_ok parsed)
        rw [cells, evaluateRows, compile, parsed]
        rfl
      · rintro ⟨count, long⟩
        obtain ⟨stopped, -⟩ := only.mpr ⟨count, long, rfl⟩
        cases parsed.symm.trans stopped
  | error fault =>
      by_cases syntactic : ∃ trouble, fault = .formula trouble
      · obtain ⟨trouble, rfl⟩ := syntactic
        refine .inl ⟨?_, ?_⟩
        · have cells : cellOf registry columns text = fun _ => .failure :=
            funext (cellOf_of_error parsed)
          rw [cells, evaluateRows, compile, parsed]
          rfl
        · rintro ⟨count, long⟩
          obtain ⟨stopped, -⟩ := only.mpr ⟨count, long, rfl⟩
          cases parsed.symm.trans stopped
      · obtain ⟨count, long, rfl⟩ := only.mp ⟨parsed, fun trouble same => syntactic ⟨trouble, same⟩⟩
        refine .inr ⟨count, long, ?_⟩
        rw [evaluateRows, compile, parsed]
        rfl

theorem evaluateRows_error_iff {fault : Fault} :
    evaluateRows registry columns text rows = .error fault ↔
      ∃ count, Overlong text count ∧ fault = .numeralTooLong count := by
  obtain ⟨done, short⟩ | ⟨count, long, stopped⟩ := evaluateRows_cases registry columns text rows
  · rw [done]
    constructor
    · rintro ⟨⟩
    · rintro ⟨count, long, -⟩
      exact absurd ⟨count, long⟩ short
  · rw [stopped]
    constructor
    · rintro ⟨⟩
      exact ⟨count, long, rfl⟩
    · rintro ⟨other, long', rfl⟩
      -- a text comes to one such integer only
      have first := (parse_error_iff.mpr ⟨count, long, rfl⟩).1
      have second := (parse_error_iff.mpr ⟨other, long', rfl⟩).1
      cases first.symm.trans second
      rfl

theorem evaluateRows_ok {cells : List Cell}
    (done : evaluateRows registry columns text rows = .ok cells) :
    cells = rows.map (cellOf registry columns text) := by
  obtain ⟨done', -⟩ | ⟨count, -, stopped⟩ := evaluateRows_cases registry columns text rows
  · exact Except.ok.inj (done.symm.trans done')
  · cases done.symm.trans stopped

end Formula

namespace Table

open Formula (cellOf Overlong evaluateRows)

variable {registry : Registry} {table next : Table} {name text : String} {fault : Fault}

/-- What keeps a calculated column from being added: it has no name or no formula, its name is
taken, or its formula comes to an integer that is too long. -/
inductive Refuses (table : Table) (name text : String) : Fault → Prop where
  | incomplete (empty : Text.trim name = "" ∨ Text.trim text = "") :
      Refuses table name text .incompleteField
  | taken (named : Text.trim name ≠ "") (given : Text.trim text ≠ "")
      (known : Text.trim name ∈ table.columns) :
      Refuses table name text (.columnExists (Text.trim name))
  | overlong {count : Nat} (named : Text.trim name ≠ "") (given : Text.trim text ≠ "")
      (fresh : Text.trim name ∉ table.columns) (long : Overlong (Text.trim text) count) :
      Refuses table name text (.numeralTooLong count)

theorem materialize_error_iff :
    table.materialize registry name text = .error fault ↔ table.Refuses name text fault := by
  constructor
  · intro stopped
    unfold materialize at stopped
    simp only at stopped
    split at stopped
    case isTrue empty =>
      cases stopped
      exact .incomplete (.inl empty)
    case isFalse named =>
      split at stopped
      case isTrue empty =>
        cases stopped
        exact .incomplete (.inr empty)
      case isFalse given =>
        split at stopped
        case isTrue known =>
          cases stopped
          exact .taken named given (List.contains_iff_mem.mp known)
        case isFalse unknown =>
          have fresh : Text.trim name ∉ table.columns := by simpa using unknown
          cases evaluated : evaluateRows registry table.columns (Text.trim text) table.rows with
          | ok cells =>
              rw [evaluated] at stopped
              cases stopped
          | error trouble =>
              rw [evaluated] at stopped
              cases stopped
              obtain ⟨count, long, rfl⟩ := Formula.evaluateRows_error_iff.mp evaluated
              exact .overlong named given fresh long
  · intro refuses
    cases refuses with
    | incomplete empty => rcases empty with empty | empty <;> simp [materialize, empty]
    | taken named given known => simp [materialize, named, given, known]
    | @overlong count named given fresh long =>
        have stopped : evaluateRows registry table.columns (Text.trim text) table.rows =
            .error (.numeralTooLong count) :=
          Formula.evaluateRows_error_iff.mpr ⟨count, long, rfl⟩
        simp only [materialize, named, given, fresh, List.contains_iff_mem, if_false, dite_false,
          stopped]
        rfl

theorem materialize_ok (done : table.materialize registry name text = .ok next) :
    next.columns = table.columns ++ [Text.trim name] ∧
      next.rows = table.rows.map fun row =>
        row ++ [cellOf registry table.columns (Text.trim text) row] := by
  unfold materialize at done
  simp only at done
  split at done
  · cases done
  · split at done
    · cases done
    · split at done
      · cases done
      · obtain ⟨cells, evaluated, done⟩ := bind_ok_iff.mp done
        cases done
        rw [Formula.evaluateRows_ok evaluated]
        refine ⟨rfl, ?_⟩
        simp [addColumn, List.zipWith_map_right]

/-- Evaluation has a cell for every row, and a column is added wherever its name and formula are not
empty and its name is not taken, unless the text comes to an integer of more than 4300 digits. What
else is wrong with a formula gives error cells. -/
theorem stops_iff_overlong (registry : Registry) (columns : List String) (rows : List (List Cell))
    (name text : String) (table : Table) :
    (∀ fault, evaluateRows registry columns text rows = .error fault ↔
      ∃ count, Overlong text count ∧ fault = .numeralTooLong count) ∧
    (∀ cells, evaluateRows registry columns text rows = .ok cells →
      cells = rows.map (cellOf registry columns text)) ∧
    (∀ fault, table.materialize registry name text = .error fault ↔
      table.Refuses name text fault) ∧
    ∀ next, table.materialize registry name text = .ok next →
      next.columns = table.columns ++ [Text.trim name] ∧
        next.rows = table.rows.map fun row =>
          row ++ [cellOf registry table.columns (Text.trim text) row] :=
  ⟨fun _ => Formula.evaluateRows_error_iff, fun _ => Formula.evaluateRows_ok,
    fun _ => materialize_error_iff, fun _ => materialize_ok⟩

theorem digits_stop (registry : Registry) {s : List Char} (each : ∀ c ∈ s, c.isDigit = true)
    (long : 4300 < s.length) (named : Text.trim name ≠ "") (fresh : Text.trim name ∉ table.columns)
    (columns : List String) (rows : List (List Cell)) : Text.trim (String.ofList s) ≠ "" ∧
      evaluateRows registry columns (String.ofList s) rows = .error (.numeralTooLong s.length) ∧
      table.materialize registry name (String.ofList s) = .error (.numeralTooLong s.length) := by
  have overlong := Formula.overlong_of_digits each long
  have filled : s ≠ [] := by
    rintro rfl
    cases long
  have solid : Text.Solid s := (Formula.nameable_of_digits filled each).solid
  have same : Text.trim (String.ofList s) = String.ofList s := by
    rw [Text.trim, String.toList_ofList, solid.trimChars_self]
  have given : Text.trim (String.ofList s) ≠ "" := by
    rw [same, Ne, ← String.toList_inj, String.toList_ofList]
    exact filled
  exact ⟨given, Formula.evaluateRows_error_iff.mpr ⟨_, overlong, rfl⟩,
    materialize_error_iff.mpr (.overlong named given fresh (same.symm ▸ overlong))⟩

/-- One digit more than is read, and neither evaluation nor materializing gives an error cell,
though the column has a name that is not taken and a formula. -/
theorem ones_stop :
    evaluateRows .standard ["k"] (String.ofList (List.replicate 4301 '1')) [[.int 1]] =
      .error (.numeralTooLong 4301) ∧
    plainLone.materialize .standard "n" (String.ofList (List.replicate 4301 '1')) =
      .error (.numeralTooLong 4301) ∧
    Text.trim "n" ≠ "" ∧ Text.trim "n" ∉ plainLone.columns ∧
    Text.trim (String.ofList (List.replicate 4301 '1')) ≠ "" := by
  have each : ∀ c ∈ List.replicate 4301 '1', c.isDigit = true := by
    intro c among
    rw [List.eq_of_mem_replicate among]
    rfl
  have long : 4300 < (List.replicate 4301 '1').length := by
    rw [List.length_replicate]
    decide
  have named : Text.trim "n" ≠ "" := by decide
  have fresh : Text.trim "n" ∉ plainLone.columns := by decide
  obtain ⟨given, evaluated, materialized⟩ := digits_stop .standard each long named fresh
    ["k"] [[.int 1]]
  rw [List.length_replicate] at evaluated materialized
  exact ⟨evaluated, materialized, named, fresh, given⟩

end Table

end Gridbook
