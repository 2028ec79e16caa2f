import Gridbook.Proofs.Formula.Callers
import Gridbook.Proofs.Formula.Printing
import Gridbook.Proofs.Formula.Resolution
import Gridbook.Proofs.Number.Spelling

/-! # The cells that names reach

The value of a formula on a row is made from the cells of the columns that its names stand for and
from no others. A further column takes no name that simplifies to something else, so it leaves the
formulas alone that have only such names. Where the simplified names of the columns differ, each of
them is a formula for the cell of its own column, unless it is empty or spells a number.
-/

namespace Gridbook

namespace ColumnLookup

variable {columns : List String} {column name key : String}

theorem GoesBy.simplified (goes : GoesBy key column) :
    simplifiedName column = simplifiedName key := by
  rcases goes with rfl | rfl
  · rfl
  · exact (simplifiedName_simplifiedName column).symm

theorem index?_simplifiedName (distinct : (columns.map simplifiedName).Nodup) {i : Nat}
    (inside : i < columns.length) :
    (ofColumns columns).index? (simplifiedName columns[i]) = some i := by
  have last : Last (GoesBy (simplifiedName columns[i])) columns i := by
    refine ⟨⟨columns[i], List.getElem?_eq_getElem inside, .inr rfl⟩, ?_⟩
    intro j later after there goes
    have same : (columns.map simplifiedName)[i]? = (columns.map simplifiedName)[j]? := by
      rw [List.getElem?_map, List.getElem?_map, there, List.getElem?_eq_getElem inside,
        Option.map_some, Option.map_some, goes.simplified, simplifiedName_simplifiedName]
    have once := (List.getElem?_inj (by rwa [List.length_map]) distinct).mp same
    omega
  rw [index?, ((lookup_entries_iff columns _).1 i).mpr last]
  rfl

end ColumnLookup

namespace Formula

variable {columns : List String}

/-- Two rows have the same cells where some names stand for columns. A row that ends before a column
has no cell there. -/
def SameUnder (columns names : List String) (row other : List Cell) : Prop :=
  ∀ name ∈ names, ∀ i, (ColumnLookup.ofColumns columns).index? name = some i → row[i]? = other[i]?

theorem evaluate_of_sameUnder {registry : Registry} {formula : Formula} {row other : List Cell}
    (same : SameUnder columns formula.columns row other) :
    formula.evaluate ⟨registry, .ofColumns columns, row⟩ =
      formula.evaluate ⟨registry, .ofColumns columns, other⟩ := by
  refine evaluate_congr ⟨rfl, fun name among => ?_⟩
  exact Option.bind_congr (same name (mem_columns.mpr among))

/-- A column whose name simplifies to something else than every name in a formula. -/
def Apart (column : String) (formula : Formula) : Prop :=
  ∀ name ∈ formula.columns, simplifiedName column ≠ simplifiedName name

theorem map_congr_of_forall₂ {α : Type} {f g : List Cell → α} {rows rows' : List (List Cell)}
    (each : List.Forall₂ (fun row row' => f row = g row') rows rows') :
    rows.map f = rows'.map g := by
  rw [← List.forall₂_eq_eq_eq, List.forall₂_map_left_iff, List.forall₂_map_right_iff]
  exact each

theorem evaluateRows_congr {registry : Registry} {others : List String} {text : String}
    {rows rows' : List (List Cell)}
    (each : List.Forall₂ (fun row row' => ∀ formula, parse text = .ok formula →
      formula.evaluate ⟨registry, .ofColumns columns, row⟩ =
        formula.evaluate ⟨registry, .ofColumns others, row'⟩) rows rows') :
    evaluateRows registry columns text rows = evaluateRows registry others text rows' := by
  rw [evaluateRows, evaluateRows]
  cases compiled : compile text with
  | error fault => rfl
  | ok formula? =>
      apply congrArg Except.ok
      apply map_congr_of_forall₂
      apply each.imp
      intro row row' same
      cases formula? with
      | none => rfl
      | some formula => exact same formula (parse_of_compile compiled)

/-- The value of a formula, and of a text, depends on the cells of the columns that its names stand
for and on no other cell of the row. -/
theorem value_of_named_cells (registry : Registry) (columns : List String) :
    (∀ (formula : Formula) (row other : List Cell), SameUnder columns formula.columns row other →
      formula.evaluate ⟨registry, .ofColumns columns, row⟩ =
        formula.evaluate ⟨registry, .ofColumns columns, other⟩) ∧
    ∀ (text : String) (rows others : List (List Cell)),
      List.Forall₂ (fun row other => ∀ formula, parse text = .ok formula →
        SameUnder columns formula.columns row other) rows others →
      evaluateRows registry columns text rows = evaluateRows registry columns text others := by
  constructor
  · intro formula row other same
    exact evaluate_of_sameUnder same
  · intro text rows others each
    refine evaluateRows_congr (each.imp fun row other same formula parsed => ?_)
    exact evaluate_of_sameUnder (same formula parsed)

/-- `IFERROR(UPPER(Unit_Price), Gone)`. -/
def unitPriceOrGone : Formula :=
  .call "IFERROR" [.call "UPPER" [.column "Unit_Price"], .column "Gone"]

theorem parse_unitPriceOrGone :
    parse "IFERROR(UPPER(Unit_Price), Gone)" = .ok unitPriceOrGone := by
  have printed : unitPriceOrGone.print = "IFERROR(UPPER(Unit_Price), Gone)" := by cbv
  have price : WellFormed (.column "Unit_Price") :=
    .column (by decide) (by cbv) (by simp) (by cbv)
  have gone : WellFormed (.column "Gone") := .column (by decide) (by cbv) (by simp) (by cbv)
  have upper : WellFormed (.call "UPPER" [.column "Unit_Price"]) :=
    .call (by decide) (by cbv) (by simp [price])
  have well : WellFormed unitPriceOrGone := .call (by decide) (by cbv) (by simp [upper, gone])
  exact printed ▸ parse_printed well (by decide)

theorem columns_unitPriceOrGone : unitPriceOrGone.columns = ["Unit_Price", "Gone"] := by
  cbv

/-- The note in a row does not matter to a formula that names the price in simplified form and a
column that there is not. -/
theorem note_does_not_matter :
    (∀ formula, parse "IFERROR(UPPER(Unit_Price), Gone)" = .ok formula →
      SameUnder ["Unit Price", "Note"] formula.columns [.text "a", .null] [.text "a", .int 7]) ∧
    evaluateRows .standard ["Unit Price", "Note"] "IFERROR(UPPER(Unit_Price), Gone)"
        [[.text "a", .null]] =
      evaluateRows .standard ["Unit Price", "Note"] "IFERROR(UPPER(Unit_Price), Gone)"
        [[.text "a", .int 7]] := by
  have same : ∀ formula, parse "IFERROR(UPPER(Unit_Price), Gone)" = .ok formula →
      SameUnder ["Unit Price", "Note"] formula.columns [.text "a", .null] [.text "a", .int 7] := by
    intro formula parsed
    obtain rfl := Except.ok.inj (parse_unitPriceOrGone.symm.trans parsed)
    have price : (ColumnLookup.ofColumns ["Unit Price", "Note"]).index? "Unit_Price" = some 0 := by
      decide +kernel
    have gone : (ColumnLookup.ofColumns ["Unit Price", "Note"]).index? "Gone" = none := by
      decide +kernel
    rw [SameUnder, columns_unitPriceOrGone, List.forall_mem_cons, List.forall_mem_singleton]
    constructor
    · intro i found
      obtain rfl := Option.some.inj (price.symm.trans found)
      rfl
    · intro i found
      cases gone.symm.trans found
  exact ⟨same, (value_of_named_cells .standard _).2 _ _ _ (.cons same .nil)⟩

def firstValue (value : Formula → Except Raised Cell) : List Formula → Except Raised Cell
  | [] => .ok .failure
  | first :: rest => do
      let c ← value first
      if c.isError then firstValue value rest else return c

/-- A function of a caller that evaluates its arguments until one of them has a value. -/
def coalesce : Callable := .lazy fun arguments value => firstValue value arguments

/-- A function of a caller that takes no arguments and evaluates a column. -/
def rate : Callable := .lazy fun _ value => value (.column "rate")

def withRates : Library :=
  (Registry.standard.library.register "Coalesce" coalesce).register "Rate" rate

/-- A function that names a column itself is disturbed when that column comes. -/
theorem rate_disturbed :
    let value (columns : List String) (row : List Cell) :=
      evaluateWithin ⟨withRates, .ofColumns columns, row⟩ ⟨2, .single⟩ (.call "RATE" [])
    Apart "rate" (.call "RATE" []) ∧ value ["qty"] [.int 2] = .ok .failure ∧
      value ["qty", "rate"] [.int 2, .int 5] = .ok (.int 5) := by
  refine ⟨?_, by cbv, by cbv⟩
  unfold Apart
  decide +kernel

theorem isWordChar_of_mem_simplifiedName {name : String} {c : Char}
    (among : c ∈ (simplifiedName name).toList) : isWordChar c = true := by
  rw [simplifiedName, String.toList_ofList] at among
  obtain ⟨d, -, rfl⟩ := List.mem_map.mp among
  split
  case isTrue kept => simp [isWordChar, kept]
  case isFalse => rfl

theorem parse_simplifiedName {name : String} (some : simplifiedName name ≠ "")
    (unspelled : ∀ spelling : Numeral.Spelling, (simplifiedName name).toList ≠ spelling.text) :
    parse (simplifiedName name) = .ok (.column (simplifiedName name)) := by
  have nameable : Token.Nameable (simplifiedName name).toList :=
    nameable_of_wordChars (by simpa using some)
      fun c among => .inl (isWordChar_of_mem_simplifiedName among)
  have well := wellFormed_column nameable (Numeral.read?_eq_none_iff.mpr unspelled)
  have parsed := parse_printed well (Nat.zero_le _)
  rwa [print, write, String.ofList_toList] at parsed

/-- Among columns whose simplified names differ, the simplified name of each is a formula for its
cells, with integral doubles as integers, unless it is empty or spells a number. -/
theorem evaluateRows_simplifiedName (registry : Registry) {columns : List String}
    (distinct : (columns.map simplifiedName).Nodup) {row : List Cell}
    (fits : row.length = columns.length) {i : Nat} (inside : i < columns.length)
    (some : simplifiedName columns[i] ≠ "")
    (unspelled : ∀ spelling : Numeral.Spelling,
      (simplifiedName columns[i]).toList ≠ spelling.text) :
    evaluateRows registry columns (simplifiedName columns[i]) [row] = .ok [row[i].normalized] := by
  rw [evaluateRows_of_parse (parse_simplifiedName some unspelled), List.map_singleton,
    evaluate_column, Scope.cell?, ColumnLookup.index?_simplifiedName distinct inside,
    Option.bind_some, List.getElem?_eq_getElem (fits ▸ inside)]
  rfl

/-- Blanks, a slash and a sign of another script in a name stand for underscores in the formula. -/
theorem unit_price_evaluated :
    (["Qty", "Unit Price (€/kg)", "1e5 km"].map simplifiedName).Nodup ∧
      (∀ spelling : Numeral.Spelling,
        (simplifiedName "Unit Price (€/kg)").toList ≠ spelling.text) ∧
      evaluateRows .standard ["Qty", "Unit Price (€/kg)", "1e5 km"] "Unit_Price____kg_"
        [[.int 3, .float (Double.ofInt 5), .null]] = .ok [.int 5] := by
  have distinct : (["Qty", "Unit Price (€/kg)", "1e5 km"].map simplifiedName).Nodup := by
    decide +kernel
  have form : simplifiedName "Unit Price (€/kg)" = "Unit_Price____kg_" := by decide +kernel
  have unspelled : ∀ spelling : Numeral.Spelling,
      (simplifiedName "Unit Price (€/kg)").toList ≠ spelling.text := by
    rw [form]
    exact Numeral.read?_eq_none_iff.mp (by cbv)
  have some : simplifiedName "Unit Price (€/kg)" ≠ "" := by
    rw [form]
    decide
  have value := evaluateRows_simplifiedName .standard distinct
    (rfl : [Cell.int 3, .float (Double.ofInt 5), .null].length = 3) (i := 1) (by decide) some
    unspelled
  refine ⟨distinct, unspelled, ?_⟩
  rw [← form]
  exact value.trans (by decide +kernel)

end Formula

end Gridbook
