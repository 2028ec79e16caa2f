import Gridbook.Formula.Lookup
import Gridbook.Formula.Parser
import Gridbook.Formula.Registry

/-! # Evaluating formulas

A formula is evaluated on one row of a table. Evaluation has a value for every formula and row:
whatever goes wrong gives the error cell.
-/

namespace Gridbook

/-- Compares two cells: as numbers when both are, otherwise as texts regardless of case. An error
on either side is the result. -/
def Cell.compare (left : Cell) (op : Operator) (right : Cell) : Except Fault Cell := do
  match [left, right].find? Cell.isError with
  | some e => return e
  | none =>
      match ← left.number?, ← right.number? with
      | some x, some y => return .bool ((x.compare? y).any op.holds)
      | _, _ =>
          let a ← comparedText left
          let b ← comparedText right
          return .bool (op.holds (Ord.compare a b))
where
  /-- A cell as comparisons see it when it is no number. -/
  comparedText : Cell → Except Fault String
    | .null => .ok ""
    | c => do return Text.lower (← c.plain)

/-- What a formula is evaluated on. -/
structure Scope where
  registry : Registry
  lookup : ColumnLookup
  row : List Cell

namespace Scope

def cell? (scope : Scope) (name : String) : Option Cell :=
  (scope.lookup.index? name).bind fun i => scope.row[i]?

end Scope

namespace Formula

mutual

/-- The value of a formula, unless it fails. -/
def eval? (scope : Scope) : Formula → Option Cell
  | .literal value => some value.cell
  | .column name => scope.cell? name
  | .compare left op right => do
      let a ← eval? scope left
      let b ← eval? scope right
      (a.compare op b).toOption
  | .call function arguments =>
      match scope.registry.function? function with
      | none => some .failure
      | some .if =>
          match arguments with
          | [condition, yes] =>
              let c := guarded scope condition
              some (if c.isError then c else if c.holds then guarded scope yes else .bool false)
          | [condition, yes, no] =>
              let c := guarded scope condition
              some (if c.isError then c else if c.holds then guarded scope yes
                else guarded scope no)
          | _ => none
      | some .ifError =>
          match arguments with
          | [value, instead] =>
              let v := guarded scope value
              some (if v.isError then guarded scope instead else v)
          | _ => none
      | some f => do
          let cells ← evalAll? scope arguments
          match cells.find? Cell.isError with
          | some e => some e
          | none => (f.apply cells).toOption

def guarded (scope : Scope) (formula : Formula) : Cell :=
  (eval? scope formula).getD .failure

/-- The values of several formulas, unless one fails. -/
def evalAll? (scope : Scope) : List Formula → Option (List Cell)
  | [] => some []
  | formula :: rest => do
      let cell ← eval? scope formula
      let cells ← evalAll? scope rest
      some (cell :: cells)

end

/-- The value of a formula on a row; an integral double is given as an integer. -/
def evaluate (scope : Scope) (formula : Formula) : Cell :=
  match eval? scope formula with
  | some cell => cell.normalized
  | none => .failure

/-- The formula that a text spells, if it is well-formed. Only an integer that is too long to be
read is a fault. -/
def compile (text : String) : Except Fault (Option Formula) :=
  match parse text with
  | .ok formula => .ok (some formula)
  | .error (.formula _) => .ok none
  | .error fault => .error fault

def evaluateCompiled (scope : Scope) (formula : Option Formula) : Cell :=
  match formula with
  | some formula => formula.evaluate scope
  | none => .failure

def evaluateRows (registry : Registry) (columns : List String) (text : String)
    (rows : List (List Cell)) : Except Fault (List Cell) := do
  let formula ← compile text
  let lookup := ColumnLookup.ofColumns columns
  return rows.map fun row => evaluateCompiled ⟨registry, lookup, row⟩ formula

/-- What is wrong with one node on every row. -/
def problem? (registry : Registry) (lookup : ColumnLookup) : Formula → Option String
  | .call function _ =>
      if registry.knows function then none else some ("Unknown function " ++ function)
  | .column name =>
      if (lookup.index? name).isSome then none
      else some ("Unknown column " ++ Text.quoted name)
  | _ => none

/-- What makes a formula fail on every row of a table with these columns. -/
def problems (registry : Registry) (columns : List String) (text : String) :
    Except Fault (List String) :=
  match parse text with
  | .ok formula =>
      .ok (formula.nodes.filterMap (problem? registry (ColumnLookup.ofColumns columns)))
  | .error (.formula fault) => .ok [fault.message]
  | .error fault => .error fault

end Formula

end Gridbook
