import Gridbook.Formula.Evaluation

/-! # Functions of callers

A library holds what formulas may call: the functions of a registry, and any that a caller brings. A
lazy function is given its arguments as they stand and a way to evaluate formulas. It may evaluate
others than its arguments, so that evaluation need not end by itself; it ends where the stack does,
which is one more way to fail.
-/

namespace Gridbook

/-- How a function ends that gives no value. Evaluation takes a failure for the error cell; anything
else that is raised ends it. -/
inductive Raised where
  | failure
  | other (name : String)
  deriving Repr, DecidableEq

namespace Raised

/-- Every fault of an operation on cells is a failure. -/
def ofFault (outcome : Except Fault Cell) : Except Raised Cell :=
  outcome.mapError fun _ => failure

def guard : Except Raised Cell → Except Raised Cell
  | .error .failure => .ok .failure
  | outcome => outcome

end Raised

/-- What a formula may call. -/
inductive Callable where
  | eager (apply : List Cell → Except Raised Cell)
  | lazy (apply : List Formula → (Formula → Except Raised Cell) → Except Raised Cell)

namespace Function

def chooseLazily (value : Formula → Except Raised Cell) : List Formula → Except Raised Cell
  | [condition, yes] => do
      let c ← value condition
      if c.isError then return c else if c.holds then value yes else return .bool false
  | [condition, yes, no] => do
      let c ← value condition
      if c.isError then return c else if c.holds then value yes else value no
  | _ => .error .failure

def rescueLazily (value : Formula → Except Raised Cell) : List Formula → Except Raised Cell
  | [given, instead] => do
      let c ← value given
      if c.isError then value instead else return c
  | _ => .error .failure

def callable : Function → Callable
  | .if => .lazy fun arguments value => chooseLazily value arguments
  | .ifError => .lazy fun arguments value => rescueLazily value arguments
  | f => .eager fun cells => Raised.ofFault (f.apply cells)

end Function

/-- Names in upper case and what they are bound to. -/
structure Library where
  bindings : List (String × Option Callable)

namespace Library

/-- What a name, in any case, is bound to. -/
def callable? (library : Library) (name : String) : Option Callable :=
  (library.bindings.lookup (Text.upper name)).join

def register (library : Library) (name : String) (callable : Callable) : Library :=
  ⟨Assoc.set (Text.upper name) (some callable) library.bindings⟩

/-- What a formula is evaluated on. -/
structure Scope where
  library : Library
  lookup : ColumnLookup
  row : List Cell

def Scope.cell? (scope : Scope) (name : String) : Option Cell :=
  (scope.lookup.index? name).bind fun i => scope.row[i]?

end Library

def Registry.library (registry : Registry) : Library :=
  ⟨registry.bindings.map fun (name, function?) => (name, function?.map Function.callable)⟩

def Scope.opened (scope : Scope) : Library.Scope :=
  ⟨scope.registry.library, scope.lookup, scope.row⟩

/-- What formulas take of the stack, beside one frame each: the most that a formula takes by itself,
and by how much deeper than itself it has its parts evaluated. -/
structure Stack.Frames where
  own : Formula → Nat
  parts : Formula → Nat

def Stack.Frames.single : Stack.Frames := ⟨fun _ => 0, fun _ => 0⟩

/-- What is left of the stack to an evaluation. -/
structure Stack where
  room : Nat
  frames : Stack.Frames

namespace Formula

/-- The value of a formula by those of its parts. -/
def step (scope : Library.Scope) (part : Formula → Except Raised Cell) :
    Formula → Except Raised Cell
  | .literal value => .ok value.cell
  | .column name =>
      match scope.cell? name with
      | some c => .ok c
      | none => .error .failure
  | .compare left op right => do
      let a ← part left
      let b ← part right
      Raised.ofFault (a.compare op b)
  | .call function arguments =>
      match scope.library.callable? function with
      | none => .ok .failure
      | some (.lazy apply) => apply arguments fun formula => Raised.guard (part formula)
      | some (.eager apply) => do
          let cells ← arguments.mapM part
          match cells.find? Cell.isError with
          | some e => return e
          | none => apply cells

/-- The value of a formula with so much room on the stack. -/
def evalWithin (scope : Library.Scope) (frames : Stack.Frames) (room : Nat)
    (formula : Formula) : Except Raised Cell :=
  match room with
  | 0 => .error .failure
  | room + 1 =>
      if room < frames.own formula then .error .failure
      else
        step scope (fun part => evalWithin scope frames (room - frames.parts formula) part) formula
termination_by room
decreasing_by omega

/-- The value of a formula on a row, with an integral double as an integer. -/
def evaluateWithin (scope : Library.Scope) (stack : Stack) (formula : Formula) :
    Except Raised Cell :=
  Raised.guard (Cell.normalized <$> evalWithin scope stack.frames stack.room formula)

def evaluateCompiledWithin (scope : Library.Scope) (stack : Stack) :
    Option Formula → Except Raised Cell
  | some formula => evaluateWithin scope stack formula
  | none => .ok .failure

def evaluateRowsWithin (library : Library) (stack : Stack) (columns : List String) (text : String)
    (rows : List (List Cell)) : Except Fault (Except Raised (List Cell)) := do
  let formula ← compile text
  let lookup := ColumnLookup.ofColumns columns
  return rows.mapM fun row => evaluateCompiledWithin ⟨library, lookup, row⟩ stack formula

end Formula

end Gridbook
