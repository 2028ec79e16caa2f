import Gridbook.Proofs.Formula.Reading
import Gridbook.Proofs.Formula.Room

/-! # What functions of callers read

A lazy function is handed its arguments to evaluate, but it may evaluate formulas of its own. One
that goes to no column for them that its arguments do not name leaves it to the formula which cells
its value depends on. The functions of a registry evaluate nothing but their arguments.
-/

namespace Gridbook

namespace Formula

/-- A formula calls no functions but those of a set. -/
def CallsOnly (calls : Set String) (formula : Formula) : Prop :=
  ∀ name ∈ formula.functions, name ∈ calls

/-- A formula names no columns but those among some nodes, and calls no functions but those of a
set. -/
structure Within (calls : Set String) (nodes : List Formula) (formula : Formula) : Prop where
  columns : ∀ name, .column name ∈ formula.nodes → .column name ∈ nodes
  functions : formula.CallsOnly calls

theorem Within.part {calls : Set String} {nodes : List Formula} {formula part : Formula}
    (within : Within calls nodes formula) (sub : part.nodes ⊆ formula.nodes) :
    Within calls nodes part := by
  refine ⟨fun name named => within.columns name (sub named), ?_⟩
  intro name called
  obtain ⟨arguments, here⟩ := mem_functions.mp called
  exact within.functions name (mem_functions.mpr ⟨arguments, sub here⟩)

end Formula

/-- A function that goes to no column that its arguments do not name, and for that calls no
functions but those of a set: a lazy one gives the same with any two ways to evaluate that agree on
its arguments and on all such formulas. -/
def Callable.Modest (calls : Set String) : Callable → Prop
  | .eager _ => True
  | .lazy apply => ∀ (arguments : List Formula) (value other : Formula → Except Raised Cell),
      (∀ argument ∈ arguments, value argument = other argument) →
      (∀ formula, formula.Within calls (Formula.nodesOfAll arguments) →
        value formula = other formula) →
      apply arguments value = apply arguments other

/-- The functions of a set go to no columns but those that their arguments name, and call only each
other for that. -/
def Library.Modest (library : Library) (calls : Set String) : Prop :=
  ∀ name ∈ calls, ∀ callable, library.callable? name = some callable → callable.Modest calls

namespace Library.Modest

variable {calls : Set String}

theorem register {library : Library} (modest : library.Modest calls) {name : String}
    {callable : Callable}
    (new : ∀ called ∈ calls, Text.upper called = Text.upper name → callable.Modest calls) :
    (library.register name callable).Modest calls := by
  intro called among given found
  rw [callable?, Library.register, Assoc.lookup_set] at found
  split at found
  case isTrue same =>
    cases found
    exact new called among (beq_iff_eq.mp same)
  case isFalse => exact modest called among given found

end Library.Modest

namespace Formula

variable {scope other : Library.Scope} {nodes : List Formula} {calls : Set String}

end Formula

end Gridbook
