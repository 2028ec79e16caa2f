import Gridbook.Assoc
import Gridbook.Formula.Function

/-! # Registries of functions

The names under which formulas call functions. A name may also be bound to no function; it is
then known, but calling it fails.
-/

namespace Gridbook

/-- Names in upper case and what they are bound to. -/
structure Registry where
  bindings : List (String × Option Function)
  deriving Repr, DecidableEq

namespace Registry

/-- The registry with which every other starts. -/
def standard : Registry :=
  ⟨[("SUM", some .sum), ("ADD", some .sum), ("SUBTRACT", some .subtract),
    ("MULTIPLY", some .multiply), ("DIVIDE", some .divide), ("AVERAGE", some .average),
    ("PERCENT", some .percent), ("GROWTH", some .growth), ("MAX", some .max), ("MIN", some .min),
    ("ROUND", some .round), ("ABS", some .abs), ("CONCAT", some .concat), ("UPPER", some .upper),
    ("LOWER", some .lower), ("TRIM", some .trim), ("LEN", some .len), ("IF", some .if),
    ("IFERROR", some .ifError)]⟩

/-- The function that a name, in any case, is bound to. -/
def function? (registry : Registry) (name : String) : Option Function :=
  (registry.bindings.lookup (Text.upper name)).join

/-- Whether a name, in any case, is bound. -/
def knows (registry : Registry) (name : String) : Bool :=
  (registry.bindings.lookup (Text.upper name)).isSome

/-- Binds a name to what another name is bound to now. -/
def withAlias (registry : Registry) (name existing : String) : Registry :=
  ⟨Assoc.set (Text.upper name) (registry.function? existing) registry.bindings⟩

def names (registry : Registry) : List String :=
  registry.bindings.map (·.1)

end Registry

end Gridbook
