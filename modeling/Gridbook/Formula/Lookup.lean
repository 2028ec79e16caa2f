/-! # Looking up columns

A formula may name a column as it is or in simplified form, in which every character outside
ASCII letters, digits and the underscore is an underscore.
-/

namespace Gridbook

def simplifiedName (name : String) : String :=
  String.ofList (name.toList.map fun c => if c.isAlphanum || c == '_' then c else '_')

/-- Where the columns of a table are found: each under its own name and its simplified form, the
entries of later columns first. -/
structure ColumnLookup where
  entries : List (String × Nat)
  deriving Repr, DecidableEq

namespace ColumnLookup

def ofColumns (columns : List String) : ColumnLookup :=
  ⟨columns.zipIdx.reverse.flatMap fun (name, i) => [(simplifiedName name, i), (name, i)]⟩

/-- The index of the column that a name stands for: as it is, or else in simplified form. -/
def index? (lookup : ColumnLookup) (name : String) : Option Nat :=
  lookup.entries.lookup name <|> lookup.entries.lookup (simplifiedName name)

end ColumnLookup

end Gridbook
