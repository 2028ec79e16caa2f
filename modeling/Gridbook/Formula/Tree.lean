import Gridbook.Cell

/-! # Formula trees -/

namespace Gridbook

/-- A comparison between two operands, by its spelling. -/
inductive Operator where
  /-- `>=` -/
  | atLeast
  /-- `<=` -/
  | atMost
  /-- `==` -/
  | doubleEqual
  /-- `!=` -/
  | bangEqual
  /-- `<>` -/
  | lessGreater
  /-- `>` -/
  | greater
  /-- `<` -/
  | less
  /-- `=` -/
  | equal
  deriving Repr, DecidableEq

namespace Operator

def spelling : Operator → String
  | .atLeast => ">="
  | .atMost => "<="
  | .doubleEqual => "=="
  | .bangEqual => "!="
  | .lessGreater => "<>"
  | .greater => ">"
  | .less => "<"
  | .equal => "="

/-- Whether an operator holds between two values that compare so. -/
def holds (op : Operator) (order : Ordering) : Bool :=
  match op with
  | .atLeast => order != .lt
  | .atMost => order != .gt
  | .doubleEqual | .equal => order == .eq
  | .bangEqual | .lessGreater => order != .eq
  | .greater => order == .gt
  | .less => order == .lt

end Operator

inductive Literal where
  | text (s : String)
  | int (n : Int)
  | float (x : Double)
  deriving DecidableEq

def Literal.cell : Literal → Cell
  | .text s => .text s
  | .int n => .int n
  | .float x => .float x

/-- A formula. -/
inductive Formula where
  | literal (value : Literal)
  | column (name : String)
  /-- A call; function names are in upper case. -/
  | call (function : String) (arguments : List Formula)
  | compare (left : Formula) (op : Operator) (right : Formula)
  deriving Inhabited

namespace Formula

mutual

/-- A formula and all that it is made of, each before its parts. -/
def nodes : Formula → List Formula
  | .call function arguments => .call function arguments :: nodesOfAll arguments
  | .compare left op right => .compare left op right :: (nodes left ++ nodes right)
  | .literal value => [.literal value]
  | .column name => [.column name]

def nodesOfAll : List Formula → List Formula
  | [] => []
  | formula :: rest => nodes formula ++ nodesOfAll rest

end

def calledFunction? : Formula → Option String
  | .call function _ => some function
  | _ => none

def namedColumn? : Formula → Option String
  | .column name => some name
  | _ => none

/-- A list without the repetitions of earlier items. -/
def firstUses (names : List String) : List String :=
  names.foldl (fun seen name => if seen.contains name then seen else seen ++ [name]) []

/-- The functions that a formula calls, in the order of first use. -/
def functions (formula : Formula) : List String :=
  firstUses (formula.nodes.filterMap calledFunction?)

/-- The columns that a formula names, in the order of first use. -/
def columns (formula : Formula) : List String :=
  firstUses (formula.nodes.filterMap namedColumn?)

end Formula

end Gridbook
