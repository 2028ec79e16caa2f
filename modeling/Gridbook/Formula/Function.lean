import Gridbook.Cell.Reading

/-! # Functions of formulas

The functions that a formula may call. Numeric functions pass over what is no number or give zero;
none of them fails on a cell's kind. `if` and `ifError` choose among their arguments.
-/

namespace Gridbook

/-- A function of formulas. -/
inductive Function where
  | sum
  | subtract
  | multiply
  | divide
  | average
  | percent
  | growth
  | max
  | min
  | round
  | abs
  | concat
  | upper
  | lower
  | trim
  | len
  /-- The second or third argument, as the first one holds or not. -/
  | if
  /-- The first argument, or the second if that is an error. -/
  | ifError
  deriving Repr, DecidableEq

namespace Function

def name : Function → String
  | .sum => "SUM"
  | .subtract => "SUBTRACT"
  | .multiply => "MULTIPLY"
  | .divide => "DIVIDE"
  | .average => "AVERAGE"
  | .percent => "PERCENT"
  | .growth => "GROWTH"
  | .max => "MAX"
  | .min => "MIN"
  | .round => "ROUND"
  | .abs => "ABS"
  | .concat => "CONCAT"
  | .upper => "UPPER"
  | .lower => "LOWER"
  | .trim => "TRIM"
  | .len => "LEN"
  | .if => "IF"
  | .ifError => "IFERROR"

def takes : Function → Arity
  | .sum | .multiply | .average | .max | .min | .concat => .atLeastOne
  | .subtract | .divide | .percent | .growth | .round | .ifError => .exactly 2
  | .abs | .upper | .lower | .trim | .len => .exactly 1
  | .if => .between 2 3

/-- Whether a function looks at its arguments only as it needs them. -/
def isLazy : Function → Bool
  | .if | .ifError => true
  | _ => false

/-- Stops unless a number of arguments will do. -/
def checkArity (f : Function) (count : Nat) : Except Fault Unit :=
  if f.takes.admits count then .ok () else .error (.arity f.name f.takes)

def numbers (cells : List Cell) : Except Fault (List Double) := do
  return (← cells.mapM Cell.number?).filterMap id

/-- The sum of numbers, from left to right. -/
def total (xs : List Double) : Double :=
  xs.foldl (· + ·) Double.zero

/-- The product of cells, zero as soon as one is no number. -/
def product (acc : Double) : List Cell → Except Fault Double
  | [] => .ok acc
  | c :: rest => do
      match ← c.number? with
      | none => return Double.zero
      | some x => product (acc * x) rest

def largest : Double → List Double → Double
  | x, [] => x
  | x, y :: rest => largest (if y.compare? x == some .gt then y else x) rest

def smallest : Double → List Double → Double
  | x, [] => x
  | x, y :: rest => smallest (if y.compare? x == some .lt then y else x) rest

/-- A function of two numbers that is zero when one of them is missing. -/
def onNumbers (f : Double → Double → Double) (a b : Cell) : Except Fault Cell := do
  match ← a.number?, ← b.number? with
  | some x, some y => return .float (f x y)
  | _, _ => return .float Double.zero

def quotient (f : Double → Double → Double) (a b : Cell) : Except Fault Cell :=
  onNumbers (fun x y => if y.isZero then Double.zero else f x y) a b

/-- A number's shortest decimal rounded to a number of places, ties away from zero. -/
def roundDecimal (x : Double) (places : Int) : Except Decimal.Refusal Decimal := do
  x.shortest.roundTo (← Decimal.unitExponent (-places))

/-- A number rounded to so many places; what stands behind the point of the second number does not
count. -/
def rounded (a b : Cell) : Except Fault Cell := do
  match ← a.number?, ← b.number? with
  | some x, some places =>
      match roundDecimal x (places.truncate?.getD 0) with
      | .ok decimal => return .float decimal.toDouble
      | .error refusal => .error (.decimal refusal)
  | _, _ => return .float Double.zero

/-- The result of a function on evaluated arguments. -/
def apply (f : Function) (cells : List Cell) : Except Fault Cell := do
  f.checkArity cells.length
  match f, cells with
  | .sum, cells =>
      let xs ← numbers cells
      return if xs.isEmpty then .int 0 else .float (total xs)
  | .subtract, [a, b] => onNumbers (· - ·) a b
  | .multiply, cells => return .float (← product Double.one cells)
  | .divide, [a, b] => quotient (· / ·) a b
  | .average, cells =>
      let xs ← numbers cells
      return .float (if xs.isEmpty then Double.zero else total xs / Double.ofInt xs.length)
  | .percent, [a, b] => quotient (fun x y => x / y * Double.hundred) a b
  | .growth, [a, b] => quotient (fun x y => (x - y) * Double.hundred / y) a b
  | .max, cells =>
      match ← numbers cells with
      | [] => return .float Double.zero
      | x :: xs => return .float (largest x xs)
  | .min, cells =>
      match ← numbers cells with
      | [] => return .float Double.zero
      | x :: xs => return .float (smallest x xs)
  | .round, [a, b] => rounded a b
  | .abs, [a] =>
      match ← a.number? with
      | some x => return .float x.abs
      | none => return .float Double.zero
  | .concat, cells => return .text (String.join (← cells.mapM Cell.formulaText))
  | .upper, [a] => return .text (Text.upper (← a.formulaText))
  | .lower, [a] => return .text (Text.lower (← a.formulaText))
  | .trim, [a] => return .text (Text.squeeze (← a.formulaText))
  | .len, [a] => return .int (← a.formulaText).length
  | .if, condition :: yes :: rest =>
      if condition.isError then return condition
      else if condition.holds then return yes
      else return rest.head?.getD (.bool false)
  | .ifError, [value, instead] => return if value.isError then instead else value
  | f, _ => .error (.arity f.name f.takes)

end Function

end Gridbook
