import Gridbook.Proofs.Cell.Tame
import Gridbook.Proofs.Formula.Meaning
import Gridbook.Proofs.Formula.Printing
import Gridbook.Proofs.Formula.Reading
import Gridbook.Proofs.Formula.Size

/-! # Formulas that cannot fail

Where nothing is wrong with a formula on every row, each call has as many arguments as its function
takes, no call rounds and all integers are in the range of doubles, evaluation has a value that is
no error. Counting the characters of a text gives a new integer; it is in the range of doubles
because a text grows at most threefold with each call around it.
-/

namespace Gridbook

theorem Arity.eq_of_admits {count n : Nat} (admits : (exactly count).admits n = true) : n = count :=
  beq_iff_eq.mp admits

namespace Function

variable {cells : List Cell}

theorem numbers_ok (tame : ∀ c ∈ cells, c.Tame) : ∃ xs, numbers cells = .ok xs := by
  have read : ∃ found, cells.mapM Cell.number? = .ok found := by
    refine ⟨_, mapM_ok_map (g := fun c => (c.number?.toOption).getD none) ?_⟩
    intro c among
    obtain ⟨x?, here⟩ := (tame c among).number?
    rw [here]
    rfl
  obtain ⟨found, read⟩ := read
  exact ⟨_, by rw [numbers, read]; rfl⟩

theorem product_ok (tame : ∀ c ∈ cells, c.Tame) (acc : Double) :
    ∃ x, product acc cells = .ok x := by
  induction cells generalizing acc with
  | nil => exact ⟨acc, rfl⟩
  | cons first rest ih =>
      obtain ⟨here, later⟩ := List.forall_mem_cons.mp tame
      obtain ⟨x?, number⟩ := here.number?
      rw [product, number]
      cases x? with
      | none => exact ⟨Double.zero, rfl⟩
      | some x => exact ih later (acc * x)

theorem onNumbers_ok {a b : Cell} (tame : a.Tame) (tame' : b.Tame)
    (f : Double → Double → Double) : ∃ x, onNumbers f a b = .ok (.float x) := by
  obtain ⟨x?, first⟩ := tame.number?
  obtain ⟨y?, second⟩ := tame'.number?
  rw [onNumbers, first, second]
  cases x? <;> cases y? <;> exact ⟨_, rfl⟩

theorem texts_ok (tame : ∀ c ∈ cells, c.Tame) : ∃ texts, cells.mapM Cell.formulaText = .ok texts ∧
    (String.join texts).length = (cells.map Cell.width).sum := by
  induction cells with
  | nil => exact ⟨[], rfl, rfl⟩
  | cons first rest ih =>
      obtain ⟨here, later⟩ := List.forall_mem_cons.mp tame
      obtain ⟨s, text, width⟩ := here.formulaText
      obtain ⟨texts, read, size⟩ := ih later
      refine ⟨s :: texts, ?_, ?_⟩
      · rw [List.mapM_cons, text, read]
        rfl
      · rw [String.join_cons, String.length_append, size, List.map_cons, List.sum_cons, width]

theorem single_text (tame : ∀ c ∈ cells, c.Tame) (one : cells.length = 1) :
    ∃ a s, cells = [a] ∧ a.formulaText = .ok s ∧ (cells.map Cell.width).sum = s.length := by
  obtain ⟨a, rfl⟩ := List.length_eq_one_iff.mp one
  obtain ⟨s, text, width⟩ := (tame a (by simp)).formulaText
  exact ⟨a, s, rfl, text, by simpa using width⟩

/-- What a function gives on tame cells: a tame cell that is a number or a truth value, or no more
than three times as wide as the cells together. -/
def Gives (cells : List Cell) (outcome : Except Fault Cell) : Prop :=
  ∃ c, outcome = .ok c ∧ c.Tame ∧ c.width ≤ 3 * (cells.map Cell.width).sum + 4096

theorem Gives.float (x : Double) : Gives cells (.ok (.float x)) :=
  ⟨_, rfl, .float x, (Cell.width_float x).trans (Nat.le_add_left _ _)⟩

theorem Gives.text {s : String} (short : s.length ≤ 3 * (cells.map Cell.width).sum) :
    Gives cells (.ok (.text s)) :=
  ⟨_, rfl, .text s, short.trans (Nat.le_add_right _ _)⟩

theorem Gives.int {n : Int} (small : n.natAbs.log2 < 1023) : Gives cells (.ok (.int n)) :=
  ⟨_, rfl, .int (Double.isSome_ofInt?_of_log2_lt small),
    (Cell.width_int (by omega)).trans (Nat.le_add_left _ _)⟩

theorem apply_gives {f : Function} (eager : f.isLazy = false) (noRounding : f ≠ .round)
    (tame : ∀ c ∈ cells, c.Tame)
    (admits : f.takes.admits cells.length = true)
    (small : (cells.map Cell.width).sum.log2 < 1023) : Gives cells (f.apply cells) := by
  have arity : f.checkArity cells.length = .ok () := if_pos admits
  cases f with
  | round => exact absurd rfl noRounding
  | sum =>
      obtain ⟨xs, read⟩ := numbers_ok tame
      simp only [apply, arity, read, bind, Except.bind]
      cases xs with
      | nil => exact .int (by decide)
      | cons x xs => exact .float _
  | multiply =>
      obtain ⟨x, read⟩ := product_ok tame Double.one
      simp only [apply, arity, read, bind, Except.bind]
      exact .float x
  | average =>
      obtain ⟨xs, read⟩ := numbers_ok tame
      simp only [apply, arity, read, bind, Except.bind]
      exact .float _
  | max | min =>
      obtain ⟨xs, read⟩ := numbers_ok tame
      simp only [apply, arity, read, bind, Except.bind]
      cases xs with
      | nil => exact .float _
      | cons x xs => exact .float _
  | concat =>
      obtain ⟨texts, read, size⟩ := texts_ok tame
      simp only [apply, arity, read, bind, Except.bind]
      exact .text (by omega)
  | subtract | divide | percent | growth =>
      obtain ⟨a, b, rfl⟩ := List.length_eq_two.mp (Arity.eq_of_admits admits)
      simp only [apply, arity, quotient]
      obtain ⟨x, read⟩ := onNumbers_ok (tame a (by simp)) (tame b (by simp)) _
      rw [read]
      exact .float x
  | abs =>
      obtain ⟨a, rfl⟩ := List.length_eq_one_iff.mp (Arity.eq_of_admits admits)
      obtain ⟨x?, number⟩ := (tame a (by simp)).number?
      simp only [apply, arity, number, bind, Except.bind]
      cases x? with
      | none => exact .float _
      | some x => exact .float _
  | upper =>
      obtain ⟨a, s, rfl, text, width⟩ := single_text tame (Arity.eq_of_admits admits)
      simp only [apply, arity, text, bind, Except.bind]
      exact .text (width ▸ Text.length_upper s)
  | lower =>
      obtain ⟨a, s, rfl, text, width⟩ := single_text tame (Arity.eq_of_admits admits)
      have short := Text.length_lower s
      simp only [apply, arity, text, bind, Except.bind]
      exact .text (by omega)
  | trim =>
      obtain ⟨a, s, rfl, text, width⟩ := single_text tame (Arity.eq_of_admits admits)
      have short := Text.length_squeeze s
      simp only [apply, arity, text, bind, Except.bind]
      exact .text (by omega)
  | len =>
      obtain ⟨a, s, rfl, text, width⟩ := single_text tame (Arity.eq_of_admits admits)
      rw [width] at small
      simp only [apply, arity, text, bind, Except.bind]
      exact .int small
  | «if» | ifError => cases eager

end Function

namespace Formula

/-- How wide the value of a formula may be, in terms of a unit for what it reads. -/
def room (unit : Nat) (formula : Formula) : Nat :=
  unit * 3 ^ formula.nesting * formula.size

/-- How wide the values of several formulas may be together. -/
def roomOfAll (unit : Nat) (formulas : List Formula) : Nat :=
  unit * 3 ^ nestingOfAll formulas * sizeOfAll formulas

theorem size_pos (formula : Formula) : 0 < formula.size := by
  cases formula with
  | literal value => cases value <;> simp [size, Literal.size]
  | column | call | compare => simp [size]

variable {unit : Nat}

theorem unit_le_room (unit : Nat) (formula : Formula) : unit ≤ formula.room unit := by
  have powers : 1 ≤ 3 ^ formula.nesting := Nat.one_le_pow _ _ (by decide)
  rw [room, Nat.mul_assoc]
  exact Nat.le_mul_of_pos_right unit (Nat.mul_pos powers formula.size_pos)

theorem room_cons (unit : Nat) (first : Formula) (rest : List Formula) :
    first.room unit + roomOfAll unit rest ≤ roomOfAll unit (first :: rest) := by
  have left : 3 ^ first.nesting ≤ 3 ^ nestingOfAll (first :: rest) :=
    Nat.pow_le_pow_right (by decide) (by simp [nestingOfAll])
  have right : 3 ^ nestingOfAll rest ≤ 3 ^ nestingOfAll (first :: rest) :=
    Nat.pow_le_pow_right (by decide) (by simp [nestingOfAll])
  calc first.room unit + roomOfAll unit rest
      ≤ unit * 3 ^ nestingOfAll (first :: rest) * first.size +
          unit * 3 ^ nestingOfAll (first :: rest) * sizeOfAll rest :=
        Nat.add_le_add (Nat.mul_le_mul_right _ (Nat.mul_le_mul_left unit left))
          (Nat.mul_le_mul_right _ (Nat.mul_le_mul_left unit right))
    _ = roomOfAll unit (first :: rest) := by rw [roomOfAll, sizeOfAll, Nat.mul_add]

theorem room_le_of_mem (unit : Nat) {formula : Formula} {formulas : List Formula}
    (among : formula ∈ formulas) :
    formula.room unit ≤ roomOfAll unit formulas := by
  induction formulas with
  | nil => cases among
  | cons first rest ih =>
      have both := room_cons unit first rest
      rcases List.mem_cons.mp among with rfl | among
      · omega
      · have later := ih among
        omega

theorem room_compare (unit : Nat) (left : Formula) (op : Operator) (right : Formula) :
    left.room unit ≤ (Formula.compare left op right).room unit ∧
      right.room unit ≤ (Formula.compare left op right).room unit := by
  have part {formula : Formula} (inside : formula.nesting ≤ max left.nesting right.nesting)
      (less : formula.size ≤ left.size + right.size + 1) :
      formula.room unit ≤ (Formula.compare left op right).room unit := by
    rw [room, room, nesting, size]
    exact Nat.mul_le_mul (Nat.mul_le_mul_left unit (Nat.pow_le_pow_right (by decide) inside)) less
  exact ⟨part (Nat.le_max_left _ _) (by omega), part (Nat.le_max_right _ _) (by omega)⟩

theorem room_call (unit : Nat) (function : String) (arguments : List Formula) :
    3 * roomOfAll unit arguments + unit ≤ (Formula.call function arguments).room unit := by
  have powers : 1 ≤ 3 ^ (nestingOfAll arguments + 1) := Nat.one_le_pow _ _ (by decide)
  calc 3 * roomOfAll unit arguments + unit
      = unit * 3 ^ (nestingOfAll arguments + 1) * sizeOfAll arguments + unit * 1 := by
        rw [roomOfAll]
        ring
    _ ≤ unit * 3 ^ (nestingOfAll arguments + 1) * sizeOfAll arguments +
          unit * 3 ^ (nestingOfAll arguments + 1) :=
        Nat.add_le_add_left (Nat.mul_le_mul_left unit powers) _
    _ = (Formula.call function arguments).room unit := by
        rw [room, nesting, size]
        ring

def Progresses (scope : Scope) (unit : Nat) (formula : Formula) : Prop :=
  ∃ c, eval? scope formula = some c ∧ c.Tame ∧ c.width ≤ formula.room unit

/-- A node that does not fail by itself: a tame literal, the name of a tame cell, or a call of a
function other than rounding with as many arguments as it takes. -/
def Sound (scope : Scope) (unit : Nat) : Formula → Prop
  | .literal value => value.cell.Tame
  | .column name => ∃ c, scope.cell? name = some c ∧ c.Tame ∧ c.width ≤ unit
  | .call function arguments => ∃ f, scope.registry.function? function = some f ∧ f ≠ .round ∧
      f.takes.admits arguments.length = true
  | .compare _ _ _ => True

variable {scope : Scope}

namespace Progresses

theorem guarded {formula : Formula} (progresses : Progresses scope unit formula) :
    (guarded scope formula).Tame ∧ (Formula.guarded scope formula).width ≤ formula.room unit := by
  obtain ⟨c, value, tame, width⟩ := progresses
  rw [Formula.guarded, value]
  exact ⟨tame, width⟩

theorem literal (wide : 4096 ≤ unit) {value : Literal} (tame : value.cell.Tame) :
    Progresses scope unit (.literal value) := by
  refine ⟨value.cell, by rw [eval?], tame, ?_⟩
  have least := unit_le_room unit (.literal value)
  cases value with
  | text s =>
      rw [room, size, Literal.size, nesting, Literal.cell, Cell.width_text]
      nlinarith
  | int n =>
      have narrow := Cell.width_int (Double.log2_lt_of_ofInt? (tame.inRange n rfl))
      exact narrow.trans (wide.trans least)
  | float x => exact (Cell.width_float x).trans (wide.trans least)

theorem column {name : String} (here : ∃ c, scope.cell? name = some c ∧ c.Tame ∧ c.width ≤ unit) :
    Progresses scope unit (.column name) := by
  obtain ⟨c, found, tame, narrow⟩ := here
  exact ⟨c, by rw [eval?, found], tame, narrow.trans (unit_le_room unit _)⟩

theorem compare (wide : 4096 ≤ unit) {left right : Formula} (op : Operator)
    (first : Progresses scope unit left) (second : Progresses scope unit right) :
    Progresses scope unit (.compare left op right) := by
  obtain ⟨a, valueLeft, tameLeft, -⟩ := first
  obtain ⟨b, valueRight, tameRight, -⟩ := second
  obtain ⟨truth, compared⟩ := tameLeft.compare tameRight op
  refine ⟨.bool truth, ?_, .bool truth, ?_⟩
  · rw [eval?, valueLeft, valueRight]
    simp [compared, Except.toOption]
  · have narrow := Cell.width_bool truth
    have least := unit_le_room unit (.compare left op right)
    omega

theorem evalAll {arguments : List Formula} (each : ∀ a ∈ arguments, Progresses scope unit a) :
    ∃ cells, evalAll? scope arguments = some cells ∧ cells.length = arguments.length ∧
      (∀ c ∈ cells, c.Tame) ∧ (cells.map Cell.width).sum ≤ roomOfAll unit arguments := by
  induction arguments with
  | nil => exact ⟨[], by rw [evalAll?], rfl, by simp, Nat.zero_le _⟩
  | cons first rest ih =>
      obtain ⟨⟨c, value, tame, width⟩, later⟩ := List.forall_mem_cons.mp each
      obtain ⟨cells, values, length, tames, widths⟩ := ih later
      refine ⟨c :: cells, by simp [evalAll?, value, values], by simp [length],
        List.forall_mem_cons.mpr ⟨tame, tames⟩, ?_⟩
      rw [List.map_cons, List.sum_cons]
      exact (Nat.add_le_add width widths).trans (room_cons unit first rest)

variable {function : String} {arguments : List Formula}

theorem room_argument {formula : Formula} (among : formula ∈ arguments) (function : String) :
    formula.room unit ≤ (Formula.call function arguments).room unit := by
  have part := room_le_of_mem unit among
  have whole := room_call unit function arguments
  omega

theorem call_if (wide : 4096 ≤ unit) (found : scope.registry.function? function = some .if)
    (admits : Function.if.takes.admits arguments.length = true)
    (each : ∀ a ∈ arguments, Progresses scope unit a) :
    Progresses scope unit (.call function arguments) := by
  have inside {a : Formula} (among : a ∈ arguments) : (Formula.guarded scope a).Tame ∧
      (Formula.guarded scope a).width ≤ (Formula.call function arguments).room unit :=
    ⟨(each a among).guarded.1, (each a among).guarded.2.trans (room_argument among function)⟩
  match arguments, admits with
  | [condition, yes], _ =>
      have value := (inside (a := condition) (by simp)).1.value
      rw [Progresses, eval?]
      simp only [found, value, Bool.false_eq_true, if_false]
      split
      · exact ⟨_, rfl, inside (by simp)⟩
      · have narrow := Cell.width_bool false
        have least := unit_le_room unit (.call function [condition, yes])
        exact ⟨_, rfl, .bool false, by omega⟩
  | [condition, yes, no], _ =>
      have value := (inside (a := condition) (by simp)).1.value
      rw [Progresses, eval?]
      simp only [found, value, Bool.false_eq_true, if_false]
      split
      · exact ⟨_, rfl, inside (by simp)⟩
      · exact ⟨_, rfl, inside (by simp)⟩

theorem call_ifError (found : scope.registry.function? function = some .ifError)
    (admits : Function.ifError.takes.admits arguments.length = true)
    (each : ∀ a ∈ arguments, Progresses scope unit a) :
    Progresses scope unit (.call function arguments) := by
  obtain ⟨value, instead, rfl⟩ := List.length_eq_two.mp (Arity.eq_of_admits admits)
  obtain ⟨tame, width⟩ := (each value (by simp)).guarded
  rw [Progresses, eval?]
  simp only [found, tame.value, Bool.false_eq_true, if_false]
  exact ⟨_, rfl, tame, width.trans (room_argument (by simp) function)⟩

theorem call_eager (wide : 4096 ≤ unit) {f : Function}
    (found : scope.registry.function? function = some f) (eager : f.isLazy = false)
    (noRounding : f ≠ .round) (admits : f.takes.admits arguments.length = true)
    (small : ((Formula.call function arguments).room unit).log2 < 1023)
    (each : ∀ a ∈ arguments, Progresses scope unit a) :
    Progresses scope unit (.call function arguments) := by
  obtain ⟨cells, values, length, tame, widths⟩ := evalAll each
  have whole := room_call unit function arguments
  have inRange : (cells.map Cell.width).sum.log2 < 1023 :=
    (log2_le_of_le (by omega)).trans_lt small
  obtain ⟨c, applied, tameValue, width⟩ :=
    Function.apply_gives eager noRounding tame (length ▸ admits) inRange
  have noError : cells.find? Cell.isError = none := by
    simpa using fun c among => (tame c among).value
  refine ⟨c, ?_, tameValue, by omega⟩
  rw [eval?_eager found eager, values]
  simp [noError, applied, Except.toOption]

theorem call (wide : 4096 ≤ unit) (sound : Sound scope unit (.call function arguments))
    (small : ((Formula.call function arguments).room unit).log2 < 1023)
    (each : ∀ a ∈ arguments, Progresses scope unit a) :
    Progresses scope unit (.call function arguments) := by
  obtain ⟨f, found, noRounding, admits⟩ := sound
  cases f with
  | «if» => exact call_if wide found admits each
  | ifError => exact call_ifError found admits each
  | _ => exact call_eager wide found rfl noRounding admits small each

end Progresses

mutual

theorem progresses (wide : 4096 ≤ unit) (formula : Formula)
    (sound : ∀ node ∈ formula.nodes, Sound scope unit node)
    (small : (formula.room unit).log2 < 1023) : Progresses scope unit formula := by
  cases formula with
  | literal value => exact .literal wide (sound (.literal value) (by simp [nodes]))
  | column name => exact .column (sound (.column name) (by simp [nodes]))
  | compare left op right =>
      have inLeft : ∀ node ∈ left.nodes, Sound scope unit node := fun node among =>
        sound node (by simp [nodes, among])
      have inRight : ∀ node ∈ right.nodes, Sound scope unit node := fun node among =>
        sound node (by simp [nodes, among])
      have part := room_compare unit left op right
      exact .compare wide op
        (progresses wide left inLeft ((log2_le_of_le part.1).trans_lt small))
        (progresses wide right inRight ((log2_le_of_le part.2).trans_lt small))
  | call function arguments =>
      have whole := room_call unit function arguments
      refine .call wide (sound _ (by simp [nodes])) small
        (all_progress wide arguments (fun node among => sound node ?_)
          ((log2_le_of_le (by omega)).trans_lt small))
      simp [nodes, among]

theorem all_progress (wide : 4096 ≤ unit) (arguments : List Formula)
    (sound : ∀ node ∈ nodesOfAll arguments, Sound scope unit node)
    (small : (roomOfAll unit arguments).log2 < 1023) :
    ∀ a ∈ arguments, Progresses scope unit a := by
  cases arguments with
  | nil => simp
  | cons first rest =>
      have both := room_cons unit first rest
      rw [List.forall_mem_cons]
      exact ⟨progresses wide first (fun node among => sound node (by simp [nodesOfAll, among]))
          ((log2_le_of_le (by omega)).trans_lt small),
        all_progress wide rest (fun node among => sound node (by simp [nodesOfAll, among]))
          ((log2_le_of_le (by omega)).trans_lt small)⟩

end

theorem log2_room_lt {formula : Formula} {a b n : Nat} (small : unit ≤ 2 ^ a)
    (within : formula.nesting ≤ n) (short : formula.size < 2 ^ b) :
    (formula.room unit).log2 < a + 2 * n + b + 1 := by
  have growth : 3 ^ formula.nesting ≤ 2 ^ (2 * n) :=
    calc 3 ^ formula.nesting ≤ 4 ^ formula.nesting := Nat.pow_le_pow_left (by decide) _
      _ = 2 ^ (2 * formula.nesting) := (Nat.pow_mul 2 2 formula.nesting).symm
      _ ≤ 2 ^ (2 * n) := Nat.pow_le_pow_right (by decide) (by omega)
  refine log2_lt_of_lt (Nat.succ_pos _) ?_
  calc formula.room unit ≤ 2 ^ a * 2 ^ (2 * n) * 2 ^ b :=
        Nat.mul_le_mul (Nat.mul_le_mul small growth) short.le
    _ = 2 ^ (a + 2 * n + b) := by rw [← Nat.pow_add, ← Nat.pow_add]
    _ < 2 ^ (a + 2 * n + b + 1) := Nat.pow_lt_pow_right (by decide) (Nat.lt_succ_self _)

/-- A text that a machine can hold, the length of which is a signed number of 64 bits. -/
def Held (s : String) : Prop :=
  s.length < 2 ^ 63

instance (s : String) : Decidable (Held s) :=
  inferInstanceAs (Decidable (s.length < 2 ^ 63))

theorem standard_bound {name : String} (known : Registry.standard.knows name = true) :
    ∃ f, Registry.standard.function? name = some f := by
  have each : ∀ binding ∈ Registry.standard.bindings, binding.2.isSome = true := by decide
  obtain ⟨bound, found⟩ := Option.isSome_iff_exists.mp known
  obtain ⟨before, after, shape, -⟩ := List.lookup_eq_some_iff.mp found
  obtain ⟨f, rfl⟩ := Option.isSome_iff_exists.mp
    (each (Text.upper name, bound) (by simp [shape]))
  exact ⟨f, by rw [Registry.function?, found]; rfl⟩

variable {columns : List String} {row : List Cell} {text : String} {formula : Formula}

/-- Where nothing is wrong on every row, every column is found and every function is known. -/
theorem problem?_of_valid {registry : Registry} (parsed : parse text = .ok formula)
    (valid : problems registry columns text = .ok []) :
    ∀ node ∈ formula.nodes, problem? registry (.ofColumns columns) node = none := by
  rw [problems, parsed] at valid
  exact List.filterMap_eq_nil_iff.mp (Except.ok.inj valid)

theorem cell?_of_index? (registry : Registry) {name : String} (fits : row.length = columns.length)
    (known : ((ColumnLookup.ofColumns columns).index? name).isSome = true) :
    ∃ c ∈ row, Scope.cell? ⟨registry, .ofColumns columns, row⟩ name = some c := by
  obtain ⟨i, found⟩ := Option.isSome_iff_exists.mp known
  have inside : i < row.length := fits ▸ ColumnLookup.index?_lt found
  exact ⟨row[i], List.getElem_mem inside, by simp [Scope.cell?, found, inside]⟩

/-- A formula with which nothing is wrong on every row has a value that is no error on each row
without errors: all its calls have as many arguments as their functions take and none of them
rounds, and the integers in it and in the row are in the range of doubles. -/
theorem evaluates_to_value (parsed : parse text = .ok formula)
    (valid : problems .standard columns text = .ok [])
    (calls : ∀ function arguments, .call function arguments ∈ formula.nodes →
      ∀ f, Registry.standard.function? function = some f →
        f ≠ .round ∧ f.takes.admits arguments.length = true)
    (literals : ∀ n, .literal (.int n) ∈ formula.nodes → (Double.ofInt? n).isSome = true)
    (fits : row.length = columns.length) (values : ∀ c ∈ row, c.isError = false)
    (integers : ∀ n, .int n ∈ row → (Double.ofInt? n).isSome = true)
    (held : Held text) (heldCells : ∀ c ∈ row, ∀ s, c.text? = some s → Held s) :
    ∃ cell, evaluateRows .standard columns text [row] = .ok [cell] ∧ cell.isError = false := by
  have sane := problem?_of_valid parsed valid
  have wide : 4096 ≤ 2 ^ 63 := by norm_num
  have sound : ∀ node ∈ formula.nodes,
      Sound ⟨.standard, .ofColumns columns, row⟩ (2 ^ 63) node := by
    intro node among
    have here := sane node among
    cases node with
    | literal value =>
        cases value with
        | text s => exact .text s
        | int n => exact .int (literals n among)
        | float x => exact .float x
    | column name =>
        have known : ((ColumnLookup.ofColumns columns).index? name).isSome = true := by
          by_contra unknown
          simp [problem?, unknown] at here
        obtain ⟨c, inRow, found⟩ := cell?_of_index? .standard fits known
        have tame : c.Tame := ⟨values c inRow, fun n same => integers n (same ▸ inRow)⟩
        exact ⟨c, found, tame, tame.width_le wide fun s text => (heldCells c inRow s text).le⟩
    | compare left op right => trivial
    | call function arguments =>
        have known : Registry.standard.knows function = true := by
          by_contra unknown
          simp [problem?, unknown] at here
        obtain ⟨f, found⟩ := standard_bound known
        obtain ⟨noRounding, admits⟩ := calls function arguments among f found
        exact ⟨f, found, noRounding, admits⟩
  obtain ⟨short, within⟩ := size_of_parse parsed
  have small : (formula.room (2 ^ 63)).log2 < 1023 :=
    (log2_room_lt (a := 63) (b := 63) (Nat.le_refl _) within (short.trans_lt held)).trans_le
      (by decide)
  obtain ⟨c, value, tame, -⟩ := progresses wide formula sound small
  refine ⟨c.normalized, ?_, ?_⟩
  · rw [evaluateRows, compile, parsed]
    simp [evaluateCompiled, evaluate, value, bind, Except.bind, pure, Except.pure]
  · have same := tame.value
    cases c with
    | float x =>
        rw [Cell.normalized]
        split <;> rfl
    | null | bool | text | int | date | moment | error => exact same

/-- `IF(LEN(CONCAT(Name, Units)) >= 9, UPPER(Name), ABS(Units))`. -/
def longName : Formula :=
  .call "IF" [.compare (.call "LEN" [.call "CONCAT" [.column "Name", .column "Units"]]) .atLeast
    (.literal (.int 9)), .call "UPPER" [.column "Name"], .call "ABS" [.column "Units"]]

/-- Neither a text nor a number that is none keeps the formula from having a value. -/
theorem longName_evaluates :
    parse "IF(LEN(CONCAT(Name, Units)) >= 9, UPPER(Name), ABS(Units))" = .ok longName ∧
    problems .standard ["Name", "Units"]
      "IF(LEN(CONCAT(Name, Units)) >= 9, UPPER(Name), ABS(Units))" = .ok [] ∧
    ∃ cell, evaluateRows .standard ["Name", "Units"]
      "IF(LEN(CONCAT(Name, Units)) >= 9, UPPER(Name), ABS(Units))"
      [[.text "straße", .float .nan]] = .ok [cell] ∧ cell.isError = false := by
  have printed : longName.print = "IF(LEN(CONCAT(Name, Units)) >= 9, UPPER(Name), ABS(Units))" := by
    cbv
  have name : WellFormed (.column "Name") := .column (by decide) (by cbv) (by simp) (by cbv)
  have units : WellFormed (.column "Units") := .column (by decide) (by cbv) (by simp) (by cbv)
  have joined : WellFormed (.call "CONCAT" [.column "Name", .column "Units"]) :=
    .call (by decide) (by cbv) (by simp [name, units])
  have count : WellFormed (.call "LEN" [.call "CONCAT" [.column "Name", .column "Units"]]) :=
    .call (by decide) (by cbv) (by simp [joined])
  have upper : WellFormed (.call "UPPER" [.column "Name"]) :=
    .call (by decide) (by cbv) (by simp [name])
  have abs : WellFormed (.call "ABS" [.column "Units"]) :=
    .call (by decide) (by cbv) (by simp [units])
  have compared := WellFormed.compare .atLeast count (.int (n := 9) (by decide)) rfl rfl
  have well : WellFormed longName :=
    .call (by decide) (by cbv) (by simp [compared, upper, abs])
  have parsed := printed ▸ parse_printed well (by decide)
  have valid : problems .standard ["Name", "Units"]
      "IF(LEN(CONCAT(Name, Units)) >= 9, UPPER(Name), ABS(Units))" = .ok [] := by
    rw [problems, parsed]
    cbv
  have calls : ∀ function arguments, .call function arguments ∈ longName.nodes →
      ∀ f, Registry.standard.function? function = some f →
        f ≠ .round ∧ f.takes.admits arguments.length = true := by
    have bound : Registry.standard.function? "IF" = some .if ∧
        Registry.standard.function? "LEN" = some .len ∧
        Registry.standard.function? "CONCAT" = some .concat ∧
        Registry.standard.function? "UPPER" = some .upper ∧
        Registry.standard.function? "ABS" = some .abs := by
      refine ⟨?_, ?_, ?_, ?_, ?_⟩ <;> cbv
    intro function arguments among f found
    simp only [longName, nodes, nodesOfAll, List.mem_cons, List.mem_append, List.not_mem_nil,
      reduceCtorEq, Formula.call.injEq, false_or, or_false] at among
    rcases among with ⟨rfl, rfl⟩ | (⟨rfl, rfl⟩ | ⟨rfl, rfl⟩) | ⟨rfl, rfl⟩ | ⟨rfl, rfl⟩
    all_goals
      simp only [bound, Option.some.injEq] at found
      subst found
      decide
  refine ⟨parsed, valid, evaluates_to_value parsed valid calls ?_ rfl (by decide) ?_ (by decide) ?_⟩
  · intro n among
    obtain rfl : n = 9 := by simpa [longName, nodes, nodesOfAll] using among
    decide +kernel
  · simp
  · intro c among s text
    simp only [List.mem_cons, List.not_mem_nil, or_false] at among
    rcases among with rfl | rfl <;> cases text <;> decide

end Formula

end Gridbook
