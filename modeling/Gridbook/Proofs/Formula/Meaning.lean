import Gridbook.Proofs.Escape
import Gridbook.Proofs.Formula.Room
import Gridbook.Proofs.Number.Value

/-! # What formulas mean

The value of a formula is made from the values of its parts. Evaluation fails in two ways, by giving
no value and by giving the error cell, and a lazy function meets the first at each argument that it
looks at. None of this can be told from the outside: wherever a part fails, be it because the stack
ends there, the whole has the value that it has when that part is the error cell.
-/

namespace Gridbook

namespace Cell

/-- The result of an operation on cells: an error among them or in the operation is the result. -/
def strict (operands : List Cell) (outcome : Except Fault Cell) : Cell :=
  if operands.any isError then failure
  else match outcome with
    | .ok c => c
    | .error _ => failure

/-- The second or third cell, as the first holds or not; an error there is the result. -/
def choose (condition yes no : Cell) : Cell :=
  if condition.isError then failure else if condition.holds then yes else no

/-- A cell, or another one if it is an error. -/
def orInstead (value instead : Cell) : Cell :=
  if value.isError then instead else value

/-- A result is a cell with an integral double as an integer: a double that is an integer gives that
integer, and every other cell itself. -/
def GivenAs (cell result : Cell) : Prop :=
  (∀ (x : Double) (n : Int), cell = .float x → x.rational? = some (n : ℚ) → result = .int n) ∧
    ((∀ (x : Double) (n : Int), cell = .float x → x.rational? ≠ some (n : ℚ)) → result = cell)

end Cell

namespace Formula

mutual

/-- The value of a formula by its form. There is one error, which stands for every failure. -/
def meaning (scope : Scope) : Formula → Cell
  | .literal value => value.cell
  | .column name => (scope.cell? name).getD .failure
  | .compare left op right =>
      let a := meaning scope left
      let b := meaning scope right
      Cell.strict [a, b] (a.compare op b)
  | .call function arguments =>
      match scope.registry.function? function with
      | none => .failure
      | some .if =>
          match arguments with
          | [condition, yes] =>
              Cell.choose (meaning scope condition) (meaning scope yes) (.bool false)
          | [condition, yes, no] =>
              Cell.choose (meaning scope condition) (meaning scope yes) (meaning scope no)
          | _ => .failure
      | some .ifError =>
          match arguments with
          | [value, instead] => Cell.orInstead (meaning scope value) (meaning scope instead)
          | _ => .failure
      | some f => Cell.strict (meanings scope arguments) (f.apply (meanings scope arguments))

def meanings (scope : Scope) : List Formula → List Cell
  | [] => []
  | formula :: rest => meaning scope formula :: meanings scope rest

end

/-- The value of a formula by those of its parts. -/
def meaningStep (scope : Scope) (part : Formula → Cell) : Formula → Cell
  | .literal value => value.cell
  | .column name => (scope.cell? name).getD .failure
  | .compare left op right =>
      let a := part left
      let b := part right
      Cell.strict [a, b] (a.compare op b)
  | .call function arguments =>
      match scope.registry.function? function with
      | none => .failure
      | some .if =>
          match arguments with
          | [condition, yes] => Cell.choose (part condition) (part yes) (.bool false)
          | [condition, yes, no] => Cell.choose (part condition) (part yes) (part no)
          | _ => .failure
      | some .ifError =>
          match arguments with
          | [value, instead] => Cell.orInstead (part value) (part instead)
          | _ => .failure
      | some f => Cell.strict (arguments.map part) (f.apply (arguments.map part))

/-- The value of a formula by its form on a stack with so much room. What there is no room for is
one more failure. -/
def meaningWithin (scope : Scope) (frames : Stack.Frames) (room : Nat) (formula : Formula) : Cell :=
  match room with
  | 0 => .failure
  | room + 1 =>
      let deeper := room - frames.parts formula
      if room < frames.own formula then .failure
      else meaningStep scope (fun part => meaningWithin scope frames deeper part) formula
termination_by room
decreasing_by omega

end Formula

/-- An operation whose result, if it has one, is no error. -/
def GivesValue (outcome : Except Fault Cell) : Prop := ∀ c, outcome = .ok c → c.isError = false

namespace GivesValue

theorem pure {c : Cell} (value : c.isError = false) : GivesValue (Pure.pure c) := by
  intro other same
  cases same
  exact value

theorem error (fault : Fault) : GivesValue (.error fault) := by
  intro c same
  cases same

theorem bind {α : Type} {x : Except Fault α} {f : α → Except Fault Cell}
    (each : ∀ a, GivesValue (f a)) : GivesValue (x >>= f) := by
  intro c given
  obtain ⟨a, -, given⟩ := bind_ok_iff.mp given
  exact each a c given

theorem onNumbers (f : Double → Double → Double) (a b : Cell) :
    GivesValue (Function.onNumbers f a b) := by
  apply bind
  intro x
  apply bind
  intro y
  split <;> exact pure rfl

theorem rounded (a b : Cell) : GivesValue (Function.rounded a b) := by
  apply bind
  intro x
  apply bind
  intro places
  split
  · split
    · exact pure rfl
    · exact error _
  · exact pure rfl

theorem compare {left right : Cell} (op : Operator)
    (values : [left, right].find? Cell.isError = none) : GivesValue (left.compare op right) := by
  simp only [Cell.compare, values]
  apply bind
  intro x
  apply bind
  intro y
  split
  · exact pure rfl
  · apply bind
    intro a
    apply bind
    intro b
    exact pure rfl

/-- A function makes no error of values, unless it chooses among its arguments. -/
theorem apply {f : Function} (eager : f.isLazy = false) (cells : List Cell) :
    GivesValue (f.apply cells) := by
  apply bind
  intro admitted
  split
  case h_1 =>
    apply bind
    intro xs
    apply pure
    split <;> rfl
  case h_2 => exact onNumbers _ _ _
  case h_4 | h_6 | h_7 => exact onNumbers _ _ _
  case h_3 | h_5 | h_12 | h_13 | h_14 | h_15 | h_16 =>
    apply bind
    intro given
    exact pure rfl
  case h_8 | h_9 | h_11 =>
    apply bind
    intro given
    split <;> exact pure rfl
  case h_10 => exact rounded _ _
  case h_17 | h_18 => cases eager
  case h_19 => exact error _

end GivesValue

namespace Cell

def FailsPlainly (c : Cell) : Prop := c.isError = true → c = failure

theorem givenAs_normalized (c : Cell) : c.GivenAs c.normalized := by
  constructor
  · rintro x n rfl whole
    rw [normalized, Double.toInt?_eq_some_iff.mpr whole]
  · intro other
    cases c with
    | float x =>
        rw [normalized]
        split
        case h_1 n whole => exact absurd (Double.toInt?_eq_some_iff.mp whole) (other x n rfl)
        case h_2 => rfl
    | _ => rfl

theorem FailsPlainly.of_value {c : Cell} (value : c.isError = false) : c.FailsPlainly := by
  intro failed
  rw [value] at failed
  cases failed

theorem FailsPlainly.failure : Cell.failure.FailsPlainly := fun _ => rfl

theorem strict_of_failure {operands : List Cell} (among : failure ∈ operands)
    (outcome : Except Fault Cell) : strict operands outcome = failure :=
  if_pos (List.any_eq_true.mpr ⟨failure, among, rfl⟩)

theorem strict_of_values {operands : List Cell} (values : operands.find? isError = none)
    (outcome : Except Fault Cell) : strict operands outcome = outcome.toOption.getD failure := by
  have none : operands.any isError = false := by simpa using values
  simp only [strict, none]
  cases outcome <;> rfl

theorem strict_of_error {operands : List Cell} {e : Cell}
    (plain : ∀ c ∈ operands, c.FailsPlainly) (found : operands.find? isError = some e)
    (outcome : Except Fault Cell) : strict operands outcome = e := by
  have among := List.mem_of_find?_eq_some found
  obtain rfl := plain e among (List.find?_some found)
  exact strict_of_failure among outcome

theorem FailsPlainly.strict {operands : List Cell} {outcome : Except Fault Cell}
    (values : operands.find? isError = none → GivesValue outcome) :
    (Cell.strict operands outcome).FailsPlainly := by
  unfold Cell.strict
  split
  case isTrue => exact FailsPlainly.failure
  case isFalse none =>
    cases outcome with
    | error fault => exact FailsPlainly.failure
    | ok c => exact of_value (values (by simpa using none) c rfl)

theorem FailsPlainly.choose (condition : Cell) {yes no : Cell} (plain : yes.FailsPlainly)
    (plainNo : no.FailsPlainly) : (Cell.choose condition yes no).FailsPlainly := by
  unfold Cell.choose
  split
  · exact FailsPlainly.failure
  · split
    · exact plain
    · exact plainNo

theorem FailsPlainly.orInstead {value instead : Cell} (plain : value.FailsPlainly)
    (plainInstead : instead.FailsPlainly) : (Cell.orInstead value instead).FailsPlainly := by
  unfold Cell.orInstead
  split
  · exact plainInstead
  · exact plain

end Cell

namespace Formula

variable {scope : Scope} {frames : Stack.Frames}

/-- An outcome and the value that it stands for: a failure is the error cell, which is the only
error that there is. -/
inductive Means : Except Raised Cell → Cell → Prop where
  | value {c : Cell} (plain : c.FailsPlainly) : Means (.ok c) c
  | failure : Means (.error .failure) .failure

namespace Means

theorem plain {outcome : Except Raised Cell} {c : Cell} (means : Means outcome c) :
    c.FailsPlainly := by
  cases means with
  | value plain => exact plain
  | failure => exact .failure

theorem guard {outcome : Except Raised Cell} {c : Cell} (means : Means outcome c) :
    Raised.guard outcome = .ok c := by
  cases means <;> rfl

theorem ofFault {outcome : Except Fault Cell} (gives : GivesValue outcome) :
    Means (Raised.ofFault outcome) (outcome.toOption.getD .failure) := by
  cases outcome with
  | ok c => exact .value (.of_value (gives c rfl))
  | error fault => exact .failure

theorem literal (value : Literal) : Means (.ok value.cell) value.cell := by
  apply Means.value
  apply Cell.FailsPlainly.of_value
  cases value <;> rfl

theorem column (plain : ∀ c ∈ scope.row, c.FailsPlainly) (part : Formula → Except Raised Cell)
    (name : String) :
    Means (step scope.opened part (.column name)) ((scope.cell? name).getD .failure) := by
  have cell : scope.opened.cell? name = scope.cell? name := rfl
  rw [step, cell]
  cases found : scope.cell? name with
  | none => exact .failure
  | some c =>
      obtain ⟨i, -, here⟩ := Option.bind_eq_some_iff.mp found
      exact .value (plain c (List.mem_of_getElem? here))

theorem compare {left right : Except Raised Cell} {a b : Cell} (op : Operator)
    (meansLeft : Means left a) (meansRight : Means right b) :
    Means (do Raised.ofFault ((← left).compare op (← right)))
      (Cell.strict [a, b] (a.compare op b)) := by
  cases meansLeft with
  | failure =>
      rw [Cell.strict_of_failure (by simp)]
      exact .failure
  | value plainLeft =>
      cases meansRight with
      | failure =>
          rw [Cell.strict_of_failure (by simp)]
          exact .failure
      | value plainRight =>
          change Means (Raised.ofFault (a.compare op b)) _
          cases found : [a, b].find? Cell.isError with
          | none =>
              rw [Cell.strict_of_values found]
              exact .ofFault (.compare op found)
          | some e =>
              have plain : ∀ c ∈ [a, b], c.FailsPlainly := by simp [plainLeft, plainRight]
              rw [Cell.strict_of_error plain found]
              have same : a.compare op b = .ok e := by simp only [Cell.compare, found]; rfl
              rw [same]
              exact .value (plain e (List.mem_of_find?_eq_some found))

variable {part : Formula → Except Raised Cell} {meanings : Formula → Cell}
  {function : String} {arguments : List Formula}

theorem mapM (each : ∀ a ∈ arguments, Means (part a) (meanings a)) :
    arguments.mapM part = .ok (arguments.map meanings) ∨
      arguments.mapM part = .error .failure ∧ .failure ∈ arguments.map meanings := by
  induction arguments with
  | nil => exact .inl rfl
  | cons first rest ih =>
      rw [List.forall_mem_cons] at each
      rw [List.mapM_cons, List.map_cons]
      have later := ih each.2
      have now := each.1
      generalize part first = outcome, meanings first = c at now
      cases now with
      | failure => exact .inr ⟨rfl, List.mem_cons_self⟩
      | value =>
          obtain later | ⟨later, among⟩ := later
          · rw [later]
            exact .inl rfl
          · rw [later]
            exact .inr ⟨rfl, List.mem_cons_of_mem _ among⟩

theorem choose {condition yes : Cell} {no : Except Raised Cell} {otherwise : Cell}
    (plain : condition.FailsPlainly) (meansYes : Means (.ok yes) yes)
    (meansNo : Means no otherwise) :
    Means (if condition.isError then .ok condition else if condition.holds then .ok yes else no)
      (Cell.choose condition yes otherwise) := by
  unfold Cell.choose
  split
  case isTrue failed =>
    rw [plain failed]
    exact .value .failure
  case isFalse =>
    split
    · exact meansYes
    · exact meansNo

theorem guarded {outcome : Except Raised Cell} {c : Cell} (means : Means outcome c) :
    Raised.guard outcome = .ok c ∧ Means (.ok c) c :=
  ⟨means.guard, .value means.plain⟩

theorem call_if (found : scope.registry.function? function = some .if)
    (each : ∀ a ∈ arguments, Means (part a) (meanings a)) :
    Means (step scope.opened part (.call function arguments))
      (meaningStep scope meanings (.call function arguments)) := by
  rw [step_lazy found rfl]
  match arguments, each with
  | [], _ => simpa [Function.chooseLazily, meaningStep, found] using .failure
  | [_], _ => simpa [Function.chooseLazily, meaningStep, found] using .failure
  | [condition, yes], each =>
      simp only [List.forall_mem_cons] at each
      obtain ⟨ofCondition, meansCondition⟩ := each.1.guarded
      obtain ⟨ofYes, meansYes⟩ := each.2.1.guarded
      simp only [Function.chooseLazily, ofCondition, ofYes, meaningStep, found]
      exact .choose meansCondition.plain meansYes (.value (.of_value rfl))
  | [condition, yes, no], each =>
      simp only [List.forall_mem_cons] at each
      obtain ⟨ofCondition, meansCondition⟩ := each.1.guarded
      obtain ⟨ofYes, meansYes⟩ := each.2.1.guarded
      obtain ⟨ofNo, meansNo⟩ := each.2.2.1.guarded
      simp only [Function.chooseLazily, ofCondition, ofYes, ofNo, meaningStep, found]
      exact .choose meansCondition.plain meansYes meansNo
  | _ :: _ :: _ :: _ :: _, _ => simpa [Function.chooseLazily, meaningStep, found] using .failure

theorem call_ifError (found : scope.registry.function? function = some .ifError)
    (each : ∀ a ∈ arguments, Means (part a) (meanings a)) :
    Means (step scope.opened part (.call function arguments))
      (meaningStep scope meanings (.call function arguments)) := by
  rw [step_lazy found rfl]
  match arguments, each with
  | [], _ => simpa [Function.rescueLazily, meaningStep, found] using .failure
  | [_], _ => simpa [Function.rescueLazily, meaningStep, found] using .failure
  | [given, instead], each =>
      simp only [List.forall_mem_cons] at each
      obtain ⟨ofGiven, meansGiven⟩ := each.1.guarded
      obtain ⟨ofInstead, meansInstead⟩ := each.2.1.guarded
      simp only [Function.rescueLazily, ofGiven, ofInstead, meaningStep, found, Cell.orInstead]
      change Means
        (if (meanings given).isError then .ok (meanings instead) else .ok (meanings given)) _
      split
      · exact meansInstead
      · exact meansGiven
  | _ :: _ :: _ :: _, _ => simpa [Function.rescueLazily, meaningStep, found] using .failure

theorem meaningStep_eager {f : Function} (found : scope.registry.function? function = some f)
    (eager : f.isLazy = false) : meaningStep scope meanings (.call function arguments) =
      Cell.strict (arguments.map meanings) (f.apply (arguments.map meanings)) := by
  rw [meaningStep.eq_def]
  simp only [found]
  cases f <;> first | rfl | cases eager

theorem plain_map (each : ∀ a ∈ arguments, Means (part a) (meanings a)) :
    ∀ c ∈ arguments.map meanings, c.FailsPlainly := by
  intro c among
  obtain ⟨a, inside, rfl⟩ := List.mem_map.mp among
  exact (each a inside).plain

theorem call_eager {f : Function} (found : scope.registry.function? function = some f)
    (eager : f.isLazy = false) (each : ∀ a ∈ arguments, Means (part a) (meanings a)) :
    Means (step scope.opened part (.call function arguments))
      (meaningStep scope meanings (.call function arguments)) := by
  rw [step, Scope.opened, Registry.callable?_library, found, Option.map_some,
    Function.callable_eager eager, meaningStep_eager found eager]
  obtain all | ⟨all, among⟩ := mapM each
  · simp only [all, bind, Except.bind]
    cases error : (arguments.map meanings).find? Cell.isError with
    | none =>
        rw [Cell.strict_of_values error]
        exact .ofFault (.apply eager _)
    | some e =>
        rw [Cell.strict_of_error (plain_map each) error]
        exact .value (plain_map each e (List.mem_of_find?_eq_some error))
  · simp only [all]
    rw [Cell.strict_of_failure among]
    exact .failure

theorem call (each : ∀ a ∈ arguments, Means (part a) (meanings a)) :
    Means (step scope.opened part (.call function arguments))
      (meaningStep scope meanings (.call function arguments)) := by
  cases found : scope.registry.function? function with
  | none =>
      rw [step, Scope.opened, Registry.callable?_library, found, meaningStep.eq_def]
      simp only [found]
      exact .value .failure
  | some f =>
      cases f with
      | «if» => exact call_if found each
      | ifError => exact call_ifError found each
      | _ => exact call_eager found rfl each

/-- One step of evaluation gives what the form means, if evaluation of parts gives what they mean.
-/
theorem of_parts (plain : ∀ c ∈ scope.row, c.FailsPlainly)
    (parts : ∀ formula, Means (part formula) (meanings formula)) (formula : Formula) :
    Means (step scope.opened part formula) (meaningStep scope meanings formula) := by
  cases formula with
  | literal value => exact .literal value
  | column name => exact .column plain part name
  | compare left op right => exact .compare op (parts left) (parts right)
  | call function arguments => exact .call fun a _ => parts a

end Means

theorem meaningWithin_succ (scope : Scope) (frames : Stack.Frames) (room : Nat)
    (formula : Formula) : meaningWithin scope frames (room + 1) formula =
      let deeper := room - frames.parts formula
      if room < frames.own formula then .failure
      else meaningStep scope (meaningWithin scope frames deeper) formula := by
  rw [meaningWithin]

/-- On every stack a formula evaluates to what it means there. -/
theorem means_of_plain (plain : ∀ c ∈ scope.row, c.FailsPlainly) (frames : Stack.Frames)
    (room : Nat) (formula : Formula) :
    Means (evalWithin scope.opened frames room formula)
      (meaningWithin scope frames room formula) := by
  induction room using Nat.strong_induction_on generalizing formula with
  | _ room ih =>
      cases room with
      | zero =>
          rw [evalWithin, meaningWithin]
          exact .failure
      | succ room =>
          rw [evalWithin_succ, meaningWithin_succ]
          split
          · exact .failure
          · exact .of_parts plain (fun part => ih _ (by omega) part) formula

theorem guarded_failsPlainly (plain : ∀ c ∈ scope.row, c.FailsPlainly) (formula : Formula) :
    (guarded scope formula).FailsPlainly := by
  have means := means_of_plain plain .single (formula.need .single) formula
  rw [evalWithin_eq formula (Nat.le_refl _)] at means
  have same := means.guard
  rw [guard_orFailure, Except.ok.injEq] at same
  exact same ▸ means.plain

theorem meaningStep_call {part : Formula → Cell} {arguments : List Formula} (function : String)
    (each : arguments.map part = meanings scope arguments) :
    meaningStep scope part (.call function arguments) =
      meaning scope (.call function arguments) := by
  rw [meaningStep.eq_def, meaning.eq_def]
  simp only [each]
  split
  case h_1 => rfl
  case h_2 =>
    split <;> simp_all [meanings]
  case h_3 =>
    split <;> simp_all [meanings]
  case h_4 => rfl

mutual

theorem meaningWithin_eq (formula : Formula) {room : Nat} (fits : formula.need frames ≤ room) :
    meaningWithin scope frames room formula = meaning scope formula := by
  obtain ⟨room, rfl, enough⟩ := room_of_need fits
  rw [meaningWithin_succ, if_neg (Nat.not_lt.mpr enough)]
  cases formula with
  | literal value => rw [meaningStep, meaning]
  | column name => rw [meaningStep, meaning]
  | compare left op right =>
      rw [need] at fits
      have fitsLeft : left.need frames ≤ room - frames.parts (.compare left op right) := by omega
      have fitsRight : right.need frames ≤ room - frames.parts (.compare left op right) := by omega
      have l := meaningWithin_eq left fitsLeft
      have r := meaningWithin_eq right fitsRight
      rw [meaningStep, meaning, l, r]
  | call function arguments =>
      rw [need] at fits
      exact meaningStep_call function (map_meaningWithin_eq arguments (by omega))

theorem map_meaningWithin_eq (arguments : List Formula) {room : Nat}
    (fits : needOfAll frames arguments ≤ room) :
    arguments.map (meaningWithin scope frames room) = meanings scope arguments := by
  cases arguments with
  | nil => rw [List.map_nil, meanings]
  | cons first rest =>
      rw [needOfAll, max_le_iff] at fits
      rw [List.map_cons, meanings, meaningWithin_eq first fits.1,
        map_meaningWithin_eq rest fits.2]

end

theorem Means.evaluated {outcome : Except Raised Cell} {c : Cell} (means : Means outcome c) :
    Raised.guard (Cell.normalized <$> outcome) = .ok c.normalized := by
  cases means <;> rfl

/-- Where all errors of a row are the one of a formula that fails, evaluation gives what the form of
a formula means, with an integral double as an integer, on every stack. On one that has room for the
formula it gives what it gives without a limit, and that is what the form means without one. -/
theorem evaluate_eq_meaning (plain : ∀ c ∈ scope.row, c.isError = true → c = .failure)
    (formula : Formula) :
    (∀ stack : Stack, ∃ cell, formula.evaluateWithin scope.opened stack = .ok cell ∧
      (formula.meaningWithin scope stack.frames stack.room).GivenAs cell) ∧
    (∀ stack : Stack, formula.Fits stack →
      formula.evaluateWithin scope.opened stack = .ok (formula.evaluate scope)) ∧
    (formula.meaning scope).GivenAs (formula.evaluate scope) := by
  have onStack (stack : Stack) : formula.evaluateWithin scope.opened stack =
      .ok (formula.meaningWithin scope stack.frames stack.room).normalized :=
    (means_of_plain plain stack.frames stack.room formula).evaluated
  refine ⟨fun stack => ⟨_, onStack stack, Cell.givenAs_normalized _⟩,
    fun stack fits => evaluateWithin_of_fits scope fits, ?_⟩
  let large : Stack := ⟨formula.need .single, .single⟩
  have fits : formula.Fits large := Nat.le_refl _
  have same := (onStack large).symm.trans (evaluateWithin_of_fits scope fits)
  rw [meaningWithin_eq formula fits, Except.ok.injEq] at same
  exact same ▸ Cell.givenAs_normalized _

/-- A formula that meets an error cell, then a name without a column, and then counts letters. -/
def twiceRescued : Formula :=
  .call "IFERROR" [.call "UPPER" [.column "b"],
    .call "IFERROR" [.call "CONCAT" [.column "a", .column "gone"], .call "LEN" [.column "a"]]]

/-- Both failures give way to the count where the stack has room for it. -/
theorem twiceRescued_means :
    let scope : Scope := ⟨.standard, .ofColumns ["a", "b"], [.text "abc", .failure]⟩
    (∀ c ∈ scope.row, c.isError = true → c = .failure) ∧ twiceRescued.Fits ⟨4, .single⟩ ∧
      twiceRescued.evaluateWithin scope.opened ⟨4, .single⟩ = .ok (.int 3) ∧
      (twiceRescued.meaning scope).GivenAs (.int 3) := by
  intro scope
  have plain : ∀ c ∈ scope.row, c.isError = true → c = .failure := by decide
  have fits : twiceRescued.Fits ⟨4, .single⟩ := by
    unfold Fits
    decide
  have counted : twiceRescued.evaluate scope = .int 3 := by cbv
  have decided := evaluate_eq_meaning plain twiceRescued
  rw [counted] at decided
  exact ⟨plain, fits, decided.2.1 _ fits, decided.2.2⟩

/-- `IFERROR(ABS(ABS(-1)), 5)` where the stack ends between the two calls. -/
example : evaluateWithin (Scope.opened ⟨.standard, .ofColumns [], []⟩) ⟨3, .single⟩
    (.call "IFERROR" [.call "ABS" [.call "ABS" [.literal (.int (-1))]], .literal (.int 5)]) =
      .ok (.int 5) := by
  cbv

end Formula

end Gridbook
