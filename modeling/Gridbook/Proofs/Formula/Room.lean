import Mathlib
import Gridbook.Formula.Library
import Gridbook.Proofs.Formula.Size

/-! # Room for evaluation

A formula of the functions of a registry has the same value on every stack that has room for it as
it has without a limit. What a text spells has room on a stack of fixed size.
-/

namespace Gridbook

theorem Registry.callable?_library (registry : Registry) (name : String) :
    registry.library.callable? name = (registry.function? name).map Function.callable := by
  have found (bindings : List (String × Option Function)) (key : String) :
      (library ⟨bindings⟩).bindings.lookup key =
        (bindings.lookup key).map (Option.map Function.callable) := by
    induction bindings with
    | nil => rfl
    | cons first rest ih =>
        rw [library] at ih ⊢
        rw [List.map_cons, List.lookup_cons, List.lookup_cons, ih]
        split <;> rfl
  rw [Library.callable?, found, function?]
  cases registry.bindings.lookup (Text.upper name) <;> rfl

theorem Function.callable_eager {f : Function} (eager : f.isLazy = false) :
    f.callable = .eager fun cells => Raised.ofFault (f.apply cells) := by
  cases f <;> first | rfl | cases eager

namespace Formula

mutual

/-- How much room a formula needs for itself and its parts. -/
def need (frames : Stack.Frames) : Formula → Nat
  | .literal value => frames.own (.literal value) + 1
  | .column name => frames.own (.column name) + 1
  | .compare left op right =>
      let formula := .compare left op right
      let deepest := max (need frames left) (need frames right)
      max (frames.own formula) (frames.parts formula + deepest) + 1
  | .call function arguments =>
      let formula := .call function arguments
      max (frames.own formula) (frames.parts formula + needOfAll frames arguments) + 1

def needOfAll (frames : Stack.Frames) : List Formula → Nat
  | [] => 0
  | formula :: rest => max (need frames formula) (needOfAll frames rest)

end

/-- A stack has room for a formula. -/
def Fits (stack : Stack) (formula : Formula) : Prop :=
  formula.need stack.frames ≤ stack.room

theorem room_of_need {frames : Stack.Frames} {formula : Formula} {room : Nat}
    (fits : formula.need frames ≤ room) :
    ∃ deeper, room = deeper + 1 ∧ frames.own formula ≤ deeper := by
  have least : frames.own formula + 1 ≤ formula.need frames := by
    cases formula with
    | literal | column => rw [need]
    | compare | call => exact Nat.add_le_add_right (Nat.le_max_left ..) 1
  obtain ⟨deeper, rfl⟩ := Nat.exists_eq_add_one_of_ne_zero (by omega : room ≠ 0)
  exact ⟨deeper, rfl, by omega⟩

/-- A value, if there is one, and else a failure. -/
def orFailure {α : Type} : Option α → Except Raised α
  | some a => .ok a
  | none => .error .failure

theorem orFailure_bind {α β : Type} (x : Option α) (f : α → Option β) :
    orFailure (x >>= f) = orFailure x >>= fun a => orFailure (f a) := by
  cases x <;> rfl

theorem ofFault_eq (outcome : Except Fault Cell) :
    Raised.ofFault outcome = orFailure outcome.toOption := by
  cases outcome <;> rfl

variable {scope : Scope} {frames : Stack.Frames}

theorem guard_orFailure (formula : Formula) :
    Raised.guard (orFailure (eval? scope formula)) = .ok (guarded scope formula) := by
  rw [guarded]
  cases eval? scope formula <;> rfl

theorem evalWithin_succ (scope : Library.Scope) (frames : Stack.Frames) (room : Nat)
    (formula : Formula) : evalWithin scope frames (room + 1) formula =
      if room < frames.own formula then .error .failure
      else step scope (evalWithin scope frames (room - frames.parts formula)) formula := by
  rw [evalWithin]

theorem eval?_eager {function : String} {arguments : List Formula} {f : Function}
    (found : scope.registry.function? function = some f) (eager : f.isLazy = false) :
    eval? scope (.call function arguments) = (do
      let cells ← evalAll? scope arguments
      match cells.find? Cell.isError with
      | some e => some e
      | none => (f.apply cells).toOption) := by
  rw [eval?.eq_def]
  simp only [found]
  cases f <;> first | rfl | cases eager

section Calls

variable {part : Formula → Except Raised Cell} {function : String} {arguments : List Formula}

theorem step_lazy {apply : List Formula → (Formula → Except Raised Cell) → Except Raised Cell}
    {f : Function} (found : scope.registry.function? function = some f)
    (isLazy : f.callable = .lazy apply) : step scope.opened part (.call function arguments) =
      apply arguments fun formula => Raised.guard (part formula) := by
  rw [step, Scope.opened, Registry.callable?_library, found, Option.map_some, isLazy]

theorem step_if (found : scope.registry.function? function = some .if)
    (guards : ∀ a ∈ arguments, Raised.guard (part a) = .ok (guarded scope a)) :
    step scope.opened part (.call function arguments) =
      orFailure (eval? scope (.call function arguments)) := by
  rw [step_lazy found rfl]
  match arguments, guards with
  | [], _ => simp [Function.chooseLazily, eval?, found, orFailure]
  | [_], _ => simp [Function.chooseLazily, eval?, found, orFailure]
  | [condition, yes], guards =>
      simp only [List.forall_mem_cons] at guards
      obtain ⟨ofCondition, ofYes, -⟩ := guards
      simp only [Function.chooseLazily, ofCondition, ofYes, eval?, found]
      simp only [bind, Except.bind]
      split
      · rfl
      · split <;> rfl
  | [condition, yes, no], guards =>
      simp only [List.forall_mem_cons] at guards
      obtain ⟨ofCondition, ofYes, ofNo, -⟩ := guards
      simp only [Function.chooseLazily, ofCondition, ofYes, ofNo, eval?, found]
      simp only [bind, Except.bind]
      split
      · rfl
      · split <;> rfl
  | _ :: _ :: _ :: _ :: _, _ => simp [Function.chooseLazily, eval?, found, orFailure]

theorem step_ifError (found : scope.registry.function? function = some .ifError)
    (guards : ∀ a ∈ arguments, Raised.guard (part a) = .ok (guarded scope a)) :
    step scope.opened part (.call function arguments) =
      orFailure (eval? scope (.call function arguments)) := by
  rw [step_lazy found rfl]
  match arguments, guards with
  | [], _ => simp [Function.rescueLazily, eval?, found, orFailure]
  | [_], _ => simp [Function.rescueLazily, eval?, found, orFailure]
  | [given, instead], guards =>
      simp only [List.forall_mem_cons] at guards
      obtain ⟨ofGiven, ofInstead, -⟩ := guards
      simp only [Function.rescueLazily, ofGiven, ofInstead, eval?, found]
      simp only [bind, Except.bind]
      split <;> rfl
  | _ :: _ :: _ :: _, _ => simp [Function.rescueLazily, eval?.eq_def, found, orFailure]

theorem step_eager {f : Function} (found : scope.registry.function? function = some f)
    (eager : f.isLazy = false)
    (all : arguments.mapM part = orFailure (evalAll? scope arguments)) :
    step scope.opened part (.call function arguments) =
      orFailure (eval? scope (.call function arguments)) := by
  rw [step, Scope.opened, Registry.callable?_library, found, Option.map_some,
    Function.callable_eager eager, eval?_eager found eager]
  simp only [all, orFailure_bind]
  congr 1
  funext cells
  cases cells.find? Cell.isError with
  | none => exact ofFault_eq _
  | some e => rfl

theorem mapM_of_each (each : ∀ a ∈ arguments, part a = orFailure (eval? scope a)) :
    arguments.mapM part = orFailure (evalAll? scope arguments) := by
  induction arguments with
  | nil =>
      rw [List.mapM_nil, evalAll?]
      rfl
  | cons first rest ih =>
      rw [List.forall_mem_cons] at each
      simp only [List.mapM_cons, each.1, ih each.2, evalAll?, orFailure_bind]
      rfl

theorem step_call (each : ∀ a ∈ arguments, part a = orFailure (eval? scope a)) :
    step scope.opened part (.call function arguments) =
      orFailure (eval? scope (.call function arguments)) := by
  have guards : ∀ a ∈ arguments, Raised.guard (part a) = .ok (guarded scope a) := by
    intro a among
    rw [each a among, guard_orFailure]
  cases found : scope.registry.function? function with
  | none =>
      rw [step, Scope.opened, Registry.callable?_library, found, eval?.eq_def]
      simp only [found]
      rfl
  | some f =>
      cases f with
      | «if» => exact step_if found guards
      | ifError => exact step_ifError found guards
      | _ => exact step_eager found rfl (mapM_of_each each)

end Calls

mutual

theorem evalWithin_eq (formula : Formula) {room : Nat} (fits : formula.need frames ≤ room) :
    evalWithin scope.opened frames room formula = orFailure (eval? scope formula) := by
  obtain ⟨room, rfl, enough⟩ := room_of_need fits
  rw [evalWithin_succ, if_neg (Nat.not_lt.mpr enough)]
  cases formula with
  | literal value => rw [step, eval?, orFailure]
  | column name =>
      have cell : scope.opened.cell? name = scope.cell? name := rfl
      rw [step, eval?, cell]
      cases scope.cell? name <;> rfl
  | compare left op right =>
      rw [need] at fits
      have fitsLeft : left.need frames ≤ room - frames.parts (.compare left op right) := by omega
      have fitsRight : right.need frames ≤ room - frames.parts (.compare left op right) := by omega
      have l := evalWithin_eq left fitsLeft
      have r := evalWithin_eq right fitsRight
      simp only [step, eval?, l, r, orFailure_bind, ofFault_eq]
  | call function arguments =>
      rw [need] at fits
      exact step_call (evalWithin_all_eq arguments (by omega))

theorem evalWithin_all_eq (arguments : List Formula) {room : Nat}
    (fits : needOfAll frames arguments ≤ room) :
    ∀ a ∈ arguments, evalWithin scope.opened frames room a = orFailure (eval? scope a) := by
  cases arguments with
  | nil => simp
  | cons first rest =>
      rw [needOfAll, max_le_iff] at fits
      rw [List.forall_mem_cons]
      exact ⟨evalWithin_eq first fits.1, evalWithin_all_eq rest fits.2⟩

end

theorem evaluateWithin_of_fits (scope : Scope) {stack : Stack} {formula : Formula}
    (fits : formula.Fits stack) :
    evaluateWithin scope.opened stack formula = .ok (formula.evaluate scope) := by
  rw [evaluateWithin, evalWithin_eq formula fits, evaluate]
  cases eval? scope formula <;> rfl

/-- Bounds on frames: of any formula by itself, and from a call or a comparison to its parts. -/
structure Reaches (frames : Stack.Frames) (own calls comparisons : Nat) : Prop where
  own : ∀ formula, frames.own formula ≤ own
  call : ∀ function arguments, frames.parts (.call function arguments) < calls
  compare : ∀ left op right, frames.parts (.compare left op right) < comparisons

variable {own calls comparisons : Nat}

mutual

theorem Operand.need_le {lexemes : List Lexeme} {formula : Formula}
    (spelled : Operand lexemes formula) (reaches : Reaches frames own calls comparisons) :
    formula.need frames ≤ formula.nesting * (calls + comparisons) + own + 1 := by
  have alone := reaches.own formula
  cases spelled with
  | string content =>
      rw [need]
      omega
  | bare stands =>
      obtain ⟨n, rfl, -⟩ | ⟨x, rfl⟩ | ⟨rfl, -⟩ := ofBare_cases stands <;> (rw [need]; omega)
  | @callNone name named =>
      have deeper := reaches.call (Text.upper name) []
      simp only [need, needOfAll, nesting, nestingOfAll]
      omega
  | @call name _ arguments named spelled =>
      have inside := spelled.need_le reaches
      have deeper := reaches.call (Text.upper name) arguments
      simp only [need, nesting, Nat.add_mul, Nat.one_mul] at inside ⊢
      omega
termination_by 2 * sizeOf formula
decreasing_by
  all_goals subst_vars
  all_goals simp +arith only [Formula.call.sizeOf_spec]

theorem Argument.need_le {lexemes : List Lexeme} {formula : Formula}
    (spelled : Argument lexemes formula) (reaches : Reaches frames own calls comparisons) :
    formula.need frames ≤ formula.nesting * (calls + comparisons) + comparisons + own + 1 := by
  cases spelled with
  | operand spelled =>
      have alone := spelled.need_le reaches
      omega
  | @compare _ _ left right op spelledLeft spelledRight =>
      have first := spelledLeft.need_le reaches
      have second := spelledRight.need_le reaches
      have alone := reaches.own (.compare left op right)
      have deeper := reaches.compare left op right
      have wider := Nat.mul_max_mul_right left.nesting right.nesting (calls + comparisons)
      simp only [need, nesting]
      omega
termination_by 2 * sizeOf formula + 1
decreasing_by
  all_goals subst_vars
  all_goals simp +arith only [Formula.compare.sizeOf_spec]

theorem Arguments.need_le {lexemes : List Lexeme} {formulas : List Formula}
    (spelled : Arguments lexemes formulas) (reaches : Reaches frames own calls comparisons) :
    needOfAll frames formulas ≤
      nestingOfAll formulas * (calls + comparisons) + comparisons + own + 1 := by
  cases spelled with
  | last spelled =>
      have only := spelled.need_le reaches
      simpa only [needOfAll, nestingOfAll, Nat.max_zero] using only
  | @more _ _ argument rest spelled spelledRest =>
      have first := spelled.need_le reaches
      have later := spelledRest.need_le reaches
      have wider := Nat.mul_max_mul_right argument.nesting (nestingOfAll rest) (calls + comparisons)
      simp only [needOfAll, nestingOfAll]
      omega
termination_by 2 * sizeOf formulas
decreasing_by
  all_goals subst_vars
  all_goals simp +arith only [List.cons.sizeOf_spec]

end

theorem need_of_parse {text : String} {formula : Formula} (parsed : parse text = .ok formula)
    (reaches : Reaches frames own calls comparisons) :
    formula.need frames ≤ maxNesting * (calls + comparisons) + comparisons + own + 1 := by
  obtain ⟨front, -, -, -, -, spelled, within⟩ := cut_of_parse parsed
  have enough := Nat.mul_le_mul_right (calls + comparisons) within
  exact (spelled.need_le reaches).trans (by omega)

theorem parse_of_compile {text : String} {formula : Formula}
    (compiled : compile text = .ok (some formula)) : parse text = .ok formula := by
  unfold compile at compiled
  split at compiled <;> cases compiled
  assumption

/-- The values of a text on a stack with room for a hundred calls inside each other, with a
comparison in each, are those without a limit. -/
theorem evaluateRowsWithin_eq {stack : Stack} (reaches : Reaches stack.frames own calls comparisons)
    (room : maxNesting * (calls + comparisons) + comparisons + own + 1 ≤ stack.room)
    (registry : Registry) (columns : List String) (text : String) (rows : List (List Cell)) :
    evaluateRowsWithin registry.library stack columns text rows =
      Except.ok <$> evaluateRows registry columns text rows := by
  rw [evaluateRowsWithin, evaluateRows]
  cases compiled : compile text with
  | error fault => rfl
  | ok formula? =>
      have each (row : List Cell) :
          evaluateCompiledWithin ⟨registry.library, .ofColumns columns, row⟩ stack formula? =
            .ok (evaluateCompiled ⟨registry, .ofColumns columns, row⟩ formula?) := by
        cases formula? with
        | none => rfl
        | some formula =>
            have fits : formula.Fits stack :=
              (need_of_parse (parse_of_compile compiled) reaches).trans room
            exact evaluateWithin_of_fits ⟨registry, .ofColumns columns, row⟩ fits
      apply congrArg Except.ok
      simp only [each]
      exact List.mapM_pure

end Formula

end Gridbook
