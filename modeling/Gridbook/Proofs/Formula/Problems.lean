import Gridbook.Proofs.Formula.Progress

/-! # Problems that are found before evaluation

A name without a column or a function is a problem wherever it stands in a formula. Evaluation does
not come everywhere: it passes over the branch that a condition does not choose, and it puts one
argument in the place of another that fails. A problem makes a row fail if evaluation stumbles over
it there, and where nothing else can go wrong, only then.
-/

namespace Gridbook

theorem Cell.isError_normalized (c : Cell) : c.normalized.isError = c.isError := by
  cases c with
  | float x =>
      rw [normalized]
      split <;> rfl
  | null | bool | text | int | date | moment | error => rfl

namespace Formula

variable {scope : Scope}

/-- Evaluation on a row comes to a name that stands for nothing, and nothing is put in its place. -/
inductive Stumbles (scope : Scope) : Formula → Prop where
  | column {name : String} (unknown : scope.lookup.index? name = none) :
      Stumbles scope (.column name)
  | function {function : String} {arguments : List Formula}
      (unbound : scope.registry.function? function = none) :
      Stumbles scope (.call function arguments)
  | left {left right : Formula} {op : Operator} (inside : Stumbles scope left) :
      Stumbles scope (.compare left op right)
  | right {left right : Formula} {op : Operator} (inside : Stumbles scope right) :
      Stumbles scope (.compare left op right)
  | argument {function : String} {f : Function} {arguments : List Formula} {a : Formula}
      (found : scope.registry.function? function = some f) (eager : f.isLazy = false)
      (among : a ∈ arguments) (inside : Stumbles scope a) :
      Stumbles scope (.call function arguments)
  | condition {function : String} {condition : Formula} {branches : List Formula}
      (found : scope.registry.function? function = some .if) (inside : Stumbles scope condition) :
      Stumbles scope (.call function (condition :: branches))
  | chosen {function : String} {condition yes : Formula} {others : List Formula}
      (found : scope.registry.function? function = some .if)
      (holds : (guarded scope condition).holds = true) (inside : Stumbles scope yes) :
      Stumbles scope (.call function (condition :: yes :: others))
  | otherwise {function : String} {condition yes no : Formula}
      (found : scope.registry.function? function = some .if)
      (unmet : (guarded scope condition).holds = false) (inside : Stumbles scope no) :
      Stumbles scope (.call function [condition, yes, no])
  | instead {function : String} {value instead : Formula}
      (found : scope.registry.function? function = some .ifError) (inside : Stumbles scope value)
      (insideToo : Stumbles scope instead) :
      Stumbles scope (.call function [value, instead])

/-- Evaluation of a formula on a row ends in an error or in none at all. -/
def Fails (scope : Scope) (formula : Formula) : Prop :=
  (guarded scope formula).isError = true

namespace Fails

variable {left right : Formula} {op : Operator} {function : String} {arguments : List Formula}

theorem of_none {formula : Formula} (given : eval? scope formula = none) :
    Fails scope formula := by
  rw [Fails, guarded, given]
  rfl

theorem of_some {formula : Formula} {c : Cell} (given : eval? scope formula = some c)
    (error : c.isError = true) : Fails scope formula := by
  rwa [Fails, guarded, given]

theorem error_of_some {formula : Formula} (fails : Fails scope formula) {c : Cell}
    (given : eval? scope formula = some c) : c.isError = true := by
  rwa [Fails, guarded, given] at fails

theorem compare (either : Fails scope left ∨ Fails scope right) :
    Fails scope (.compare left op right) := by
  cases givenLeft : eval? scope left with
  | none => exact of_none (by simp [eval?, givenLeft])
  | some a =>
      cases givenRight : eval? scope right with
      | none => exact of_none (by simp [eval?, givenLeft, givenRight])
      | some b =>
          have error : ([a, b].find? Cell.isError).isSome = true := by
            rcases either with first | second
            · simp [first.error_of_some givenLeft]
            · simp [second.error_of_some givenRight]
          obtain ⟨e, found⟩ := Option.isSome_iff_exists.mp error
          have compared : a.compare op b = .ok e := by
            simp only [Cell.compare, found]
            rfl
          exact of_some (by simp [eval?, givenLeft, givenRight, compared, Except.toOption])
            (List.find?_some found)

theorem mem_evalAll {cells : List Cell} (values : evalAll? scope arguments = some cells)
    {a : Formula} (among : a ∈ arguments) : ∃ c ∈ cells, eval? scope a = some c := by
  induction arguments generalizing cells with
  | nil => cases among
  | cons first rest ih =>
      rw [evalAll?] at values
      obtain ⟨c, value, values⟩ := Option.bind_eq_some_iff.mp values
      obtain ⟨later, others, values⟩ := Option.bind_eq_some_iff.mp values
      cases values
      rcases List.mem_cons.mp among with rfl | among
      · exact ⟨c, List.mem_cons_self, value⟩
      · obtain ⟨d, inside, same⟩ := ih others among
        exact ⟨d, List.mem_cons_of_mem c inside, same⟩

theorem call_eager {f : Function} (found : scope.registry.function? function = some f)
    (eager : f.isLazy = false) {a : Formula} (among : a ∈ arguments) (fails : Fails scope a) :
    Fails scope (.call function arguments) := by
  cases values : evalAll? scope arguments with
  | none => exact of_none (by simp [eval?_eager found eager, values])
  | some cells =>
      obtain ⟨c, inside, value⟩ := mem_evalAll values among
      have error : (cells.find? Cell.isError).isSome = true :=
        List.find?_isSome.mpr ⟨c, inside, fails.error_of_some value⟩
      obtain ⟨e, first⟩ := Option.isSome_iff_exists.mp error
      exact of_some (by simp [eval?_eager found eager, values, first])
        (List.find?_some first)

theorem condition {condition : Formula} {branches : List Formula}
    (found : scope.registry.function? function = some .if) (fails : Fails scope condition) :
    Fails scope (.call function (condition :: branches)) := by
  have error : (guarded scope condition).isError = true := fails
  match branches with
  | [_] | [_, _] =>
      exact of_some (c := guarded scope condition) (by simp [eval?, found, error]) error
  | [] | _ :: _ :: _ :: _ => exact of_none (by simp [eval?, found])

theorem chosen {condition yes : Formula} {others : List Formula}
    (found : scope.registry.function? function = some .if)
    (holds : (guarded scope condition).holds = true) (fails : Fails scope yes) :
    Fails scope (.call function (condition :: yes :: others)) := by
  cases error : (guarded scope condition).isError with
  | true => exact .condition found error
  | false =>
      match others with
      | [] | [_] =>
          exact of_some (c := guarded scope yes) (by simp [eval?, found, error, holds]) fails
      | _ :: _ :: _ => exact of_none (by simp [eval?, found])

theorem otherwise {condition yes no : Formula}
    (found : scope.registry.function? function = some .if)
    (unmet : (guarded scope condition).holds = false) (fails : Fails scope no) :
    Fails scope (.call function [condition, yes, no]) := by
  cases error : (guarded scope condition).isError with
  | true => exact .condition found error
  | false => exact of_some (c := guarded scope no) (by simp [eval?, found, error, unmet]) fails

theorem instead {value instead : Formula}
    (found : scope.registry.function? function = some .ifError) (fails : Fails scope value)
    (failsToo : Fails scope instead) : Fails scope (.call function [value, instead]) := by
  have error : (guarded scope value).isError = true := fails
  exact of_some (c := guarded scope instead) (by simp [eval?, found, error]) failsToo

end Fails

theorem Stumbles.fails {formula : Formula} (stumbles : Stumbles scope formula) :
    Fails scope formula := by
  induction stumbles with
  | column unknown => exact .of_none (by simp [eval?, Scope.cell?, unknown])
  | function unbound => exact .of_some (c := .failure) (by simp [eval?.eq_def, unbound]) rfl
  | left _ fails => exact .compare (.inl fails)
  | right _ fails => exact .compare (.inr fails)
  | argument found eager among _ fails => exact .call_eager found eager among fails
  | condition found _ fails => exact .condition found fails
  | chosen found holds _ fails => exact .chosen found holds fails
  | otherwise found unmet _ fails => exact .otherwise found unmet fails
  | instead found _ _ fails failsToo => exact .instead found fails failsToo

/-- A formula stumbles by its form alone: over a name that stands for nothing, where evaluation
comes on every row. -/
inductive Doomed (registry : Registry) (lookup : ColumnLookup) : Formula → Prop where
  | column {name : String} (unknown : lookup.index? name = none) :
      Doomed registry lookup (.column name)
  | function {function : String} {arguments : List Formula}
      (unbound : registry.function? function = none) :
      Doomed registry lookup (.call function arguments)
  | left {left right : Formula} {op : Operator} (inside : Doomed registry lookup left) :
      Doomed registry lookup (.compare left op right)
  | right {left right : Formula} {op : Operator} (inside : Doomed registry lookup right) :
      Doomed registry lookup (.compare left op right)
  | argument {function : String} {f : Function} {arguments : List Formula} {a : Formula}
      (found : registry.function? function = some f) (eager : f.isLazy = false)
      (among : a ∈ arguments) (inside : Doomed registry lookup a) :
      Doomed registry lookup (.call function arguments)
  | condition {function : String} {condition : Formula} {branches : List Formula}
      (found : registry.function? function = some .if)
      (inside : Doomed registry lookup condition) :
      Doomed registry lookup (.call function (condition :: branches))
  | branches {function : String} {condition yes no : Formula}
      (found : registry.function? function = some .if) (inside : Doomed registry lookup yes)
      (insideToo : Doomed registry lookup no) :
      Doomed registry lookup (.call function [condition, yes, no])
  | instead {function : String} {value instead : Formula}
      (found : registry.function? function = some .ifError)
      (inside : Doomed registry lookup value) (insideToo : Doomed registry lookup instead) :
      Doomed registry lookup (.call function [value, instead])

theorem Doomed.stumbles {registry : Registry} {lookup : ColumnLookup} {formula : Formula}
    (doomed : Doomed registry lookup formula) (row : List Cell) :
    Stumbles ⟨registry, lookup, row⟩ formula := by
  induction doomed with
  | column unknown => exact .column unknown
  | function unbound => exact .function unbound
  | left _ stumbles => exact .left stumbles
  | right _ stumbles => exact .right stumbles
  | argument found eager among _ stumbles => exact .argument found eager among stumbles
  | condition found _ stumbles => exact .condition found stumbles
  | @branches _ condition _ _ found _ _ stumbles stumblesToo =>
      cases chosen : (guarded ⟨registry, lookup, row⟩ condition).holds with
      | true => exact .chosen found chosen stumbles
      | false => exact .otherwise found chosen stumblesToo
  | instead found _ _ stumbles stumblesToo => exact .instead found stumbles stumblesToo

section

variable {registry : Registry} {lookup : ColumnLookup} {node : Formula}

theorem doomed_of_problem (wrong : (problem? registry lookup node).isSome = true) :
    Doomed registry lookup node := by
  cases node with
  | literal | compare => cases wrong
  | column name =>
      refine .column ?_
      by_contra known
      simp [problem?, Option.isSome_iff_ne_none.mpr known] at wrong
  | call function arguments =>
      refine .function ?_
      rw [problem?] at wrong
      split at wrong
      case isTrue => cases wrong
      case isFalse unknown =>
        have missing : registry.bindings.lookup (Text.upper function) = none :=
          Option.not_isSome_iff_eq_none.mp unknown
        simp [Registry.function?, missing]

mutual

theorem doomed_of_eager (formula : Formula)
    (eager : ∀ function arguments, .call function arguments ∈ formula.nodes →
      ∀ f, registry.function? function = some f → f.isLazy = false)
    (among : node ∈ formula.nodes) (wrong : (problem? registry lookup node).isSome = true) :
    Doomed registry lookup formula := by
  cases formula with
  | literal | column =>
      obtain rfl := List.mem_singleton.mp (by simpa [nodes] using among)
      exact doomed_of_problem wrong
  | compare left op right =>
      simp only [nodes, List.mem_cons, List.mem_append] at among eager
      rcases among with rfl | inLeft | inRight
      · cases wrong
      · exact .left (doomed_of_eager left
          (fun function arguments inside => eager function arguments (.inr (.inl inside)))
          inLeft wrong)
      · exact .right (doomed_of_eager right
          (fun function arguments inside => eager function arguments (.inr (.inr inside)))
          inRight wrong)
  | call function arguments =>
      simp only [nodes, List.mem_cons] at among eager
      rcases among with rfl | inside
      · exact doomed_of_problem wrong
      · obtain ⟨a, isArgument, doomed⟩ := exists_doomed_of_eager arguments
          (fun function arguments inside => eager function arguments (.inr inside)) inside wrong
        cases found : registry.function? function with
        | none => exact .function found
        | some f =>
            have strict := eager function arguments (.inl rfl) f found
            exact .argument found strict isArgument doomed

theorem exists_doomed_of_eager (formulas : List Formula)
    (eager : ∀ function arguments, .call function arguments ∈ nodesOfAll formulas →
      ∀ f, registry.function? function = some f → f.isLazy = false)
    (among : node ∈ nodesOfAll formulas)
    (wrong : (problem? registry lookup node).isSome = true) :
    ∃ a ∈ formulas, Doomed registry lookup a := by
  cases formulas with
  | nil => simp [nodesOfAll] at among
  | cons first rest =>
      simp only [nodesOfAll, List.mem_append] at among eager
      rcases among with inFirst | inRest
      · exact ⟨first, List.mem_cons_self, doomed_of_eager first
          (fun function arguments inside => eager function arguments (.inl inside)) inFirst wrong⟩
      · obtain ⟨a, isArgument, doomed⟩ := exists_doomed_of_eager rest
          (fun function arguments inside => eager function arguments (.inr inside)) inRest wrong
        exact ⟨a, List.mem_cons_of_mem first isArgument, doomed⟩

end

end

/-- A node that does not fail by itself, unless it is a name that stands for nothing. -/
def Steady (scope : Scope) (unit : Nat) : Formula → Prop
  | .literal value => value.cell.Tame
  | .column name => scope.lookup.index? name ≠ none →
      ∃ c, scope.cell? name = some c ∧ c.Tame ∧ c.width ≤ unit
  | .call function arguments => ∀ f, scope.registry.function? function = some f →
      f ≠ .round ∧ f.takes.admits arguments.length = true
  | .compare _ _ _ => True

section

variable {unit : Nat} {function : String} {arguments : List Formula}

theorem progresses_if (wide : 4096 ≤ unit)
    (found : scope.registry.function? function = some .if)
    (admits : Function.if.takes.admits arguments.length = true)
    (clear : ¬ Stumbles scope (.call function arguments))
    (each : ∀ a ∈ arguments, ¬ Stumbles scope a → Progresses scope unit a) :
    Progresses scope unit (.call function arguments) := by
  have inside {a : Formula} (among : a ∈ arguments) (clear : ¬ Stumbles scope a) :
      (guarded scope a).Tame ∧
        (guarded scope a).width ≤ (Formula.call function arguments).room unit :=
    ⟨(each a among clear).guarded.1,
      (each a among clear).guarded.2.trans (Progresses.room_argument among function)⟩
  match arguments, admits with
  | [condition, yes], _ =>
      have value := (inside (a := condition) (by simp) fun stumbles =>
        clear (.condition found stumbles)).1.value
      rw [Progresses, eval?]
      simp only [found, value, Bool.false_eq_true, if_false]
      split <;> rename_i chosen
      · exact ⟨_, rfl, inside (by simp) fun stumbles => clear (.chosen found chosen stumbles)⟩
      · have narrow := Cell.width_bool false
        have least := unit_le_room unit (.call function [condition, yes])
        exact ⟨_, rfl, .bool false, by omega⟩
  | [condition, yes, no], _ =>
      have value := (inside (a := condition) (by simp) fun stumbles =>
        clear (.condition found stumbles)).1.value
      rw [Progresses, eval?]
      simp only [found, value, Bool.false_eq_true, if_false]
      split <;> rename_i chosen
      · exact ⟨_, rfl, inside (by simp) fun stumbles => clear (.chosen found chosen stumbles)⟩
      · rw [Bool.not_eq_true] at chosen
        exact ⟨_, rfl, inside (by simp) fun stumbles => clear (.otherwise found chosen stumbles)⟩

theorem progresses_ifError (found : scope.registry.function? function = some .ifError)
    (admits : Function.ifError.takes.admits arguments.length = true)
    (clear : ¬ Stumbles scope (.call function arguments))
    (each : ∀ a ∈ arguments, ¬ Stumbles scope a → Progresses scope unit a) :
    Progresses scope unit (.call function arguments) := by
  obtain ⟨value, instead, rfl⟩ := List.length_eq_two.mp (Arity.eq_of_admits admits)
  rw [Progresses, eval?]
  simp only [found]
  by_cases stumbles : Stumbles scope value
  · have error : (guarded scope value).isError = true := stumbles.fails
    obtain ⟨tame, width⟩ := (each instead (by simp) fun stumblesToo =>
      clear (.instead found stumbles stumblesToo)).guarded
    rw [if_pos error]
    exact ⟨_, rfl, tame, width.trans (Progresses.room_argument (by simp) function)⟩
  · obtain ⟨tame, width⟩ := (each value (by simp) stumbles).guarded
    simp only [tame.value, Bool.false_eq_true, if_false]
    exact ⟨_, rfl, tame, width.trans (Progresses.room_argument (by simp) function)⟩

mutual

theorem progresses_of_clear (wide : 4096 ≤ unit) (formula : Formula)
    (steady : ∀ node ∈ formula.nodes, Steady scope unit node)
    (small : (formula.room unit).log2 < 1023) (clear : ¬ Stumbles scope formula) :
    Progresses scope unit formula := by
  cases formula with
  | literal value => exact .literal wide (steady (.literal value) (by simp [nodes]))
  | column name =>
      exact .column (steady (.column name) (by simp [nodes]) fun unknown => clear (.column unknown))
  | compare left op right =>
      have inLeft : ∀ node ∈ left.nodes, Steady scope unit node := fun node among =>
        steady node (by simp [nodes, among])
      have inRight : ∀ node ∈ right.nodes, Steady scope unit node := fun node among =>
        steady node (by simp [nodes, among])
      have part := room_compare unit left op right
      exact .compare wide op
        (progresses_of_clear wide left inLeft ((log2_le_of_le part.1).trans_lt small)
          fun stumbles => clear (.left stumbles))
        (progresses_of_clear wide right inRight ((log2_le_of_le part.2).trans_lt small)
          fun stumbles => clear (.right stumbles))
  | call function arguments =>
      have whole := room_call unit function arguments
      have each : ∀ a ∈ arguments, ¬ Stumbles scope a → Progresses scope unit a :=
        all_progress_of_clear wide arguments
          (fun node among => steady node (by simp [nodes, among]))
          ((log2_le_of_le (by omega)).trans_lt small)
      cases found : scope.registry.function? function with
      | none => exact absurd (.function found) clear
      | some f =>
          obtain ⟨noRounding, admits⟩ := steady (.call function arguments) (by simp [nodes]) f found
          cases f with
          | «if» => exact progresses_if wide found admits clear each
          | ifError => exact progresses_ifError found admits clear each
          | _ =>
              exact .call_eager wide found rfl noRounding admits small fun a among =>
                each a among fun stumbles => clear (.argument found rfl among stumbles)

theorem all_progress_of_clear (wide : 4096 ≤ unit) (arguments : List Formula)
    (steady : ∀ node ∈ nodesOfAll arguments, Steady scope unit node)
    (small : (roomOfAll unit arguments).log2 < 1023) :
    ∀ a ∈ arguments, ¬ Stumbles scope a → Progresses scope unit a := by
  cases arguments with
  | nil => simp
  | cons first rest =>
      have both := room_cons unit first rest
      rw [List.forall_mem_cons]
      exact ⟨progresses_of_clear wide first
          (fun node among => steady node (by simp [nodesOfAll, among]))
          ((log2_le_of_le (by omega)).trans_lt small),
        all_progress_of_clear wide rest
          (fun node among => steady node (by simp [nodesOfAll, among]))
          ((log2_le_of_le (by omega)).trans_lt small)⟩

end

end

theorem evaluate_eq_guarded (scope : Scope) (formula : Formula) :
    formula.evaluate scope = (guarded scope formula).normalized := by
  rw [evaluate, guarded]
  cases eval? scope formula <;> rfl

/-- The value of a formula that stumbles is an error, and the one of a formula that fails if the row
has no other. -/
theorem Stumbles.evaluate {formula : Formula} (stumbles : Stumbles scope formula) :
    (formula.evaluate scope).isError = true ∧
      ((∀ c ∈ scope.row, c.FailsPlainly) → formula.evaluate scope = .failure) := by
  have fails : (guarded scope formula).isError = true := stumbles.fails
  rw [evaluate_eq_guarded, Cell.isError_normalized]
  refine ⟨fails, fun plain => ?_⟩
  rw [guarded_failsPlainly plain formula fails]
  rfl

/-- A formula whose calls have as many arguments as their functions take, none of which rounds, and
whose integers are in the range of doubles. -/
structure Regular (registry : Registry) (formula : Formula) : Prop where
  calls : ∀ function arguments, .call function arguments ∈ formula.nodes →
    ∀ f, registry.function? function = some f →
      f ≠ .round ∧ f.takes.admits arguments.length = true
  literals : ∀ n, .literal (.int n) ∈ formula.nodes → (Double.ofInt? n).isSome = true

/-- A row under some columns without errors, whose integers are in the range of doubles and whose
texts a machine can hold. -/
structure RegularRow (columns : List String) (row : List Cell) : Prop where
  fits : row.length = columns.length
  values : ∀ c ∈ row, c.isError = false
  integers : ∀ n, .int n ∈ row → (Double.ofInt? n).isSome = true
  held : ∀ c ∈ row, ∀ s, c.text? = some s → Held s

section

variable {registry : Registry} {columns : List String} {row : List Cell} {text : String}
  {formula : Formula}

theorem steady_of_regular (regular : Regular registry formula) (regularRow : RegularRow columns row)
    {node : Formula} (among : node ∈ formula.nodes) :
    Steady ⟨registry, .ofColumns columns, row⟩ (2 ^ 63) node := by
  cases node with
  | literal value =>
      cases value with
      | text s => exact .text s
      | int n => exact .int (regular.literals n among)
      | float x => exact .float x
  | column name =>
      intro known
      obtain ⟨c, inRow, found⟩ := cell?_of_index? registry regularRow.fits
        (Option.isSome_iff_ne_none.mpr known)
      have tame : c.Tame :=
        ⟨regularRow.values c inRow, fun n same => regularRow.integers n (same ▸ inRow)⟩
      exact ⟨c, found, tame,
        tame.width_le (by norm_num) fun s text => (regularRow.held c inRow s text).le⟩
  | compare left op right => trivial
  | call function arguments => exact regular.calls function arguments among

/-- Where nothing else can go wrong, a formula fails on a row exactly if it stumbles there. -/
theorem evaluate_eq_failure_iff (parsed : parse text = .ok formula) (held : Held text)
    (regular : Regular registry formula) (regularRow : RegularRow columns row) :
    formula.evaluate ⟨registry, .ofColumns columns, row⟩ = .failure ↔
      Stumbles ⟨registry, .ofColumns columns, row⟩ formula := by
  constructor
  · intro failed
    by_contra clear
    obtain ⟨short, within⟩ := size_of_parse parsed
    have small : (formula.room (2 ^ 63)).log2 < 1023 :=
      (log2_room_lt (a := 63) (b := 63) (Nat.le_refl _) within (short.trans_lt held)).trans_le
        (by decide)
    have value := (progresses_of_clear (by norm_num) formula
      (fun node among => steady_of_regular regular regularRow among) small clear).guarded.1.value
    rw [← Cell.isError_normalized, ← evaluate_eq_guarded, failed] at value
    cases value
  · exact fun stumbles => stumbles.evaluate.2 fun c among =>
      .of_value (regularRow.values c among)

/-- When problems are found, the text is no formula and fails on every row, or it is a formula with
a name that stands for nothing. That formula fails on each row on which it stumbles; where nothing
else can go wrong it fails on no other. By its form it may be doomed to stumble on every row, and
without lazy functions it is. -/
theorem problems_fail_where_stumbled {told : List String}
    (reported : problems registry columns text = .ok told) (found : told ≠ []) :
    ((∃ fault, parse text = .error (.formula fault)) ∧ ∀ rows,
      evaluateRows registry columns text rows = .ok (rows.map fun _ => .failure)) ∨
    ∃ formula, parse text = .ok formula ∧
      (∃ node ∈ formula.nodes, (problem? registry (.ofColumns columns) node).isSome = true) ∧
      (∀ rows, evaluateRows registry columns text rows =
        .ok (rows.map fun row => formula.evaluate ⟨registry, .ofColumns columns, row⟩)) ∧
      ((∀ function arguments, .call function arguments ∈ formula.nodes →
        ∀ f, registry.function? function = some f → f.isLazy = false) →
          Doomed registry (.ofColumns columns) formula) ∧
      ∀ row,
        (Doomed registry (.ofColumns columns) formula →
          Stumbles ⟨registry, .ofColumns columns, row⟩ formula) ∧
        (Stumbles ⟨registry, .ofColumns columns, row⟩ formula →
          (formula.evaluate ⟨registry, .ofColumns columns, row⟩).isError = true ∧
            ((∀ c ∈ row, c.FailsPlainly) →
              formula.evaluate ⟨registry, .ofColumns columns, row⟩ = .failure)) ∧
        (Held text → Regular registry formula → RegularRow columns row →
          (formula.evaluate ⟨registry, .ofColumns columns, row⟩ = .failure ↔
            Stumbles ⟨registry, .ofColumns columns, row⟩ formula)) := by
  unfold problems at reported
  split at reported
  case h_1 formula parsed =>
    right
    have present : ∃ node ∈ formula.nodes,
        (problem? registry (.ofColumns columns) node).isSome = true := by
      obtain ⟨problem, among⟩ := List.exists_mem_of_ne_nil told found
      rw [← Except.ok.inj reported] at among
      obtain ⟨node, inside, wrong⟩ := List.mem_filterMap.mp among
      exact ⟨node, inside, by rw [wrong]; rfl⟩
    refine ⟨formula, parsed, present, evaluateRows_of_parse parsed, ?_, fun row => ⟨?_, ?_, ?_⟩⟩
    · intro eager
      obtain ⟨node, among, wrong⟩ := present
      exact doomed_of_eager formula eager among wrong
    · exact fun doomed => doomed.stumbles row
    · exact Stumbles.evaluate
    · exact evaluate_eq_failure_iff parsed
  case h_2 fault parsed =>
    refine .inl ⟨⟨fault, parsed⟩, fun rows => ?_⟩
    rw [evaluateRows, compile, parsed]
    rfl
  case h_3 => cases reported

end

/-- `MULTIPLY(Price, Gone)`. -/
def priceOfGone : Formula :=
  .call "MULTIPLY" [.column "Price", .column "Gone"]

/-- A name without a column among the arguments of a product makes every row fail. -/
theorem priceOfGone_fails :
    problems .standard ["Price"] "MULTIPLY(Price, Gone)" = .ok ["Unknown column 'Gone'"] ∧
      ∀ rows : List (List Cell), (∀ row ∈ rows, ∀ c ∈ row, c.FailsPlainly) →
        evaluateRows .standard ["Price"] "MULTIPLY(Price, Gone)" rows =
          .ok (rows.map fun _ => .failure) := by
  have printed : priceOfGone.print = "MULTIPLY(Price, Gone)" := by cbv
  have price : WellFormed (.column "Price") := .column (by decide) (by cbv) (by simp) (by cbv)
  have gone : WellFormed (.column "Gone") := .column (by decide) (by cbv) (by simp) (by cbv)
  have well : WellFormed priceOfGone := .call (by decide) (by cbv) (by simp [price, gone])
  have parsed := printed ▸ parse_printed well (by decide)
  have reported : problems .standard ["Price"] "MULTIPLY(Price, Gone)" =
      .ok ["Unknown column 'Gone'"] := by
    simp only [problems, parsed, priceOfGone, nodes, nodesOfAll]
    decide +kernel
  have eager : ∀ function arguments, .call function arguments ∈ priceOfGone.nodes →
      ∀ f, Registry.standard.function? function = some f → f.isLazy = false := by
    have bound : Registry.standard.function? "MULTIPLY" = some .multiply := by cbv
    intro function arguments among f found
    obtain ⟨rfl, -⟩ : function = "MULTIPLY" ∧ arguments = [.column "Price", .column "Gone"] := by
      simpa [priceOfGone, nodes, nodesOfAll] using among
    rw [bound] at found
    cases found
    rfl
  refine ⟨reported, fun rows plain => ?_⟩
  obtain ⟨-, everyRow⟩ | ⟨formula, same, -, values, doomed, each⟩ :=
    problems_fail_where_stumbled reported (by simp)
  · exact everyRow rows
  · obtain rfl := Except.ok.inj (parsed.symm.trans same)
    rw [values]
    refine congrArg Except.ok (List.map_congr_left fun row among => ?_)
    obtain ⟨stumbles, fails, -⟩ := each row
    exact (fails (stumbles (doomed eager))).2 (plain row among)

/-- `IFERROR(Missing, 1)`. -/
def missingOrOne : Formula :=
  .call "IFERROR" [.column "Missing", .literal (.int 1)]

/-- A problem is found where another value is put in its place on every row. -/
theorem rescued_problem_has_value :
    problems .standard ["A"] "IFERROR(Missing, 1)" = .ok ["Unknown column 'Missing'"] ∧
      evaluateRows .standard ["A"] "IFERROR(Missing, 1)" [[.int 1]] = .ok [.int 1] := by
  have printed : missingOrOne.print = "IFERROR(Missing, 1)" := by cbv
  have missing : WellFormed (.column "Missing") := .column (by decide) (by cbv) (by simp) (by cbv)
  have well : WellFormed missingOrOne :=
    .call (by decide) (by cbv) (by simp [missing, WellFormed.int (n := 1) (by decide)])
  have parsed := printed ▸ parse_printed well (by decide)
  constructor
  · simp only [problems, parsed, missingOrOne, nodes, nodesOfAll]
    decide +kernel
  · rw [evaluateRows_of_parse parsed]
    cbv

end Formula

end Gridbook
