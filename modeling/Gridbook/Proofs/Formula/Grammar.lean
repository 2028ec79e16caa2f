import Gridbook.Formula.Parser

/-! # The grammar of formulas

Which lexemes spell which formula, without a parser. What follows an operand or an argument shows
that it ends there, so lexemes spell one formula at most.
-/

namespace Gridbook

namespace Formula

mutual

/-- A string, a bare text, or a call of a function that can be named. -/
inductive Operand : List Lexeme → Formula → Prop where
  | string (content : String) : Operand [.string content] (.literal (.text content))
  | bare {content : String} {formula : Formula} (stands : ofBare content = .ok formula) :
      Operand [.bare content] formula
  | callNone {name : String} (named : isFunctionName name = true) :
      Operand [.bare name, .openParen, .closeParen] (.call (Text.upper name) [])
  | call {name : String} {inside : List Lexeme} {arguments : List Formula}
      (named : isFunctionName name = true) (spelled : Arguments inside arguments) :
      Operand (.bare name :: .openParen :: (inside ++ [.closeParen]))
        (.call (Text.upper name) arguments)

/-- An operand or a comparison of two. -/
inductive Argument : List Lexeme → Formula → Prop where
  | operand {lexemes : List Lexeme} {formula : Formula} (spelled : Operand lexemes formula) :
      Argument lexemes formula
  | compare {before behind : List Lexeme} {left right : Formula} (op : Operator)
      (spelledLeft : Operand before left) (spelledRight : Operand behind right) :
      Argument (before ++ .operator op :: behind) (.compare left op right)

/-- Arguments with commas between them. -/
inductive Arguments : List Lexeme → List Formula → Prop where
  | last {lexemes : List Lexeme} {argument : Formula} (spelled : Argument lexemes argument) :
      Arguments lexemes [argument]
  | more {lexemes behind : List Lexeme} {argument : Formula} {rest : List Formula}
      (spelled : Argument lexemes argument) (spelledRest : Arguments behind rest) :
      Arguments (lexemes ++ .comma :: behind) (argument :: rest)

end

mutual

/-- How many calls stand inside each other where they do so most. -/
def nesting : Formula → Nat
  | .literal _ => 0
  | .column _ => 0
  | .call _ arguments => nestingOfAll arguments + 1
  | .compare left _ right => max (nesting left) (nesting right)

/-- The deepest nesting among several formulas. -/
def nestingOfAll : List Formula → Nat
  | [] => 0
  | formula :: rest => max (nesting formula) (nestingOfAll rest)

end

def beginsOperand : Lexeme → Bool
  | .string _ => true
  | .bare _ => true
  | _ => false

theorem Operand.begins {lexemes : List Lexeme} {formula : Formula}
    (spelled : Operand lexemes formula) :
    ∃ first rest, lexemes = first :: rest ∧ beginsOperand first = true := by
  cases spelled with
  | string content => exact ⟨_, _, rfl, rfl⟩
  | bare stands => exact ⟨_, _, rfl, rfl⟩
  | callNone named => exact ⟨_, _, rfl, rfl⟩
  | call named spelled => exact ⟨_, _, rfl, rfl⟩

theorem Argument.begins {lexemes : List Lexeme} {formula : Formula}
    (spelled : Argument lexemes formula) :
    ∃ first rest, lexemes = first :: rest ∧ beginsOperand first = true := by
  cases spelled with
  | operand spelled => exact spelled.begins
  | compare op spelledLeft spelledRight =>
      obtain ⟨first, rest, rfl, begins⟩ := spelledLeft.begins
      exact ⟨first, _, rfl, begins⟩

theorem Arguments.begins {lexemes : List Lexeme} {formulas : List Formula}
    (spelled : Arguments lexemes formulas) :
    ∃ first rest, lexemes = first :: rest ∧ beginsOperand first = true := by
  cases spelled with
  | last spelled => exact spelled.begins
  | more spelled spelledRest =>
      obtain ⟨first, rest, rfl, begins⟩ := spelled.begins
      exact ⟨first, _, rfl, begins⟩

mutual

theorem Operand.stop_not_mem {lexemes : List Lexeme} {formula : Formula}
    (spelled : Operand lexemes formula) : .stop ∉ lexemes := by
  cases spelled with
  | string content => simp
  | bare stands => simp
  | callNone named => simp
  | call named spelled =>
      have inside := spelled.stop_not_mem
      simp [inside]
termination_by 2 * sizeOf formula
decreasing_by
  all_goals subst_vars
  all_goals simp +arith only [Formula.call.sizeOf_spec]

theorem Argument.stop_not_mem {lexemes : List Lexeme} {formula : Formula}
    (spelled : Argument lexemes formula) : .stop ∉ lexemes := by
  cases spelled with
  | operand spelled => exact spelled.stop_not_mem
  | compare op spelledLeft spelledRight =>
      have left := spelledLeft.stop_not_mem
      have right := spelledRight.stop_not_mem
      simp [left, right]
termination_by 2 * sizeOf formula + 1
decreasing_by
  all_goals subst_vars
  all_goals simp +arith only [Formula.compare.sizeOf_spec]

theorem Arguments.stop_not_mem {lexemes : List Lexeme} {formulas : List Formula}
    (spelled : Arguments lexemes formulas) : .stop ∉ lexemes := by
  cases spelled with
  | last spelled => exact spelled.stop_not_mem
  | more spelled spelledRest =>
      have first := spelled.stop_not_mem
      have later := spelledRest.stop_not_mem
      simp [first, later]
termination_by 2 * sizeOf formulas
decreasing_by
  all_goals subst_vars
  all_goals simp +arith only [List.cons.sizeOf_spec]

end

/-- Whether a bare text would be the name of a function before these lexemes. -/
def opensCall : List Lexeme → Bool
  | .openParen :: _ => true
  | _ => false

/-- Whether an argument would go on with these lexemes. -/
def goesOn : List Lexeme → Bool
  | .openParen :: _ => true
  | .operator _ :: _ => true
  | _ => false

theorem opensCall_of_goesOn {lexemes : List Lexeme} (ends : goesOn lexemes = false) :
    opensCall lexemes = false := by
  unfold opensCall
  split
  · cases ends
  · rfl

mutual

theorem Operand.unique {lexemes lexemes' rest rest' : List Lexeme} {formula formula' : Formula}
    (spelled : Operand lexemes formula) (spelled' : Operand lexemes' formula')
    (same : lexemes ++ rest = lexemes' ++ rest') (ends : opensCall rest = false)
    (ends' : opensCall rest' = false) : formula = formula' ∧ rest = rest' := by
  cases spelled with
  | string content =>
      cases spelled' with
      | string content' => simpa using same
      | bare | callNone | call => simp at same
  | bare stands =>
      cases spelled' with
      | string content' => simp at same
      | bare stands' =>
          simp only [List.cons_append, List.nil_append, List.cons.injEq, Lexeme.bare.injEq] at same
          obtain ⟨rfl, rfl⟩ := same
          exact ⟨Except.ok.inj (stands.symm.trans stands'), rfl⟩
      | callNone named' | call named' inside' =>
          -- the other side calls a function where this one has ended
          obtain ⟨-, rfl⟩ := List.cons.inj same
          cases ends
  | callNone named =>
      cases spelled' with
      | string content' => simp at same
      | bare stands' =>
          obtain ⟨-, rfl⟩ := List.cons.inj same
          cases ends'
      | callNone named' =>
          simp only [List.cons_append, List.nil_append, List.cons.injEq, Lexeme.bare.injEq,
            true_and] at same
          obtain ⟨rfl, rfl⟩ := same
          exact ⟨rfl, rfl⟩
      | call named' inside' =>
          obtain ⟨first, others, rfl, begins⟩ := inside'.begins
          simp only [List.cons_append, List.cons.injEq] at same
          obtain ⟨-, -, rfl, -⟩ := same
          cases begins
  | call named inside =>
      cases spelled' with
      | string content' => simp at same
      | bare stands' =>
          obtain ⟨-, rfl⟩ := List.cons.inj same
          cases ends'
      | callNone named' =>
          obtain ⟨first, others, rfl, begins⟩ := inside.begins
          simp only [List.cons_append, List.cons.injEq] at same
          obtain ⟨-, -, rfl, -⟩ := same
          cases begins
      | call named' inside' =>
          simp only [List.cons_append, List.append_assoc, List.nil_append, List.cons.injEq,
            Lexeme.bare.injEq, true_and] at same
          obtain ⟨rfl, same⟩ := same
          obtain ⟨rfl, rfl⟩ := inside.unique inside' same
          exact ⟨rfl, rfl⟩
termination_by 2 * sizeOf formula
decreasing_by
  all_goals subst_vars
  all_goals simp +arith only [Formula.call.sizeOf_spec]

theorem Argument.unique {lexemes lexemes' rest rest' : List Lexeme} {formula formula' : Formula}
    (spelled : Argument lexemes formula) (spelled' : Argument lexemes' formula')
    (same : lexemes ++ rest = lexemes' ++ rest') (ends : goesOn rest = false)
    (ends' : goesOn rest' = false) : formula = formula' ∧ rest = rest' := by
  cases spelled with
  | operand spelled =>
      cases spelled' with
      | operand spelled' =>
          exact spelled.unique spelled' same (opensCall_of_goesOn ends) (opensCall_of_goesOn ends')
      | compare op' left' right' =>
          rw [List.append_assoc, List.cons_append] at same
          obtain ⟨-, rfl⟩ := spelled.unique left' same (opensCall_of_goesOn ends) rfl
          cases ends
  | compare op left right =>
      rw [List.append_assoc, List.cons_append] at same
      cases spelled' with
      | operand spelled' =>
          obtain ⟨-, rfl⟩ := left.unique spelled' same rfl (opensCall_of_goesOn ends')
          cases ends'
      | compare op' left' right' =>
          rw [List.append_assoc, List.cons_append] at same
          obtain ⟨rfl, tails⟩ := left.unique left' same rfl rfl
          simp only [List.cons.injEq, Lexeme.operator.injEq] at tails
          obtain ⟨rfl, tails⟩ := tails
          obtain ⟨rfl, rfl⟩ :=
            right.unique right' tails (opensCall_of_goesOn ends) (opensCall_of_goesOn ends')
          exact ⟨rfl, rfl⟩
termination_by 2 * sizeOf formula + 1
decreasing_by
  all_goals subst_vars
  all_goals simp +arith only [Formula.compare.sizeOf_spec]

theorem Arguments.unique {lexemes lexemes' rest rest' : List Lexeme}
    {formulas formulas' : List Formula}
    (spelled : Arguments lexemes formulas) (spelled' : Arguments lexemes' formulas')
    (same : lexemes ++ .closeParen :: rest = lexemes' ++ .closeParen :: rest') :
    formulas = formulas' ∧ rest = rest' := by
  cases spelled with
  | last spelled =>
      cases spelled' with
      | last spelled' =>
          obtain ⟨rfl, tails⟩ := spelled.unique spelled' same rfl rfl
          exact ⟨rfl, (List.cons.inj tails).2⟩
      | more spelled' later' =>
          rw [List.append_assoc, List.cons_append] at same
          obtain ⟨-, tails⟩ := spelled.unique spelled' same rfl rfl
          cases tails
  | more spelled later =>
      rw [List.append_assoc, List.cons_append] at same
      cases spelled' with
      | last spelled' =>
          obtain ⟨-, tails⟩ := spelled.unique spelled' same rfl rfl
          cases tails
      | more spelled' later' =>
          rw [List.append_assoc, List.cons_append] at same
          obtain ⟨rfl, tails⟩ := spelled.unique spelled' same rfl rfl
          obtain ⟨rfl, rfl⟩ := later.unique later' (List.cons.inj tails).2
          exact ⟨rfl, rfl⟩
termination_by 2 * sizeOf formulas
decreasing_by
  all_goals subst_vars
  all_goals simp +arith only [List.cons.sizeOf_spec]

end

end Formula

end Gridbook
