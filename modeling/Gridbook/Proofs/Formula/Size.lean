import Mathlib
import Gridbook.Proofs.Formula.Parsing

/-! # How large formulas get

A formula is no larger than its text: each node and each character of a string was written. The
calls of a parsed formula nest at most a hundred deep.
-/

namespace Gridbook

/-- How many nodes a lexeme can give, with the characters of a string. -/
def Lexeme.size : Lexeme → Nat
  | .string content => content.length + 1
  | .stop => 0
  | _ => 1

/-- The characters of a literal, with the literal itself. -/
def Literal.size : Literal → Nat
  | .text s => s.length + 1
  | _ => 1

namespace Formula

mutual

/-- How many nodes a formula has, with the characters of its strings. -/
def size : Formula → Nat
  | .literal value => value.size
  | .column _ => 1
  | .call _ arguments => sizeOfAll arguments + 1
  | .compare left _ right => size left + size right + 1

def sizeOfAll : List Formula → Nat
  | [] => 0
  | formula :: rest => size formula + sizeOfAll rest

end

end Formula

namespace Token

def sizeOfAll (lexemes : List Lexeme) : Nat :=
  (lexemes.map Lexeme.size).sum

@[simp] theorem sizeOfAll_nil : sizeOfAll [] = 0 := rfl

@[simp] theorem sizeOfAll_cons (lexeme : Lexeme) (lexemes : List Lexeme) :
    sizeOfAll (lexeme :: lexemes) = lexeme.size + sizeOfAll lexemes := by
  simp [sizeOfAll]

@[simp] theorem sizeOfAll_append (lexemes lexemes' : List Lexeme) :
    sizeOfAll (lexemes ++ lexemes') = sizeOfAll lexemes + sizeOfAll lexemes' := by
  simp [sizeOfAll]

theorem length_le_doubled (content : List Char) : content.length ≤ (doubled content).length := by
  induction content with
  | nil => exact Nat.le_refl 0
  | cons c content ih =>
      rw [doubled, List.flatMap_cons, ← doubled, List.length_append, List.length_cons]
      split <;> simp only [List.length_cons, List.length_nil] <;> omega

theorem CutOff.size_le {lexeme : Lexeme} {gap rest : List Char} (off : CutOff lexeme gap rest) :
    lexeme.size ≤ lexeme.written.length := by
  have some := List.length_pos_iff.mpr off.filled
  cases lexeme with
  | string content =>
      have inner := length_le_doubled content.toList
      rw [String.length_toList] at inner
      simp only [Lexeme.size, Lexeme.written, List.length_cons, List.length_append]
      omega
  | stop => exact Nat.zero_le _
  | _ => exact some

theorem sizeOfAll_cut {s : List Char} {tokens : List Token} {position : Nat}
    (done : cut position s = .ok tokens) : sizeOfAll (tokens.map Token.lexeme) ≤ s.length := by
  induction position, s using cut_induct generalizing tokens with
  | stop position stop =>
      cases done.symm.trans stop
      exact Nat.le_refl 0
  | blank position c rest isBlank step ih =>
      exact (ih (step.symm.trans done)).trans (Nat.le_succ _)
  | unclosed position content stopped => cases done.symm.trans stopped
  | token position lexeme gap rest off step ih =>
      obtain ⟨behind, later, done⟩ := bind_ok_iff.mp (step.symm.trans done)
      cases done
      have first := off.size_le
      have others := ih later
      simp only [List.map_cons, sizeOfAll_cons, List.length_append]
      omega

end Token

namespace Formula

theorem size_ofBare {content : String} {formula : Formula} (stands : ofBare content = .ok formula) :
    formula.size = 1 := by
  obtain ⟨n, rfl, -⟩ | ⟨x, rfl⟩ | ⟨rfl, -⟩ := ofBare_cases stands <;> rfl

open Token (sizeOfAll_cons sizeOfAll_append sizeOfAll_nil)

mutual

theorem Operand.size_le {lexemes : List Lexeme} {formula : Formula}
    (spelled : Operand lexemes formula) : formula.size ≤ Token.sizeOfAll lexemes := by
  cases spelled with
  | string content => exact Nat.le_refl _
  | bare stands =>
      rw [size_ofBare stands]
      exact Nat.le_refl _
  | callNone named => simp [size, sizeOfAll, Lexeme.size]
  | call named spelled =>
      have inside := spelled.size_le
      simp only [size, sizeOfAll_cons, sizeOfAll_append, Lexeme.size]
      omega
termination_by 2 * sizeOf formula
decreasing_by
  all_goals subst_vars
  all_goals simp +arith only [Formula.call.sizeOf_spec]

theorem Argument.size_le {lexemes : List Lexeme} {formula : Formula}
    (spelled : Argument lexemes formula) : formula.size ≤ Token.sizeOfAll lexemes := by
  cases spelled with
  | operand spelled => exact spelled.size_le
  | compare op spelledLeft spelledRight =>
      have left := spelledLeft.size_le
      have right := spelledRight.size_le
      simp only [size, sizeOfAll_cons, sizeOfAll_append, Lexeme.size]
      omega
termination_by 2 * sizeOf formula + 1
decreasing_by
  all_goals subst_vars
  all_goals simp +arith only [Formula.compare.sizeOf_spec]

theorem Arguments.size_le {lexemes : List Lexeme} {formulas : List Formula}
    (spelled : Arguments lexemes formulas) : sizeOfAll formulas ≤ Token.sizeOfAll lexemes := by
  cases spelled with
  | last spelled =>
      have only := spelled.size_le
      simp only [sizeOfAll]
      omega
  | more spelled spelledRest =>
      have first := spelled.size_le
      have later := spelledRest.size_le
      simp only [sizeOfAll, sizeOfAll_cons, sizeOfAll_append, Lexeme.size]
      omega
termination_by 2 * sizeOf formulas
decreasing_by
  all_goals subst_vars
  all_goals simp +arith only [List.cons.sizeOf_spec]

end

theorem length_body_le (text : String) : (body text).length ≤ text.length := by
  have trimmed := (Text.trimChars_sublist text.toList).length_le
  rw [String.length_toList] at trimmed
  unfold body
  simp only
  split <;> rename_i shape
  · rwa [String.length_ofList]
  · rw [String.length_ofList]
    rw [shape, List.length_cons] at trimmed
    omega
  · rwa [String.length_ofList]

/-- The formula that a text spells is no larger than the text, and its calls nest no deeper than
they may. -/
theorem size_of_parse {text : String} {formula : Formula} (parsed : parse text = .ok formula) :
    formula.size ≤ text.length ∧ formula.nesting ≤ maxNesting := by
  obtain ⟨front, last, tokenized, -, -, spelled, within⟩ := cut_of_parse parsed
  have short := Token.sizeOfAll_cut tokenized
  have whole := spelled.size_le
  have room := length_body_le text
  rw [List.map_append, sizeOfAll_append, String.length_toList] at short
  exact ⟨by omega, within⟩

end Formula

end Gridbook
