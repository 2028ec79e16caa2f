import Mathlib
import Gridbook.Formula.Evaluation
import Gridbook.Proofs.Formula.Parsing

/-! # Integers that are too long to be read

The one fault with which evaluation stops is an integer of more digits than are read. It is met
where the parser comes to it: the lexemes before it are those of a formula that could go on with an
operand. A syntax fault that stands before it is found first, and one behind it never.
-/

namespace Gridbook

namespace Formula

variable {before after behind lexemes : List Lexeme} {content : String} {fault : Fault}
  {formula : Formula} {formulas : List Formula} {tokens : List Token} {fuel depth : Nat}

theorem append_cons_eq_append_cons {α : Type} {a b : α} {l m r s : List α} (apart : a ≠ b)
    (same : l ++ a :: r = m ++ b :: s) :
    (∃ t, m = l ++ a :: t ∧ r = t ++ b :: s) ∨ ∃ t, l = m ++ b :: t ∧ s = t ++ a :: r := by
  obtain ⟨t, rfl, rest⟩ | ⟨t, rfl, rest⟩ := List.append_eq_append_iff.mp same
  · cases t with
    | nil => exact absurd (List.cons.inj rest).1 apart
    | cons first t =>
        obtain ⟨rfl, rfl⟩ := List.cons.inj rest
        exact .inl ⟨t, rfl, rfl⟩
  · cases t with
    | nil => exact absurd (List.cons.inj rest).1.symm apart
    | cons first t =>
        obtain ⟨rfl, rfl⟩ := List.cons.inj rest
        exact .inr ⟨t, rfl, rfl⟩

theorem split_tokens {first rest : List Lexeme} {lexeme : Lexeme}
    (shown : tokens.map Token.lexeme = first ++ lexeme :: rest) :
    ∃ used position more, tokens = used ++ ⟨lexeme, position⟩ :: more ∧
      used.map Token.lexeme = first ∧ more.map Token.lexeme = rest := by
  obtain ⟨used, _, rfl, shownFirst, shown⟩ := List.map_eq_append_iff.mp shown
  obtain ⟨⟨_, position⟩, more, rfl, rfl, shownRest⟩ := List.map_eq_cons_iff.mp shown
  exact ⟨used, position, more, rfl, shownFirst, shownRest⟩

/-- With so many steps the parsers stop at a text that is refused, if a string in its place would
be read. -/
structure StopsAt (content : String) (behind : List Lexeme) (fault : Fault) (fuel : Nat) : Prop where
  operand : ∀ {before after : List Lexeme} {formula : Formula} {tokens : List Token} {depth : Nat},
    Operand (before ++ .string "" :: after) formula →
      tokens.map Token.lexeme = before ++ .bare content :: behind →
        depth + formula.nesting ≤ maxNesting → 3 * (before.length + 1) ≤ fuel →
          parseOperand fuel depth tokens = .error fault
  argument : ∀ {before after : List Lexeme} {formula : Formula} {tokens : List Token} {depth : Nat},
    Argument (before ++ .string "" :: after) formula →
      tokens.map Token.lexeme = before ++ .bare content :: behind →
        depth + formula.nesting ≤ maxNesting → 3 * (before.length + 1) + 1 ≤ fuel →
          parseArgument fuel depth tokens = .error fault
  arguments : ∀ {before after : List Lexeme} {formulas : List Formula} {tokens : List Token}
      {depth : Nat} {function : String},
    Arguments (before ++ .string "" :: after) formulas →
      tokens.map Token.lexeme = before ++ .bare content :: behind →
        depth + nestingOfAll formulas ≤ maxNesting → 3 * (before.length + 1) + 2 ≤ fuel →
          parseArguments fuel depth function tokens = .error fault

theorem parseOperand_stops (ih : StopsAt content behind fault fuel)
    (ends : opensCall behind = false) (stands : ofBare content = .error fault)
    (spelled : Operand (before ++ .string "" :: after) formula)
    (shown : tokens.map Token.lexeme = before ++ .bare content :: behind)
    (within : depth + formula.nesting ≤ maxNesting) (enough : 3 * (before.length + 1) ≤ fuel + 1) :
    parseOperand (fuel + 1) depth tokens = .error fault := by
  generalize shape : before ++ .string "" :: after = lexemes at spelled
  cases spelled with
  | string text =>
      obtain ⟨rfl, -⟩ | ⟨-, none⟩ := List.append_eq_singleton_iff.mp shape
      · obtain ⟨⟨_, position⟩, rest, rfl, rfl, rfl⟩ := List.map_eq_cons_iff.mp shown
        rw [parseOperand_bare ends, stands]
        rfl
      · cases none
  | bare =>
      have among : Lexeme.string "" ∈ before ++ .string "" :: after := by simp
      simp [shape] at among
  | callNone named =>
      have among : Lexeme.string "" ∈ before ++ .string "" :: after := by simp
      simp [shape] at among
  | @call name inside arguments named spelled =>
      match before, shape with
      | [], shape => cases shape
      | [_], shape => cases shape
      | _ :: _ :: front, shape =>
          simp only [List.cons_append, List.cons.injEq] at shape
          obtain ⟨rfl, rfl, shape⟩ := shape
          obtain ⟨back, rfl, -⟩ | ⟨back, -, none⟩ := append_cons_eq_append_cons (by simp) shape
          case inr => cases back <;> cases none
          simp only [List.cons_append, List.map_eq_cons_iff] at shown
          obtain ⟨⟨_, position⟩, _, rfl, rfl, ⟨_, opened⟩, rest, rfl, rfl, shown⟩ := shown
          simp only [nesting] at within
          simp only [List.length_cons] at enough
          have stopped : parseArguments fuel (depth + 1) (Text.upper name) rest = .error fault :=
            ih.arguments spelled shown (by omega) (by omega)
          have begins : ∃ first others, rest = first :: others ∧
              beginsOperand first.lexeme = true := by
            obtain ⟨lexeme, others, first, begins⟩ := spelled.begins
            cases front with
            | nil =>
                obtain ⟨token, more, rfl, same, -⟩ := List.map_eq_cons_iff.mp shown
                exact ⟨token, more, rfl, by rw [same]; rfl⟩
            | cons =>
                obtain ⟨token, more, rfl, same, -⟩ := List.map_eq_cons_iff.mp shown
                obtain ⟨rfl, -⟩ := List.cons.inj first
                exact ⟨token, more, rfl, by rw [same]; exact begins⟩
          obtain ⟨first, others, rfl, begins⟩ := begins
          rw [parseOperand_call named (by omega) begins, stopped]
          rfl

theorem parseArgument_stops (ih : StopsAt content behind fault fuel)
    (spelled : Argument (before ++ .string "" :: after) formula)
    (shown : tokens.map Token.lexeme = before ++ .bare content :: behind)
    (within : depth + formula.nesting ≤ maxNesting) (enough : 3 * (before.length + 1) ≤ fuel) :
    parseArgument (fuel + 1) depth tokens = .error fault := by
  unfold parseArgument
  generalize shape : before ++ .string "" :: after = lexemes at spelled
  cases spelled with
  | operand spelled =>
      subst shape
      rw [ih.operand spelled shown within enough]
      rfl
  | @compare first second left right op spelledLeft spelledRight =>
      simp only [nesting] at within
      obtain ⟨rest, rfl, -⟩ | ⟨rest, rfl, rfl⟩ := append_cons_eq_append_cons (by simp) shape
      · rw [ih.operand spelledLeft shown (by omega) enough]
        rfl
      · -- the left side is read, and the right side stops
        rw [List.append_assoc, List.cons_append] at shown
        obtain ⟨used, position, more, rfl, shownLeft, shownRight⟩ := split_tokens shown
        have size := congrArg List.length shownLeft
        simp only [List.length_map, List.length_append, List.length_cons] at size enough
        have read : parseOperand fuel depth (used ++ ⟨.operator op, position⟩ :: more) =
            .ok (left, ⟨.operator op, position⟩ :: more) :=
          (readsGrammar fuel).operand spelledLeft shownLeft (by omega) (by omega) rfl
        have stopped : parseOperand fuel depth more = .error fault :=
          ih.operand spelledRight shownRight (by omega) (by omega)
        rw [read]
        simp only [bind, Except.bind]
        rw [stopped]

theorem parseArguments_stops {function : String} (ih : StopsAt content behind fault fuel)
    (spelled : Arguments (before ++ .string "" :: after) formulas)
    (shown : tokens.map Token.lexeme = before ++ .bare content :: behind)
    (within : depth + nestingOfAll formulas ≤ maxNesting)
    (enough : 3 * (before.length + 1) + 1 ≤ fuel) :
    parseArguments (fuel + 1) depth function tokens = .error fault := by
  unfold parseArguments
  generalize shape : before ++ .string "" :: after = lexemes at spelled
  cases spelled with
  | last spelled =>
      subst shape
      simp only [nestingOfAll] at within
      rw [ih.argument spelled shown (by omega) enough]
      rfl
  | @more first second argument arguments spelled spelledRest =>
      simp only [nestingOfAll] at within
      obtain ⟨rest, rfl, -⟩ | ⟨rest, rfl, rfl⟩ := append_cons_eq_append_cons (by simp) shape
      · rw [ih.argument spelled shown (by omega) enough]
        rfl
      · rw [List.append_assoc, List.cons_append] at shown
        obtain ⟨used, position, more, rfl, shownFirst, shownRest⟩ := split_tokens shown
        have size := congrArg List.length shownFirst
        simp only [List.length_map, List.length_append, List.length_cons] at size enough
        have read : parseArgument fuel depth (used ++ ⟨.comma, position⟩ :: more) =
            .ok (argument, ⟨.comma, position⟩ :: more) :=
          (readsGrammar fuel).argument spelled shownFirst (by omega) (by omega) rfl
        have stopped : parseArguments fuel depth function more = .error fault :=
          ih.arguments spelledRest shownRest (by omega) (by omega)
        rw [read]
        simp only [bind, Except.bind]
        rw [stopped]

theorem stopsAt (ends : opensCall behind = false) (stands : ofBare content = .error fault)
    (fuel : Nat) : StopsAt content behind fault fuel := by
  induction fuel with
  | zero =>
      constructor
      · intro before after formula tokens depth spelled shown within enough
        omega
      · intro before after formula tokens depth spelled shown within enough
        omega
      · intro before after formulas tokens depth function spelled shown within enough
        omega
  | succ fuel ih =>
      constructor
      · exact parseOperand_stops ih ends stands
      · intro before after formula tokens depth spelled shown within enough
        exact parseArgument_stops ih spelled shown within (by omega)
      · intro before after formulas tokens depth function spelled shown within enough
        exact parseArguments_stops ih spelled shown within (by omega)

theorem ofTokens_of_refused
    (refused : Refused (fun lexemes formula => Argument lexemes formula ∧
      formula.nesting ≤ maxNesting) (tokens.map Token.lexeme) fault) :
    ofTokens tokens = .error fault := by
  obtain ⟨before, content, behind, after, formula, shown, ends, stands, spelled, within⟩ := refused
  have size := congrArg List.length shown
  simp only [List.length_map, List.length_append, List.length_cons] at size
  have stopped : parseArgument (3 * tokens.length + 3) 0 tokens = .error fault :=
    (stopsAt ends stands _).argument spelled shown (by omega) (by omega)
  rw [ofTokens, stopped]
  rfl

/-- A formula's text comes to an integer of so many digits, which are more than are read: the
lexemes before it are those of a formula that has an operand in its place and whose calls nest no
deeper than they may. -/
def Overlong (text : String) (count : Nat) : Prop :=
  ∃ tokens before content behind negative digits after formula,
    Token.ofFormula (body text) = .ok tokens ∧
    tokens.map Token.lexeme = before ++ .bare content :: behind ∧ opensCall behind = false ∧
    Numeral.integer? (dropLineEnd content.toList) = some (negative, digits) ∧
    digits.length = count ∧ 4300 < count ∧
    Argument (before ++ .string "" :: after) formula ∧ formula.nesting ≤ 100

theorem filled_of_tokens {text : String} (tokenized : Token.ofFormula (body text) = .ok tokens)
    (shown : tokens.map Token.lexeme = before ++ .bare content :: behind) :
    (Text.trim (body text)).isEmpty = false := by
  rw [Bool.eq_false_iff]
  intro empty
  have blank : ∀ c ∈ (body text).toList, Text.isBlank c = true := by
    refine Text.trimChars_eq_nil_iff.mp ?_
    simpa [Text.trim] using empty
  have cuts : Token.Cuts (body text).toList [.stop] := by
    simpa using Token.Cuts.nil.blanks blank
  obtain ⟨_, cut, only⟩ := cuts 0
  cases tokenized.symm.trans cut
  have among : Lexeme.bare content ∈ [Lexeme.stop] := by simp [← only, shown]
  simp at among

theorem ofBare_overlong {negative : Bool} {digits : List Nat}
    (spells : Numeral.integer? (dropLineEnd content.toList) = some (negative, digits))
    (long : 4300 < digits.length) : ofBare content = .error (.numeralTooLong digits.length) := by
  simp only [ofBare, spells]
  exact if_pos long

theorem parse_error_iff {text : String} {fault : Fault} :
    (parse text = .error fault ∧ ∀ trouble, fault ≠ .formula trouble) ↔
      ∃ count, Overlong text count ∧ fault = .numeralTooLong count := by
  constructor
  · rintro ⟨stopped, other⟩
    unfold parse at stopped
    split at stopped
    · cases stopped
      exact absurd rfl (other _)
    · split at stopped
      · rename_i tokens tokenized
        obtain ⟨trouble, rfl⟩ | ⟨before, content, behind, after, formula, shown, ends, stands,
          spelled, within⟩ := ofTokens_refused stopped
        · exact absurd rfl (other _)
        · obtain ⟨negative, digits, spells, long, rfl⟩ := ofBare_error stands
          exact ⟨_, ⟨tokens, before, content, behind, negative, digits, after, formula, tokenized,
            shown, ends, spells, rfl, long, spelled, within⟩, rfl⟩
      · cases stopped
        exact absurd rfl (other _)
  · rintro ⟨count, ⟨tokens, before, content, behind, negative, digits, after, formula, tokenized,
      shown, ends, spells, rfl, long, spelled, within⟩, rfl⟩
    refine ⟨?_, by simp⟩
    have refused := ofTokens_of_refused ⟨before, content, behind, after, formula, shown, ends,
      ofBare_overlong spells long, spelled, within⟩
    rw [parse, filled_of_tokens tokenized shown, tokenized]
    exact refused

theorem nameable_of_digits {s : List Char} (filled : s ≠ []) (each : ∀ c ∈ s, c.isDigit = true) :
    Token.Nameable s :=
  nameable_of_wordChars filled fun c among =>
    .inl (by simp [isWordChar, Char.isAlphanum, each c among])

theorem overlong_of_digits {s : List Char} (each : ∀ c ∈ s, c.isDigit = true)
    (long : 4300 < s.length) : Overlong (String.ofList s) s.length := by
  have filled : s ≠ [] := by
    rintro rfl
    cases long
  have nameable := nameable_of_digits filled each
  have shape : body (String.ofList s) = String.ofList s := by
    obtain ⟨c, rest, rfl, -⟩ := nameable.solid.first
    have noEqual : c ≠ '=' := ne_of_isDigit (each c List.mem_cons_self) (by decide)
    simp [body, nameable.solid.trimChars_self, noEqual]
  have cuts : Token.Cuts (s ++ ([] ++ [])) [.bare (String.ofList s), .stop] :=
    .bare nameable (List.forall_mem_nil _) rfl (by simp) .nil
  obtain ⟨tokens, tokenized, shown⟩ := cuts 0
  have spells : Numeral.integer? s = some (false, s.map fun c => c.toNat - 48) := by
    have unsigned : Numeral.sign s = (false, s) := by
      obtain ⟨c, rest, rfl, -⟩ := nameable.solid.first
      have noMinus : c ≠ '-' := ne_of_isDigit (each c List.mem_cons_self) (by decide)
      have noPlus : c ≠ '+' := ne_of_isDigit (each c List.mem_cons_self) (by decide)
      simp [Numeral.sign, noMinus, noPlus]
    rw [Numeral.integer?_eq_some_iff, unsigned]
    exact ⟨by simpa using filled, rfl, Numeral.digitRun_digits each⟩
  refine ⟨tokens, [], String.ofList s, [.stop], false, s.map fun c => c.toNat - 48, [],
    .literal (.text ""), ?_, shown, rfl, ?_, by simp, long, .operand (.string ""), by decide⟩
  · rw [shape, Token.ofFormula, String.toList_ofList]
    simpa using tokenized
  · rw [String.toList_ofList, dropLineEnd_of_solid nameable.solid, spells]

end Formula

end Gridbook
