import Gridbook.Proofs.Escape
import Gridbook.Proofs.Formula.Bare
import Gridbook.Proofs.Formula.Grammar

/-! # What the parser reads

The parser reads an argument exactly where the grammar has one with calls that do not nest too deep,
and otherwise finds a syntax fault. It takes fewer steps than it is given.
-/

namespace Gridbook

namespace Formula

variable {lexemes : List Lexeme} {formula : Formula} {formulas : List Formula}
  {tokens rest : List Token} {fuel depth : Nat}

theorem bind_congr_ok {α β : Type} {x : Except Fault α} {f g : α → Except Fault β}
    (same : ∀ a, x = .ok a → f a = g a) : x >>= f = x >>= g := by
  cases x with
  | ok a => exact same a rfl
  | error fault => rfl

theorem nesting_ofBare {content : String} (stands : ofBare content = .ok formula) :
    formula.nesting = 0 := by
  obtain ⟨n, rfl, -⟩ | ⟨x, rfl⟩ | ⟨rfl, -⟩ := ofBare_cases stands
  · rfl
  · rfl
  · rfl

theorem parseOperand_bare {content : String} {position : Nat}
    (ends : opensCall (rest.map Token.lexeme) = false) :
    parseOperand (fuel + 1) depth (⟨.bare content, position⟩ :: rest) =
      (do return (← ofBare content, rest)) := by
  cases rest with
  | nil => rfl
  | cons token rest =>
      obtain ⟨lexeme, after⟩ := token
      cases lexeme with
      | openParen => cases ends
      | string | bare | closeParen | comma | operator | stop => rfl

theorem parseOperand_call {name : String} {position opened : Nat} {first : Token}
    (named : isFunctionName name = true) (shallow : depth < maxNesting)
    (begins : beginsOperand first.lexeme = true) :
    parseOperand (fuel + 1) depth
        (⟨.bare name, position⟩ :: ⟨.openParen, opened⟩ :: first :: rest) =
      (do
        let (arguments, tail) ← parseArguments fuel (depth + 1) (Text.upper name) (first :: rest)
        return (.call (Text.upper name) arguments, tail)) := by
  obtain ⟨lexeme, after⟩ := first
  cases lexeme with
  | string | bare => simp [parseOperand, named, Nat.not_le.mpr shallow]
  | openParen | closeParen | comma | operator | stop => cases begins

/-- With so many steps the parsers read what the grammar has, up to where it ends. An operand takes
three steps a token at most, and an argument and an argument list one and two more. -/
structure ReadsGrammar (fuel : Nat) : Prop where
  operand : ∀ {lexemes : List Lexeme} {formula : Formula} {tokens rest : List Token} {depth : Nat},
    Operand lexemes formula → tokens.map Token.lexeme = lexemes →
      depth + formula.nesting ≤ maxNesting → 3 * tokens.length ≤ fuel →
        opensCall (rest.map Token.lexeme) = false →
          parseOperand fuel depth (tokens ++ rest) = .ok (formula, rest)
  argument : ∀ {lexemes : List Lexeme} {formula : Formula} {tokens rest : List Token} {depth : Nat},
    Argument lexemes formula → tokens.map Token.lexeme = lexemes →
      depth + formula.nesting ≤ maxNesting → 3 * tokens.length + 1 ≤ fuel →
        goesOn (rest.map Token.lexeme) = false →
          parseArgument fuel depth (tokens ++ rest) = .ok (formula, rest)
  arguments : ∀ {lexemes : List Lexeme} {formulas : List Formula} {tokens rest : List Token}
      {depth closed : Nat} {function : String},
    Arguments lexemes formulas → tokens.map Token.lexeme = lexemes →
      depth + nestingOfAll formulas ≤ maxNesting → 3 * tokens.length + 2 ≤ fuel →
        parseArguments fuel depth function (tokens ++ ⟨.closeParen, closed⟩ :: rest) =
          .ok (formulas, rest)

theorem parseOperand_spelled (ih : ReadsGrammar fuel) (spelled : Operand lexemes formula)
    (shown : tokens.map Token.lexeme = lexemes) (within : depth + formula.nesting ≤ maxNesting)
    (enough : 3 * tokens.length ≤ fuel + 1) (ends : opensCall (rest.map Token.lexeme) = false) :
    parseOperand (fuel + 1) depth (tokens ++ rest) = .ok (formula, rest) := by
  cases spelled with
  | string content =>
      obtain ⟨⟨_, position⟩, _, rfl, rfl, more⟩ := List.map_eq_cons_iff.mp shown
      obtain rfl := List.map_eq_nil_iff.mp more
      rfl
  | bare stands =>
      obtain ⟨⟨_, position⟩, _, rfl, rfl, more⟩ := List.map_eq_cons_iff.mp shown
      obtain rfl := List.map_eq_nil_iff.mp more
      rw [List.cons_append, List.nil_append, parseOperand_bare ends, stands]
      rfl
  | callNone named =>
      simp only [List.map_eq_cons_iff, List.map_eq_nil_iff] at shown
      obtain ⟨⟨_, position⟩, _, rfl, rfl, ⟨_, opened⟩, _, rfl, rfl, ⟨_, closed⟩, _, rfl, rfl,
        rfl⟩ := shown
      have shallow : ¬ maxNesting ≤ depth := by
        simp only [nesting, nestingOfAll] at within
        omega
      simp [parseOperand, named, shallow]
  | @call name _ arguments named spelled =>
      simp only [List.map_eq_cons_iff, List.map_eq_append_iff, List.map_eq_nil_iff] at shown
      obtain ⟨⟨_, position⟩, _, rfl, rfl, ⟨_, opened⟩, _, rfl, rfl, inside, _, rfl, shown,
        ⟨_, closed⟩, _, rfl, rfl, rfl⟩ := shown
      simp only [nesting] at within
      simp only [List.length_cons, List.length_append] at enough
      have read : parseArguments fuel (depth + 1) (Text.upper name)
          (inside ++ ⟨.closeParen, closed⟩ :: rest) = .ok (arguments, rest) :=
        ih.arguments spelled shown (by omega) (by omega)
      obtain ⟨_, _, rfl, begins⟩ := spelled.begins
      obtain ⟨first, others, rfl, rfl, -⟩ := List.map_eq_cons_iff.mp shown
      simp only [List.cons_append, List.append_assoc, List.nil_append] at read ⊢
      rw [parseOperand_call named (by omega) begins, read]
      rfl

theorem parseArgument_spelled (ih : ReadsGrammar fuel) (spelled : Argument lexemes formula)
    (shown : tokens.map Token.lexeme = lexemes) (within : depth + formula.nesting ≤ maxNesting)
    (enough : 3 * tokens.length ≤ fuel) (ends : goesOn (rest.map Token.lexeme) = false) :
    parseArgument (fuel + 1) depth (tokens ++ rest) = .ok (formula, rest) := by
  unfold parseArgument
  cases spelled with
  | operand spelled =>
      rw [ih.operand spelled shown within enough (opensCall_of_goesOn ends)]
      simp only [bind, Except.bind]
      split
      · cases ends
      · rfl
  | @compare _ _ left right op spelledLeft spelledRight =>
      simp only [List.map_eq_cons_iff, List.map_eq_append_iff] at shown
      obtain ⟨before, _, rfl, shownLeft, ⟨_, position⟩, behind, rfl, rfl, shownRight⟩ := shown
      simp only [nesting] at within
      simp only [List.length_cons, List.length_append] at enough
      have readLeft : parseOperand fuel depth
          (before ++ ⟨.operator op, position⟩ :: (behind ++ rest)) =
            .ok (left, ⟨.operator op, position⟩ :: (behind ++ rest)) :=
        ih.operand spelledLeft shownLeft (by omega) (by omega) rfl
      have readRight : parseOperand fuel depth (behind ++ rest) = .ok (right, rest) :=
        ih.operand spelledRight shownRight (by omega) (by omega) (opensCall_of_goesOn ends)
      rw [List.append_assoc, List.cons_append, readLeft]
      simp only [bind, Except.bind]
      rw [readRight]
      rfl

theorem parseArguments_spelled {closed : Nat} {function : String} (ih : ReadsGrammar fuel)
    (spelled : Arguments lexemes formulas) (shown : tokens.map Token.lexeme = lexemes)
    (within : depth + nestingOfAll formulas ≤ maxNesting) (enough : 3 * tokens.length + 1 ≤ fuel) :
    parseArguments (fuel + 1) depth function (tokens ++ ⟨.closeParen, closed⟩ :: rest) =
      .ok (formulas, rest) := by
  unfold parseArguments
  cases spelled with
  | @last _ argument spelled =>
      simp only [nestingOfAll] at within
      have read : parseArgument fuel depth (tokens ++ ⟨.closeParen, closed⟩ :: rest) =
          .ok (argument, ⟨.closeParen, closed⟩ :: rest) :=
        ih.argument spelled shown (by omega) enough rfl
      rw [read]
      rfl
  | @more _ _ argument arguments spelled spelledRest =>
      simp only [List.map_eq_cons_iff, List.map_eq_append_iff] at shown
      obtain ⟨before, _, rfl, shown, ⟨_, position⟩, behind, rfl, rfl, shownRest⟩ := shown
      simp only [nestingOfAll] at within
      simp only [List.length_cons, List.length_append] at enough
      have read : parseArgument fuel depth
          (before ++ ⟨.comma, position⟩ :: (behind ++ ⟨.closeParen, closed⟩ :: rest)) =
            .ok (argument, ⟨.comma, position⟩ :: (behind ++ ⟨.closeParen, closed⟩ :: rest)) :=
        ih.argument spelled shown (by omega) (by omega) rfl
      have readRest : parseArguments fuel depth function
          (behind ++ ⟨.closeParen, closed⟩ :: rest) = .ok (arguments, rest) :=
        ih.arguments spelledRest shownRest (by omega) (by omega)
      rw [List.append_assoc, List.cons_append, read]
      simp only [bind, Except.bind]
      rw [readRest]
      rfl

theorem readsGrammar (fuel : Nat) : ReadsGrammar fuel := by
  induction fuel with
  | zero =>
      constructor
      · intro lexemes formula tokens rest depth spelled shown within enough
        -- no operand is empty
        obtain ⟨first, others, rfl, -⟩ := spelled.begins
        obtain ⟨token, more, rfl, -⟩ := List.map_eq_cons_iff.mp shown
        simp at enough
      · intro lexemes formula tokens rest depth spelled shown within enough
        omega
      · intro lexemes formulas tokens rest depth closed function spelled shown within enough
        omega
  | succ fuel ih =>
      constructor
      · exact parseOperand_spelled ih
      · intro lexemes formula tokens rest depth spelled shown within enough
        exact parseArgument_spelled ih spelled shown within (by omega)
      · intro lexemes formulas tokens rest depth closed function spelled shown within enough
        exact parseArguments_spelled ih spelled shown within (by omega)

/-- A bare text that stands for nothing is met where an operand may stand: a string in its place,
with the right lexemes behind, would be read. -/
def Refused {α : Type} (spells : List Lexeme → α → Prop) (lexemes : List Lexeme) (fault : Fault) :
    Prop :=
  ∃ before content behind after a, lexemes = before ++ .bare content :: behind ∧
    opensCall behind = false ∧ ofBare content = .error fault ∧
      spells (before ++ .string "" :: after) a

/-- An outcome of reading the first of some tokens: what they spell and the tokens after them, or a
syntax fault, or the fault of a bare text that is refused. -/
def Reads {α : Type} (spells : List Lexeme → α → Prop) (tokens : List Token) :
    Except Fault (α × List Token) → Prop
  | .ok (a, rest) => ∃ used, tokens = used ++ rest ∧ spells (used.map Token.lexeme) a
  | .error fault => (∃ trouble, fault = .formula trouble) ∨
      Refused spells (tokens.map Token.lexeme) fault

/-- What is read first stands before what is read next, and where the first could be completed the
whole could be. -/
theorem Reads.bind {α β : Type} {spells : List Lexeme → α → Prop} {spells' : List Lexeme → β → Prop}
    {before : List Token} {outcome : Except Fault (α × List Token)}
    {next : α × List Token → Except Fault (β × List Token)} (place : tokens = before ++ rest)
    (first : Reads spells rest outcome)
    (completes : ∀ {front after a}, spells (front ++ .string "" :: after) a →
      ∃ after' b, spells' (before.map Token.lexeme ++ front ++ .string "" :: after') b)
    (later : ∀ a used behind, rest = used ++ behind → spells (used.map Token.lexeme) a →
      Reads spells' tokens (next (a, behind))) :
    Reads spells' tokens (outcome >>= next) := by
  cases outcome with
  | ok result =>
      obtain ⟨used, split, spelled⟩ := first
      exact later _ used _ split spelled
  | error fault =>
      obtain trouble | ⟨front, content, behind, after, a, shown, ends, stands, spelled⟩ := first
      · exact .inl trouble
      · obtain ⟨after', b, whole⟩ := completes spelled
        exact .inr ⟨_, content, behind, after', b, by simp [place, shown], ends, stands, whole⟩

/-- With so many steps the parsers read only what the grammar has. -/
structure KeepsGrammar (fuel : Nat) : Prop where
  operand : ∀ depth tokens,
    Reads (fun lexemes formula => Operand lexemes formula ∧ formula.nesting ≤ maxNesting - depth)
      tokens (parseOperand fuel depth tokens)
  argument : ∀ depth tokens,
    Reads (fun lexemes formula => Argument lexemes formula ∧ formula.nesting ≤ maxNesting - depth)
      tokens (parseArgument fuel depth tokens)
  arguments : ∀ depth function tokens,
    Reads (fun lexemes formulas => ∃ inside, lexemes = inside ++ [.closeParen] ∧
        Arguments inside formulas ∧ nestingOfAll formulas ≤ maxNesting - depth)
      tokens (parseArguments fuel depth function tokens)

theorem parseOperand_reads (ih : KeepsGrammar fuel) (depth : Nat) (tokens : List Token) :
    Reads (fun lexemes formula => Operand lexemes formula ∧ formula.nesting ≤ maxNesting - depth)
      tokens (parseOperand (fuel + 1) depth tokens) := by
  unfold parseOperand
  split
  · exact ⟨[_], rfl, .string _, Nat.zero_le _⟩
  · rename_i name position opened rest
    split
    · exact .inl ⟨_, rfl⟩
    · rename_i named
      split
      · exact .inl ⟨_, rfl⟩
      · split
        · refine ⟨[_, _, _], rfl, .callNone (by simpa using named), ?_⟩
          simp only [nesting, nestingOfAll]
          omega
        · have place : ⟨.bare name, position⟩ :: ⟨.openParen, opened⟩ :: rest =
              [⟨.bare name, position⟩, ⟨.openParen, opened⟩] ++ rest := rfl
          have called {inside : List Lexeme} {arguments : List Formula}
              (spelled : Arguments inside arguments)
              (within : nestingOfAll arguments ≤ maxNesting - (depth + 1)) :
              Operand (.bare name :: .openParen :: (inside ++ [.closeParen]))
                (.call (Text.upper name) arguments) ∧
              (Formula.call (Text.upper name) arguments).nesting ≤ maxNesting - depth := by
            refine ⟨.call (by simpa using named) spelled, ?_⟩
            simp only [nesting]
            omega
          refine Reads.bind place (ih.arguments _ _ _) ?_ ?_
          · rintro front after arguments ⟨inside, shown, spelled, within⟩
            refine ⟨after, .call (Text.upper name) arguments, ?_⟩
            simpa [shown] using called spelled within
          · rintro arguments used behind split ⟨inside, shown, spelled, within⟩
            refine ⟨⟨.bare name, position⟩ :: ⟨.openParen, opened⟩ :: used, by simp [split], ?_⟩
            rw [List.map_cons, List.map_cons, shown]
            exact called spelled within
  · rename_i content position rest noCall
    cases stands : ofBare content with
    | ok formula =>
        refine ⟨[_], rfl, .bare stands, ?_⟩
        rw [nesting_ofBare stands]
        exact Nat.zero_le _
    | error fault =>
        have ends : opensCall (rest.map Token.lexeme) = false := by
          unfold opensCall
          split
          · rename_i opens
            obtain ⟨⟨_, opened⟩, more, rfl, rfl, -⟩ := List.map_eq_cons_iff.mp opens
            exact (noCall opened more rfl).elim
          · rfl
        exact .inr ⟨[], content, _, [], .literal (.text ""), rfl, ends, stands, .string "",
          Nat.zero_le _⟩
  · exact .inl ⟨_, rfl⟩

theorem parseArgument_reads (ih : KeepsGrammar fuel) (depth : Nat) (tokens : List Token) :
    Reads (fun lexemes formula => Argument lexemes formula ∧ formula.nesting ≤ maxNesting - depth)
      tokens (parseArgument (fuel + 1) depth tokens) := by
  unfold parseArgument
  refine Reads.bind (List.nil_append _).symm (ih.operand depth tokens) ?_ ?_
  · rintro front after left ⟨spelledLeft, withinLeft⟩
    exact ⟨after, left, .operand spelledLeft, withinLeft⟩
  rintro left used rest split ⟨spelledLeft, withinLeft⟩
  simp only
  split
  · rename_i op position more
    have place : tokens = (used ++ [⟨.operator op, position⟩]) ++ more := by simp [split]
    refine Reads.bind place (ih.operand depth more) ?_ ?_
    · rintro front after right ⟨spelledRight, withinRight⟩
      refine ⟨after, .compare left op right, ?_, Nat.max_le.mpr ⟨withinLeft, withinRight⟩⟩
      simpa using Argument.compare op spelledLeft spelledRight
    · rintro right used' behind split' ⟨spelledRight, withinRight⟩
      refine ⟨used ++ ⟨.operator op, position⟩ :: used', by simp [split, split'], ?_, ?_⟩
      · rw [List.map_append, List.map_cons]
        exact .compare op spelledLeft spelledRight
      · exact Nat.max_le.mpr ⟨withinLeft, withinRight⟩
  · exact ⟨used, split, .operand spelledLeft, withinLeft⟩

theorem parseArguments_reads (ih : KeepsGrammar fuel) (depth : Nat) (function : String)
    (tokens : List Token) :
    Reads (fun lexemes formulas => ∃ inside, lexemes = inside ++ [.closeParen] ∧
        Arguments inside formulas ∧ nestingOfAll formulas ≤ maxNesting - depth)
      tokens (parseArguments (fuel + 1) depth function tokens) := by
  unfold parseArguments
  refine Reads.bind (List.nil_append _).symm (ih.argument depth tokens) ?_ ?_
  · rintro front after argument ⟨spelled, within⟩
    exact ⟨after ++ [.closeParen], [argument], _, by simp, .last spelled,
      Nat.max_le.mpr ⟨within, Nat.zero_le _⟩⟩
  rintro argument used rest split ⟨spelled, within⟩
  simp only
  split
  · rename_i closed tail
    refine ⟨used ++ [⟨.closeParen, closed⟩], by simp [split], used.map Token.lexeme, by simp,
      .last spelled, ?_⟩
    exact Nat.max_le.mpr ⟨within, Nat.zero_le _⟩
  · rename_i position more
    have place : tokens = (used ++ [⟨.comma, position⟩]) ++ more := by simp [split]
    refine Reads.bind place (ih.arguments depth function more) ?_ ?_
    · rintro front after arguments ⟨inside, shown, spelledRest, withinRest⟩
      exact ⟨after, argument :: arguments, used.map Token.lexeme ++ .comma :: inside,
        by simp [shown], .more spelled spelledRest, Nat.max_le.mpr ⟨within, withinRest⟩⟩
    · rintro arguments used' behind split' ⟨inside, shown, spelledRest, withinRest⟩
      refine ⟨used ++ ⟨.comma, position⟩ :: used', by simp [split, split'],
        used.map Token.lexeme ++ .comma :: inside, by simp [shown], .more spelled spelledRest, ?_⟩
      exact Nat.max_le.mpr ⟨within, withinRest⟩
  · exact .inl ⟨_, rfl⟩

theorem keepsGrammar (fuel : Nat) : KeepsGrammar fuel := by
  induction fuel with
  | zero =>
      constructor
      · intro depth tokens
        exact .inl ⟨_, rfl⟩
      · intro depth tokens
        exact .inl ⟨_, rfl⟩
      · intro depth function tokens
        exact .inl ⟨_, rfl⟩
  | succ fuel ih => exact ⟨parseOperand_reads ih, parseArgument_reads ih, parseArguments_reads ih⟩

theorem length_lt_of_reads {α : Type} {spells : List Lexeme → α → Prop} {a : α}
    (read : Reads spells tokens (.ok (a, rest)))
    (begins : ∀ {lexemes}, spells lexemes a →
      ∃ first others, lexemes = first :: others ∧ beginsOperand first = true) :
    rest.length < tokens.length := by
  obtain ⟨used, rfl, spelled⟩ := read
  obtain ⟨first, others, shown, -⟩ := begins spelled
  obtain ⟨token, more, rfl, -⟩ := List.map_eq_cons_iff.mp shown
  simp only [List.cons_append, List.length_cons, List.length_append]
  omega

theorem length_parseOperand (read : parseOperand fuel depth tokens = .ok (formula, rest)) :
    rest.length < tokens.length := by
  have sound := (keepsGrammar fuel).operand depth tokens
  rw [read] at sound
  exact length_lt_of_reads sound fun spelled => spelled.1.begins

theorem length_parseArgument (read : parseArgument fuel depth tokens = .ok (formula, rest)) :
    rest.length < tokens.length := by
  have sound := (keepsGrammar fuel).argument depth tokens
  rw [read] at sound
  exact length_lt_of_reads sound fun spelled => spelled.1.begins

/-- With so many steps one more step changes nothing. -/
structure Settles (fuel : Nat) : Prop where
  operand : ∀ depth tokens, 3 * tokens.length + 1 ≤ fuel →
    parseOperand (fuel + 1) depth tokens = parseOperand fuel depth tokens
  argument : ∀ depth tokens, 3 * tokens.length + 2 ≤ fuel →
    parseArgument (fuel + 1) depth tokens = parseArgument fuel depth tokens
  arguments : ∀ depth function tokens, 3 * tokens.length + 3 ≤ fuel →
    parseArguments (fuel + 1) depth function tokens = parseArguments fuel depth function tokens

theorem parseOperand_settles (ih : Settles fuel) (depth : Nat) (tokens : List Token)
    (enough : 3 * tokens.length ≤ fuel) :
    parseOperand (fuel + 2) depth tokens = parseOperand (fuel + 1) depth tokens := by
  unfold parseOperand
  split
  · rfl
  · rename_i name position opened rest
    simp only [List.length_cons] at enough
    simp only [ih.arguments (depth + 1) (Text.upper name) rest (by omega)]
  · simp only
  · rfl

theorem parseArgument_settles (ih : Settles fuel) (depth : Nat) (tokens : List Token)
    (enough : 3 * tokens.length + 1 ≤ fuel) :
    parseArgument (fuel + 2) depth tokens = parseArgument (fuel + 1) depth tokens := by
  unfold parseArgument
  rw [ih.operand depth tokens enough]
  refine bind_congr_ok ?_
  intro read ok
  obtain ⟨left, rest⟩ := read
  have shorter := length_parseOperand ok
  simp only
  split
  · simp only [List.length_cons] at shorter
    rw [ih.operand depth _ (by omega)]
  · rfl

theorem parseArguments_settles (ih : Settles fuel) (depth : Nat) (function : String)
    (tokens : List Token) (enough : 3 * tokens.length + 2 ≤ fuel) :
    parseArguments (fuel + 2) depth function tokens =
      parseArguments (fuel + 1) depth function tokens := by
  unfold parseArguments
  rw [ih.argument depth tokens enough]
  refine bind_congr_ok ?_
  intro read ok
  obtain ⟨argument, rest⟩ := read
  have shorter := length_parseArgument ok
  simp only
  split
  · rfl
  · simp only [List.length_cons] at shorter
    rw [ih.arguments depth function _ (by omega)]
  · rfl

theorem settles (fuel : Nat) : Settles fuel := by
  induction fuel with
  | zero =>
      constructor
      · intro depth tokens enough
        omega
      · intro depth tokens enough
        omega
      · intro depth function tokens enough
        omega
  | succ fuel ih =>
      constructor
      · intro depth tokens enough
        exact parseOperand_settles ih depth tokens (by omega)
      · intro depth tokens enough
        exact parseArgument_settles ih depth tokens (by omega)
      · intro depth function tokens enough
        exact parseArguments_settles ih depth function tokens (by omega)

theorem parseArgument_of_enough (enough : 3 * tokens.length + 2 ≤ fuel) (more : Nat) :
    parseArgument (fuel + more) depth tokens = parseArgument fuel depth tokens := by
  induction more with
  | zero => rfl
  | succ more ih =>
      rw [← Nat.add_assoc, (settles (fuel + more)).argument depth tokens (by omega), ih]

variable {front : List Token} {last : Token}

theorem eq_of_read_to_stop {used : List Token} (split : front ++ [last] = used ++ rest)
    (only : ∀ token ∈ front, token.lexeme ≠ .stop) (inside : .stop ∉ used.map Token.lexeme)
    (ends : last.lexeme = .stop) (stops : (firstToken rest).lexeme = .stop) : used = front := by
  obtain ⟨extra, used_eq, last_eq⟩ | ⟨extra, front_eq, rest_eq⟩ :=
    List.append_eq_append_iff.mp split
  · cases extra with
    | nil => simpa using used_eq
    | cons token others =>
        obtain ⟨rfl, -⟩ := List.cons.inj last_eq
        refine absurd ?_ inside
        rw [used_eq, ← ends]
        exact List.mem_map_of_mem (by simp)
  · cases extra with
    | nil => simpa using front_eq.symm
    | cons token others =>
        rw [rest_eq] at stops
        exact absurd stops (only token (by simp [front_eq]))

/-- A token list that ends in its only end of the formula spells what the grammar says, where calls
nest no deeper than they may. -/
theorem ofTokens_eq_ok_iff (ends : last.lexeme = .stop)
    (only : ∀ token ∈ front, token.lexeme ≠ .stop) :
    ofTokens (front ++ [last]) = .ok formula ↔
      Argument (front.map Token.lexeme) formula ∧ formula.nesting ≤ maxNesting := by
  unfold ofTokens
  constructor
  · intro parsed
    obtain ⟨⟨read, rest⟩, argument, parsed⟩ := bind_ok_iff.mp parsed
    have sound := (keepsGrammar (3 * (front ++ [last]).length + 3)).argument 0 (front ++ [last])
    rw [argument] at sound
    obtain ⟨used, split, spelled, within⟩ := sound
    simp only at parsed
    split at parsed
    · rename_i position stops
      cases parsed
      obtain rfl := eq_of_read_to_stop split only spelled.stop_not_mem ends (by rw [stops])
      exact ⟨spelled, within⟩
    · cases parsed
  · rintro ⟨spelled, within⟩
    have goes : goesOn ([last].map Token.lexeme) = false := by
      rw [List.map_singleton, ends]
      rfl
    have enough : 3 * front.length + 1 ≤ 3 * (front ++ [last]).length + 3 := by
      rw [List.length_append]
      omega
    have read : parseArgument (3 * (front ++ [last]).length + 3) 0 (front ++ [last]) =
        .ok (formula, [last]) :=
      (readsGrammar _).argument spelled rfl (by omega) enough goes
    rw [read]
    obtain ⟨lexeme, position⟩ := last
    cases ends
    rfl

theorem cut_of_parse {text : String} {formula : Formula} (parsed : parse text = .ok formula) :
    ∃ front last, Token.ofFormula (body text) = .ok (front ++ [last]) ∧ last.lexeme = .stop ∧
      (∀ token ∈ front, token.lexeme ≠ .stop ∧
        ∀ content, token.lexeme = .bare content → Token.Nameable content.toList) ∧
      Argument (front.map Token.lexeme) formula ∧ formula.nesting ≤ maxNesting := by
  unfold parse at parsed
  split at parsed
  case isTrue => cases parsed
  case isFalse =>
    split at parsed
    case h_2 => cases parsed
    case h_1 tokens tokenized =>
      obtain ⟨front, last, rfl, ends, each⟩ := Token.wellCut_cut tokenized
      obtain ⟨spelled, within⟩ :=
        (ofTokens_eq_ok_iff ends fun token among => (each token among).1).mp parsed
      exact ⟨front, last, tokenized, ends, each, spelled, within⟩

theorem ofTokens_refused {fault : Fault} (stopped : ofTokens tokens = .error fault) :
    (∃ trouble, fault = .formula trouble) ∨
      Refused (fun lexemes formula => Argument lexemes formula ∧ formula.nesting ≤ maxNesting)
        (tokens.map Token.lexeme) fault := by
  have sound := (keepsGrammar (3 * tokens.length + 3)).argument 0 tokens
  unfold ofTokens at stopped
  cases read : parseArgument (3 * tokens.length + 3) 0 tokens with
  | error fault' =>
      rw [read] at sound stopped
      cases stopped
      exact sound
  | ok result =>
      rw [read] at stopped
      simp only [bind, Except.bind] at stopped
      split at stopped
      · cases stopped
      · cases stopped
        exact .inl ⟨_, rfl⟩

theorem ofTokens_error {fault : Fault} (stopped : ofTokens tokens = .error fault) :
    (∃ trouble, fault = .formula trouble) ∨ ∃ token ∈ tokens,
      ∃ content, token.lexeme = .bare content ∧ ofBare content = .error fault := by
  refine (ofTokens_refused stopped).imp_right ?_
  rintro ⟨before, content, behind, -, -, shown, -, stands, -⟩
  have among : Lexeme.bare content ∈ tokens.map Token.lexeme := by simp [shown]
  obtain ⟨token, inTokens, same⟩ := List.mem_map.mp among
  exact ⟨token, inTokens, content, same, stands⟩

/-- A token list that ends in its only end of the formula, and has no integer too long to be read,
is parsed exactly where the grammar derives it with calls at most a hundred deep, to the one formula
of its derivations. Any other is a syntax fault. The parser stops by itself: no step that it could
be given beyond those it is given is ever taken. -/
theorem ofTokens_iff_derived (ends : last.lexeme = .stop)
    (only : ∀ token ∈ front, token.lexeme ≠ .stop)
    (short : ∀ token ∈ front, ∀ content, token.lexeme = .bare content → ∀ negative digits,
      Numeral.integer? (dropLineEnd content.toList) = some (negative, digits) →
        digits.length ≤ 4300) :
    (∀ formula, ofTokens (front ++ [last]) = .ok formula ↔
      Argument (front.map Token.lexeme) formula ∧ formula.nesting ≤ 100) ∧
    (∀ formula other, Argument (front.map Token.lexeme) formula →
      Argument (front.map Token.lexeme) other → formula = other) ∧
    ((¬ ∃ formula, Argument (front.map Token.lexeme) formula ∧ formula.nesting ≤ 100) →
      ∃ trouble, ofTokens (front ++ [last]) = .error (.formula trouble)) ∧
    ∀ more, parseArgument (3 * (front ++ [last]).length + 3 + more) 0 (front ++ [last]) =
      parseArgument (3 * (front ++ [last]).length + 3) 0 (front ++ [last]) := by
  refine ⟨fun formula => ofTokens_eq_ok_iff ends only, ?_, ?_, ?_⟩
  · intro formula other spelled spelled'
    have same : front.map Token.lexeme ++ [] = front.map Token.lexeme ++ [] := rfl
    exact (spelled.unique spelled' same rfl rfl).1
  · intro underivable
    cases outcome : ofTokens (front ++ [last]) with
    | ok formula => exact absurd ⟨formula, (ofTokens_eq_ok_iff ends only).mp outcome⟩ underivable
    | error fault =>
        obtain ⟨trouble, rfl⟩ | ⟨token, among, content, shown, stands⟩ := ofTokens_error outcome
        · exact ⟨trouble, rfl⟩
        · obtain ⟨negative, digits, spells, long, -⟩ := ofBare_error stands
          rcases List.mem_append.mp among with among | among
          · exact absurd (short token among content shown negative digits spells)
              (Nat.not_le.mpr long)
          · obtain rfl := List.mem_singleton.mp among
            cases ends.symm.trans shown
  · intro more
    exact parseArgument_of_enough (by omega) more

/-- The tokens of `Sum("3", Units >= 12)` before the end. -/
def sumTokens : List Token :=
  [⟨.bare "Sum", 0⟩, ⟨.openParen, 3⟩, ⟨.string "3", 4⟩, ⟨.comma, 7⟩, ⟨.bare "Units", 9⟩,
    ⟨.operator .atLeast, 15⟩, ⟨.bare "12", 18⟩, ⟨.closeParen, 20⟩]

theorem ofTokens_sumTokens :
    (∀ token ∈ sumTokens, token.lexeme ≠ .stop) ∧
    (∀ token ∈ sumTokens, ∀ content, token.lexeme = .bare content → ∀ negative digits,
      Numeral.integer? (dropLineEnd content.toList) = some (negative, digits) →
        digits.length ≤ 4300) ∧
    ofTokens (sumTokens ++ [⟨.stop, 21⟩]) = .ok (.call "SUM" [.literal (.text "3"),
      .compare (.column "Units") .atLeast (.literal (.int 12))]) := by
  have only : ∀ token ∈ sumTokens, token.lexeme ≠ .stop := by decide
  have short : ∀ token ∈ sumTokens, ∀ content, token.lexeme = .bare content → ∀ negative digits,
      Numeral.integer? (dropLineEnd content.toList) = some (negative, digits) →
        digits.length ≤ 4300 := by
    have name : Numeral.integer? (dropLineEnd "Sum".toList) = none := by cbv
    have column : Numeral.integer? (dropLineEnd "Units".toList) = none := by cbv
    have number : Numeral.integer? (dropLineEnd "12".toList) = some (false, [1, 2]) := by cbv
    intro token among content shown negative digits spells
    simp only [sumTokens, List.mem_cons, List.not_mem_nil, or_false] at among
    rcases among with rfl | rfl | rfl | rfl | rfl | rfl | rfl | rfl <;> cases shown
    · cases name.symm.trans spells
    · cases column.symm.trans spells
    · cases number.symm.trans spells
      decide
  have column : ofBare "Units" = .ok (.column "Units") := by cbv
  have number : ofBare "12" = .ok (.literal (.int 12)) := by cbv
  have upper : Text.upper "Sum" = "SUM" := by cbv
  have inside := Arguments.more (.operand (.string "3"))
    (.last (.compare .atLeast (.bare column) (.bare number)))
  have derived : Operand (sumTokens.map Token.lexeme) (.call (Text.upper "Sum") _) :=
    .call (by decide) inside
  rw [upper] at derived
  exact ⟨only, short, ((ofTokens_iff_derived rfl only short).1 _).mpr ⟨.operand derived, by decide⟩⟩

end Formula

end Gridbook
