import Gridbook.Proofs.Formula.Parsing

/-! # Printing formulas

A formula is written so that it is parsed to itself again, and each formula that parsing gives is
one that can be written so, where no double stands in it.
-/

namespace Gridbook

namespace Formula

mutual

/-- The characters that write a formula: strings in quotes, calls with their arguments in
parentheses, and comparisons with spaces around the operator. -/
def write : Formula → List Char
  | .literal (.text s) => '"' :: (Token.doubled s.toList ++ ['"'])
  | .literal (.int n) => (intDigits n).toList
  | .literal (.float x) => x.text.toList
  | .column name => name.toList
  | .call function arguments => function.toList ++ ('(' :: writeAll arguments ++ [')'])
  | .compare left op right => write left ++ (' ' :: op.spelling.toList ++ [' '] ++ write right)

/-- Arguments with a comma and a space between them. -/
def writeAll : List Formula → List Char
  | [] => []
  | [argument] => write argument
  | argument :: rest => write argument ++ ',' :: ' ' :: writeAll rest

end

def print (formula : Formula) : String :=
  String.ofList (write formula)

def isComparison : Formula → Bool
  | .compare _ _ _ => true
  | _ => false

/-- A formula without doubles that can be written: its integers are not too long to be read, its
columns are trimmed names that spell no number, its functions are words in upper case, and no side
of a comparison is itself one. -/
inductive WellFormed : Formula → Prop where
  | text (s : String) : WellFormed (.literal (.text s))
  | int {n : Int} (short : digitCount n.natAbs ≤ 4300) : WellFormed (.literal (.int n))
  | column {name : String} (some : name ≠ "") (trimmed : Text.trim name = name)
      (free : ∀ c ∈ name.toList, c ∉ ['(', ')', ',', '"', '<', '>', '='])
      (noNumber : Numeral.read? false name.toList = none) : WellFormed (.column name)
  | call {function : String} {arguments : List Formula} (word : isWord function.toList = true)
      (upper : Text.upper function = function)
      (each : ∀ argument ∈ arguments, WellFormed argument) : WellFormed (.call function arguments)
  | compare {left right : Formula} (op : Operator) (wellLeft : WellFormed left)
      (wellRight : WellFormed right) (plainLeft : left.isComparison = false)
      (plainRight : right.isComparison = false) : WellFormed (.compare left op right)

theorem nameable_of_trim {name : String} (some : name ≠ "") (trimmed : Text.trim name = name)
    (free : ∀ c ∈ name.toList, c ∉ Token.reserved) : Token.Nameable name.toList := by
  refine ⟨.of_trimChars ?_ ?_, free⟩
  · rw [← congrArg String.toList trimmed, Text.trim, String.toList_ofList,
      Text.trimChars_trimChars]
  · simpa using some

/-- Blanks and then text that ends what stands before them. -/
structure Closes (gap s : List Char) : Prop where
  blank : ∀ c ∈ gap, Text.isBlank c = true
  ends : Token.endsBare s = true
  apart : gap = [] → s.head? ≠ some '=' ∧ s.head? ≠ some '"'

theorem Closes.of_mark {c : Char} (mark : c ∈ ['(', ')', ',']) (s : List Char) :
    Closes [] (c :: s) := by
  simp only [List.mem_cons, List.not_mem_nil, or_false] at mark
  rcases mark with rfl | rfl | rfl <;> exact ⟨List.forall_mem_nil _, rfl, by simp⟩

/-- A text that is cut into these lexemes where it is followed by what ends it. -/
def CutsInto (text : List Char) (lexemes : List Lexeme) : Prop :=
  ∀ {gap s : List Char} {later : List Lexeme}, Closes gap s → Token.Cuts s later →
    Token.Cuts (text ++ (gap ++ s)) (lexemes ++ later)

theorem cutsInto_bare {name : String} (nameable : Token.Nameable name.toList) :
    CutsInto name.toList [.bare name] := by
  intro gap s later closes cuts
  have bare := Token.Cuts.bare nameable closes.blank closes.ends
    (fun none => (closes.apart none).1) cuts
  rwa [String.ofList_toList] at bare

theorem cutsInto_string (s : String) :
    CutsInto ('"' :: (Token.doubled s.toList ++ ['"'])) [.string s] := by
  intro gap tail later closes cuts
  have apart : (gap ++ tail).head? ≠ some '"' := by
    cases gap with
    | nil => exact (closes.apart rfl).2
    | cons c gap =>
        rintro quote
        obtain rfl : c = '"' := by simpa using quote
        exact absurd (closes.blank '"' List.mem_cons_self) (by decide)
  have string := Token.Cuts.string s.toList apart (.blanks closes.blank cuts)
  rw [String.ofList_toList] at string
  simpa using string

theorem cutsInto_call {function : String} {inside : List Char} {lexemes : List Lexeme}
    (word : isWord function.toList = true)
    (cuts : ∀ {s later}, Token.Cuts s later →
      Token.Cuts (inside ++ ')' :: s) (lexemes ++ .closeParen :: later)) :
    CutsInto (function.toList ++ ('(' :: inside ++ [')']))
      (.bare function :: .openParen :: (lexemes ++ [.closeParen])) := by
  intro gap s later closes behind
  have opened := Closes.of_mark (by decide : '(' ∈ ['(', ')', ',']) (inside ++ ')' :: (gap ++ s))
  have call := cutsInto_bare (nameable_of_isWord word) opened
    (.openParen (cuts (.blanks closes.blank behind)))
  simpa using call

theorem spelling_cons (op : Operator) : ∃ c rest, op.spelling.toList = c :: rest ∧
    Text.isBlank c = false ∧ c ∉ ['(', ')', ',', '"'] := by
  cases op <;> exact ⟨_, _, rfl, by decide, by decide⟩

theorem operator?_spelling (op : Operator) (s : List Char) :
    Token.operator? (op.spelling.toList ++ ' ' :: s) = some (op, ' ' :: s) := by
  cases op <;> rfl

theorem cuts_operator (op : Operator) {s : List Char} {later : List Lexeme}
    (cuts : Token.Cuts s later) :
    Token.Cuts (op.spelling.toList ++ ' ' :: s) (.operator op :: later) := by
  have written := operator?_spelling op s
  obtain ⟨c, rest, shape, solid, other⟩ := spelling_cons op
  rw [shape, List.cons_append] at written ⊢
  exact .operator written solid other (.blank (by decide) cuts)

theorem cutsInto_compare {before behind : List Char} {lexemes lexemes' : List Lexeme}
    (op : Operator) (left : CutsInto before lexemes) (right : CutsInto behind lexemes') :
    CutsInto (before ++ (' ' :: op.spelling.toList ++ [' '] ++ behind))
      (lexemes ++ .operator op :: lexemes') := by
  intro gap s later closes cuts
  have spaced : Closes [' '] (op.spelling.toList ++ ' ' :: (behind ++ (gap ++ s))) := by
    refine ⟨List.forall_mem_singleton.mpr (by decide), ?_, by simp⟩
    cases op <;> rfl
  have compare := left spaced (cuts_operator op (right closes cuts))
  simpa using compare

theorem cutsInto_writeAll {arguments : List Formula} (some : arguments ≠ [])
    (each : ∀ argument ∈ arguments, ∃ lexemes, CutsInto (write argument) lexemes ∧
      Argument lexemes argument) :
    ∃ lexemes, CutsInto (writeAll arguments) lexemes ∧ Arguments lexemes arguments := by
  induction arguments with
  | nil => exact absurd rfl some
  | cons first rest ih =>
      rw [List.forall_mem_cons] at each
      obtain ⟨⟨lexemes, cuts, spelled⟩, each⟩ := each
      cases rest with
      | nil => exact ⟨lexemes, cuts, .last spelled⟩
      | cons second rest =>
          obtain ⟨lexemes', cutsRest, spelledRest⟩ := ih (by simp) each
          refine ⟨lexemes ++ .comma :: lexemes', ?_, .more spelled spelledRest⟩
          intro gap s later closes behind
          have apart := Closes.of_mark (by decide : ',' ∈ ['(', ')', ','])
            (' ' :: (writeAll (second :: rest) ++ (gap ++ s)))
          have both := cuts apart (.comma (.blank (by decide) (cutsRest closes behind)))
          simpa [writeAll] using both

theorem cuts_call {function : String} {arguments : List Formula}
    (word : isWord function.toList = true)
    (each : ∀ argument ∈ arguments, ∃ lexemes, CutsInto (write argument) lexemes ∧
      Argument lexemes argument) :
    ∃ lexemes, CutsInto (write (.call function arguments)) lexemes ∧
      Operand lexemes (.call (Text.upper function) arguments) := by
  have named : isFunctionName function = true := by
    rwa [isFunctionName, dropLineEnd_of_solid (nameable_of_isWord word).solid]
  by_cases none : arguments = []
  · subst none
    have closed : ∀ {s later}, Token.Cuts s later →
        Token.Cuts ([] ++ ')' :: s) ([] ++ .closeParen :: later) := Token.Cuts.closeParen
    exact ⟨_, cutsInto_call word closed, .callNone named⟩
  · obtain ⟨lexemes, cuts, spelled⟩ := cutsInto_writeAll none each
    have closed : ∀ {s later}, Token.Cuts s later →
        Token.Cuts (writeAll arguments ++ ')' :: s) (lexemes ++ .closeParen :: later) := by
      intro s later behind
      exact cuts (.of_mark (by decide) _) (.closeParen behind)
    exact ⟨_, cutsInto_call word closed, .call named spelled⟩

/-- A formula that can be written is cut into lexemes that spell it. Only a comparison is not
spelled as an operand. -/
theorem WellFormed.cuts {formula : Formula} (well : WellFormed formula) :
    ∃ lexemes, CutsInto (write formula) lexemes ∧ Argument lexemes formula ∧
      (formula.isComparison = false → Operand lexemes formula) := by
  induction well with
  | text s => exact ⟨_, cutsInto_string s, .operand (.string s), fun _ => .string s⟩
  | @int n short =>
      have operand : Operand [.bare (intDigits n)] (.literal (.int n)) :=
        .bare (ofBare_intDigits short)
      exact ⟨_, cutsInto_bare (nameable_intDigits n), .operand operand, fun _ => operand⟩
  | @column name some trimmed free noNumber =>
      have nameable := nameable_of_trim some trimmed free
      have operand : Operand [.bare name] (.column name) :=
        .bare (ofBare_column nameable.solid noNumber)
      exact ⟨_, cutsInto_bare nameable, .operand operand, fun _ => operand⟩
  | @call function arguments word upper each ih =>
      have each : ∀ argument ∈ arguments, ∃ lexemes, CutsInto (write argument) lexemes ∧
          Argument lexemes argument := by
        intro argument among
        obtain ⟨lexemes, cuts, spelled, -⟩ := ih argument among
        exact ⟨lexemes, cuts, spelled⟩
      obtain ⟨lexemes, cuts, spelled⟩ := cuts_call word each
      rw [upper] at spelled
      exact ⟨lexemes, cuts, .operand spelled, fun _ => spelled⟩
  | @compare left right op wellLeft wellRight plainLeft plainRight ihLeft ihRight =>
      obtain ⟨before, cutsLeft, -, spelledLeft⟩ := ihLeft
      obtain ⟨behind, cutsRight, -, spelledRight⟩ := ihRight
      refine ⟨_, cutsInto_compare op cutsLeft cutsRight,
        .compare op (spelledLeft plainLeft) (spelledRight plainRight), ?_⟩
      intro plain
      cases plain

/-- Neither end of a text is blank, and it begins with no equals sign. -/
structure Framed (s : List Char) : Prop where
  solid : Text.Solid s
  first : s.head? ≠ some '='

theorem Framed.join {s t : List Char} (front : Framed s) (back : Text.Solid t)
    (between : List Char) : Framed (s ++ (between ++ t)) := by
  refine ⟨front.solid.join back between, ?_⟩
  obtain ⟨c, rest, rfl, -⟩ := front.solid.first
  exact front.first

theorem framed_of_nameable {s : List Char} (nameable : Token.Nameable s) : Framed s := by
  refine ⟨nameable.solid, ?_⟩
  intro equal
  exact nameable.free '=' (List.mem_of_mem_head? equal) (by decide)

theorem WellFormed.framed {formula : Formula} (well : WellFormed formula) :
    Framed (write formula) := by
  induction well with
  | text s =>
      have quote : Framed ['"'] := ⟨.singleton (by decide), by decide⟩
      exact quote.join quote.solid _
  | int short => exact framed_of_nameable (nameable_intDigits _)
  | column some trimmed free noNumber =>
      exact framed_of_nameable (nameable_of_trim some trimmed free)
  | call word upper each ih =>
      exact (framed_of_nameable (nameable_of_isWord word)).join (.singleton (by decide)) _
  | compare op wellLeft wellRight plainLeft plainRight left right => exact left.join right.solid _

section Padding

variable {s before gap after : List Char} (framed : Framed s)
  (blankBefore : ∀ c ∈ before, Text.isBlank c = true) (blankGap : ∀ c ∈ gap, Text.isBlank c = true)
  (blankAfter : ∀ c ∈ after, Text.isBlank c = true)

include framed blankBefore blankAfter

theorem body_padded : body (String.ofList (before ++ (s ++ after))) = String.ofList s := by
  unfold body
  rw [String.toList_ofList, framed.solid.trimChars_pad blankBefore blankAfter]
  simp only
  split
  · exact absurd rfl framed.first
  · exact absurd rfl framed.first
  · rfl

include blankGap

/-- One equals sign in front is passed over, with blanks behind it or without. -/
theorem body_equals : body (String.ofList (before ++ ('=' :: (gap ++ s) ++ after))) =
    String.ofList (gap ++ s) := by
  have solid : Text.Solid ('=' :: (gap ++ s)) :=
    .join (.singleton (by decide)) framed.solid gap
  unfold body
  rw [String.toList_ofList, solid.trimChars_pad blankBefore blankAfter]
  simp only
  split
  case h_1 rest double =>
    obtain ⟨-, second⟩ := List.cons.inj double
    cases gap with
    | nil =>
        rw [List.nil_append] at second
        exact absurd (by rw [second]; rfl) framed.first
    | cons c gap =>
        obtain ⟨rfl, -⟩ := List.cons.inj second
        exact absurd (blankGap '=' List.mem_cons_self) (by decide)
  case h_2 rest single shape =>
    obtain ⟨-, rfl⟩ := List.cons.inj shape
    rfl
  case h_3 other => exact absurd rfl (other _)

end Padding

theorem parse_of_body {text : String} {formula : Formula} {gap : List Char}
    (well : WellFormed formula) (within : formula.nesting ≤ maxNesting)
    (blank : ∀ c ∈ gap, Text.isBlank c = true)
    (bared : body text = String.ofList (gap ++ write formula)) : parse text = .ok formula := by
  obtain ⟨lexemes, cuts, spelled, -⟩ := well.cuts
  have ended : Closes [] [] := ⟨List.forall_mem_nil _, rfl, by simp⟩
  obtain ⟨tokens, done, shown⟩ := Token.Cuts.blanks blank (cuts ended .nil) 0
  rw [List.nil_append, List.append_nil] at done
  obtain ⟨front, back, rfl, rfl, ends⟩ := List.map_eq_append_iff.mp shown
  obtain ⟨last, _, rfl, stop, none⟩ := List.map_eq_cons_iff.mp ends
  obtain rfl := List.map_eq_nil_iff.mp none
  have only : ∀ token ∈ front, token.lexeme ≠ .stop := by
    intro token among stopped
    apply spelled.stop_not_mem
    rw [← stopped]
    exact List.mem_map_of_mem among
  have filled : (Text.trim (body text)).isEmpty = false := by
    have trimmed := well.framed.solid.trimChars_pad blank (List.forall_mem_nil _)
    obtain ⟨c, rest, shape, -⟩ := well.framed.solid.first
    rw [List.append_nil] at trimmed
    rw [bared, Text.trim, String.toList_ofList, trimmed, shape]
    simp
  rw [parse, filled, bared, Token.ofFormula, String.toList_ofList, done]
  exact (ofTokens_eq_ok_iff stop only).mpr ⟨spelled, within⟩

theorem isWord_of_isFunctionName {name : String} (nameable : Token.Nameable name.toList)
    (named : isFunctionName name = true) : isWord name.toList = true := by
  rwa [isFunctionName, dropLineEnd_of_solid nameable.solid] at named

theorem wellFormed_column {name : String} (nameable : Token.Nameable name.toList)
    (noNumber : Numeral.read? false name.toList = none) : WellFormed (.column name) := by
  refine .column ?_ ?_ nameable.free noNumber
  · rintro rfl
    obtain ⟨c, rest, shape, -⟩ := nameable.solid.first
    cases shape
  · rw [Text.trim, nameable.solid.trimChars_self, String.ofList_toList]

mutual

theorem Operand.wellFormed {lexemes : List Lexeme} {formula : Formula}
    (spelled : Operand lexemes formula)
    (clean : ∀ content, .bare content ∈ lexemes → Token.Nameable content.toList)
    (noFloat : ∀ x, .literal (.float x) ∉ formula.nodes) :
    WellFormed formula ∧ formula.isComparison = false := by
  cases spelled with
  | string content => exact ⟨.text content, rfl⟩
  | @bare content _ stands =>
      have nameable := clean content List.mem_cons_self
      obtain ⟨n, rfl, short⟩ | ⟨x, rfl⟩ | ⟨rfl, noNumber⟩ := ofBare_cases stands
      · exact ⟨.int short, rfl⟩
      · exact absurd (by simp [nodes]) (noFloat x)
      · rw [dropLineEnd_of_solid nameable.solid] at noNumber
        exact ⟨wellFormed_column nameable noNumber, rfl⟩
  | @callNone name named =>
      have word := isWord_of_isFunctionName (clean name List.mem_cons_self) named
      exact ⟨.call (isWord_upper word) (upper_upper word) (List.forall_mem_nil _), rfl⟩
  | @call name inside arguments named spelled =>
      have word := isWord_of_isFunctionName (clean name List.mem_cons_self) named
      have each := spelled.wellFormed (fun content among => clean content (by simp [among]))
        (fun x among => noFloat x (by simp [nodes, among]))
      exact ⟨.call (isWord_upper word) (upper_upper word) each, rfl⟩
termination_by 2 * sizeOf formula
decreasing_by
  all_goals subst_vars
  all_goals simp +arith only [Formula.call.sizeOf_spec]

theorem Argument.wellFormed {lexemes : List Lexeme} {formula : Formula}
    (spelled : Argument lexemes formula)
    (clean : ∀ content, .bare content ∈ lexemes → Token.Nameable content.toList)
    (noFloat : ∀ x, .literal (.float x) ∉ formula.nodes) : WellFormed formula := by
  cases spelled with
  | operand spelled => exact (spelled.wellFormed clean noFloat).1
  | compare op spelledLeft spelledRight =>
      obtain ⟨left, plainLeft⟩ := spelledLeft.wellFormed
        (fun content among => clean content (by simp [among]))
        (fun x among => noFloat x (by simp [nodes, among]))
      obtain ⟨right, plainRight⟩ := spelledRight.wellFormed
        (fun content among => clean content (by simp [among]))
        (fun x among => noFloat x (by simp [nodes, among]))
      exact .compare op left right plainLeft plainRight
termination_by 2 * sizeOf formula + 1
decreasing_by
  all_goals subst_vars
  all_goals simp +arith only [Formula.compare.sizeOf_spec]

theorem Arguments.wellFormed {lexemes : List Lexeme} {formulas : List Formula}
    (spelled : Arguments lexemes formulas)
    (clean : ∀ content, .bare content ∈ lexemes → Token.Nameable content.toList)
    (noFloat : ∀ x, .literal (.float x) ∉ nodesOfAll formulas) :
    ∀ formula ∈ formulas, WellFormed formula := by
  cases spelled with
  | last spelled =>
      rw [List.forall_mem_singleton]
      exact spelled.wellFormed clean (fun x among => noFloat x (by simp [nodesOfAll, among]))
  | more spelled spelledRest =>
      rw [List.forall_mem_cons]
      constructor
      · exact spelled.wellFormed (fun content among => clean content (by simp [among]))
          (fun x among => noFloat x (by simp [nodesOfAll, among]))
      · exact spelledRest.wellFormed (fun content among => clean content (by simp [among]))
          (fun x among => noFloat x (by simp [nodesOfAll, among]))
termination_by 2 * sizeOf formulas
decreasing_by
  all_goals subst_vars
  all_goals simp +arith only [List.cons.sizeOf_spec]

end

theorem wellFormed_of_parse {text : String} {formula : Formula} (parsed : parse text = .ok formula)
    (noFloat : ∀ x, .literal (.float x) ∉ formula.nodes) :
    WellFormed formula ∧ formula.nesting ≤ maxNesting := by
  obtain ⟨front, last, -, -, each, spelled, within⟩ := cut_of_parse parsed
  refine ⟨spelled.wellFormed ?_ noFloat, within⟩
  intro content among
  obtain ⟨token, member, shown⟩ := List.mem_map.mp among
  exact (each token member).2 content shown

theorem parse_printed {formula : Formula} (well : WellFormed formula)
    (within : formula.nesting ≤ maxNesting) : parse formula.print = .ok formula := by
  have bared := body_padded well.framed (List.forall_mem_nil _) (List.forall_mem_nil _)
  rw [List.nil_append, List.append_nil] at bared
  exact parse_of_body well within (List.forall_mem_nil _) bared

/-- A printed formula is parsed to itself, in blanks and behind an equals sign too, and what parsing
gives can be printed where no double stands in it. -/
theorem parse_print :
    (∀ formula : Formula, WellFormed formula → formula.nesting ≤ 100 →
      ∀ before gap after : String, (∀ c ∈ before.toList, Text.isBlank c = true) →
        (∀ c ∈ gap.toList, Text.isBlank c = true) → (∀ c ∈ after.toList, Text.isBlank c = true) →
          parse (before ++ formula.print ++ after) = .ok formula ∧
          parse (before ++ "=" ++ gap ++ formula.print ++ after) = .ok formula) ∧
    ∀ (text : String) (formula : Formula), parse text = .ok formula →
      (∀ x, .literal (.float x) ∉ formula.nodes) →
        WellFormed formula ∧ formula.nesting ≤ 100 ∧ parse formula.print = .ok formula := by
  constructor
  · intro formula well within before gap after blankBefore blankGap blankAfter
    have plain : before ++ formula.print ++ after =
        String.ofList (before.toList ++ (write formula ++ after.toList)) := by
      rw [← String.toList_inj]
      simp [print]
    have equals : before ++ "=" ++ gap ++ formula.print ++ after = String.ofList
        (before.toList ++ ('=' :: (gap.toList ++ write formula) ++ after.toList)) := by
      rw [← String.toList_inj]
      simp [print]
    rw [plain, equals]
    exact ⟨parse_of_body well within (List.forall_mem_nil _)
        (body_padded well.framed blankBefore blankAfter),
      parse_of_body well within blankGap (body_equals well.framed blankBefore blankGap blankAfter)⟩
  · intro text formula parsed noFloat
    obtain ⟨well, within⟩ := wellFormed_of_parse parsed noFloat
    have bared := body_padded well.framed (List.forall_mem_nil _) (List.forall_mem_nil _)
    rw [List.nil_append, List.append_nil] at bared
    exact ⟨well, within, parse_of_body well within (List.forall_mem_nil _) bared⟩

/-- `IF(Net Price >= -12, "say ""yes""", MAX())`. -/
def sayYes : Formula :=
  .call "IF" [.compare (.column "Net Price") .atLeast (.literal (.int (-12))),
    .literal (.text "say \"yes\""), .call "MAX" []]

theorem sayYes_parsed :
    WellFormed sayYes ∧ sayYes.nesting ≤ 100 ∧
      sayYes.print = "IF(Net Price >= -12, \"say \"\"yes\"\"\", MAX())" ∧
      parse (" \n" ++ "=" ++ " " ++ sayYes.print ++ "\t") = .ok sayYes := by
  have price : WellFormed (.column "Net Price") :=
    .column (by decide) (by cbv) (by simp) (by cbv)
  have twelve : WellFormed (.literal (.int (-12))) := .int (by decide)
  have max : WellFormed (.call "MAX" []) := .call (by decide) (by cbv) (List.forall_mem_nil _)
  have well : WellFormed sayYes := by
    refine .call (by decide) (by cbv) ?_
    rw [List.forall_mem_cons, List.forall_mem_cons, List.forall_mem_singleton]
    exact ⟨.compare .atLeast price twelve rfl rfl, .text _, max⟩
  have within : sayYes.nesting ≤ 100 := by decide
  have before : ∀ c ∈ " \n".toList, Text.isBlank c = true := by simp; decide
  have gap : ∀ c ∈ " ".toList, Text.isBlank c = true := by simp; decide
  have after : ∀ c ∈ "\t".toList, Text.isBlank c = true := by simp; decide
  have parsed := parse_print.1 sayYes well within " \n" " " "\t" before gap after
  exact ⟨well, within, by cbv, parsed.2⟩

end Formula

end Gridbook
