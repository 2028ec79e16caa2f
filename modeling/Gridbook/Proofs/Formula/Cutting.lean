import Gridbook.Formula.Token
import Gridbook.Proofs.Escape
import Gridbook.Proofs.Text.Blank

/-! # Cutting a formula into tokens

Each token is cut from the text that writes it, whatever stands behind it that does not go on with
it. Nothing else is cut: a step ends, passes over a blank, stops at a string that is not closed, or
takes what writes one token. Each bare text that is cut is a name: there are no blanks at its ends,
and no character in it that cuts.
-/

namespace Gridbook

namespace Token

/-- The characters that no bare text holds. -/
def reserved : List Char :=
  ['(', ')', ',', '"', '<', '>', '=']

/-- Text that can be cut from a formula as one bare text. -/
structure Nameable (s : List Char) : Prop where
  solid : Text.Solid s
  free : ∀ c ∈ s, c ∉ reserved

theorem not_mem_reserved_of_isBlank {c : Char} (blank : Text.isBlank c = true) : c ∉ reserved := by
  intro among
  simp only [reserved, List.mem_cons, List.not_mem_nil, or_false] at among
  rcases among with rfl | rfl | rfl | rfl | rfl | rfl | rfl <;> exact absurd blank (by decide)

variable {c : Char} {s rest : List Char}

/-- An exclamation mark is the only other character with which an operator begins. -/
theorem operator?_eq_none (free : c ∉ reserved) (apart : c = '!' → s.head? ≠ some '=') :
    operator? (c :: s) = none := by
  simp only [reserved, List.mem_cons, List.not_mem_nil, or_false, not_or] at free
  obtain ⟨-, -, -, -, noLess, noGreater, noEqual⟩ := free
  unfold operator?
  split <;> simp_all

theorem endsBare_eq_false (free : c ∉ reserved) (apart : c = '!' → s.head? ≠ some '=') :
    endsBare (c :: s) = false := by
  have none := operator?_eq_none free apart
  simp only [reserved, List.mem_cons, List.not_mem_nil, or_false, not_or] at free
  simp [endsBare, none, free]

theorem isSome_operator? (among : c ∈ ['<', '>', '=']) (s : List Char) :
    (operator? (c :: s)).isSome = true := by
  simp only [List.mem_cons, List.not_mem_nil, or_false] at among
  rcases among with rfl | rfl | rfl
  all_goals
    unfold operator?
    split <;> simp_all

theorem endsBare_of_mem_reserved (among : c ∈ reserved) (s : List Char) :
    endsBare (c :: s) = true := by
  simp only [reserved, List.mem_cons, List.not_mem_nil, or_false] at among
  rcases among with rfl | rfl | rfl | rfl | rfl | rfl | rfl
  · rfl
  · rfl
  · rfl
  · rfl
  all_goals simp [endsBare, isSome_operator?]

theorem eq_of_operator? {op : Operator} (found : operator? s = some (op, rest)) :
    s = op.spelling.toList ++ rest := by
  unfold operator? at found
  split at found <;> cases found <;> rfl

/-- An exclamation mark in bare text stands before no equals sign. -/
theorem head?_ne_of_apart (free : ∀ d ∈ c :: rest, d ∉ reserved)
    (apart : (c :: rest).getLast? = some '!' → s.head? ≠ some '=') (mark : c = '!') :
    (rest ++ s).head? ≠ some '=' := by
  cases rest with
  | nil => exact apart (by simp [mark])
  | cons d rest =>
      rintro equal
      obtain rfl : d = '=' := by simpa using equal
      exact free '=' (by simp) (by decide)

theorem apart_tail (apart : (c :: rest).getLast? = some '!' → s.head? ≠ some '=')
    (last : rest.getLast? = some '!') : s.head? ≠ some '=' := by
  apply apart
  rw [List.getLast?_cons, last]
  rfl

theorem bareRun_append {run : List Char} (free : ∀ d ∈ run, d ∉ reserved)
    (apart : run.getLast? = some '!' → s.head? ≠ some '=') (ends : endsBare s = true) :
    bareRun (run ++ s) = (run, s) := by
  induction run with
  | nil =>
      cases s with
      | nil => rfl
      | cons c rest => simp [bareRun, ends]
  | cons c run ih =>
      have goes : endsBare (c :: (run ++ s)) = false :=
        endsBare_eq_false (free c List.mem_cons_self) (head?_ne_of_apart free apart)
      have later : bareRun (run ++ s) = (run, s) :=
        ih (fun d among => free d (List.mem_cons_of_mem c among)) (apart_tail apart)
      simp [bareRun, goes, later]

theorem free_bareRun (s : List Char) : ∀ c ∈ (bareRun s).1, c ∉ reserved := by
  induction s with
  | nil => simp [bareRun]
  | cons c rest ih =>
      unfold bareRun
      split
      case isTrue => simp
      case isFalse goes =>
        intro d among
        rcases List.mem_cons.mp among with rfl | among
        · exact fun cuts => goes (endsBare_of_mem_reserved cuts rest)
        · exact ih d among

theorem append_bareRun (s : List Char) : (bareRun s).1 ++ (bareRun s).2 = s := by
  induction s with
  | nil => rfl
  | cons c rest ih =>
      unfold bareRun
      split
      case isTrue => rfl
      case isFalse => exact congrArg (c :: ·) ih

theorem endsBare_bareRun (s : List Char) : endsBare (bareRun s).2 = true := by
  induction s with
  | nil => rfl
  | cons c rest ih =>
      unfold bareRun
      split
      case isTrue ends => exact ends
      case isFalse => exact ih

/-- The content of a string with its quotes doubled. -/
def doubled (s : List Char) : List Char :=
  s.flatMap fun c => if c = '"' then ['"', '"'] else [c]

theorem stringBody?_doubled (content : List Char) (apart : s.head? ≠ some '"') :
    stringBody? (doubled content ++ '"' :: s) = some (content, s) := by
  induction content with
  | nil =>
      cases s with
      | nil => rfl
      | cons c rest =>
          have other : c ≠ '"' := by simpa using apart
          simp [doubled, stringBody?, other]
  | cons c content ih =>
      rw [doubled, List.flatMap_cons, ← doubled]
      split
      case isTrue quote => simp [stringBody?, ih, quote]
      case isFalse other => simp [stringBody?, ih, other]

theorem eq_of_stringBody? {content tail : List Char} (found : stringBody? s = some (content, tail)) :
    s = doubled content ++ '"' :: tail := by
  fun_induction stringBody? s generalizing content with
  | case1 => cases found
  | case2 rest ih =>
      obtain ⟨⟨inner, after⟩, inside, same⟩ := Option.map_eq_some_iff.mp found
      cases same
      rw [ih inside]
      rfl
  | case3 rest =>
      cases found
      rfl
  | case4 c rest _ other ih =>
      obtain ⟨⟨inner, after⟩, inside, same⟩ := Option.map_eq_some_iff.mp found
      cases same
      rw [doubled, List.flatMap_cons, if_neg other, ← doubled, List.append_assoc, ← ih inside]
      rfl

theorem exists_of_stringBody?_eq_none (unclosed : stringBody? s = none) :
    ∃ content, s = doubled content := by
  fun_induction stringBody? s with
  | case1 => exact ⟨[], rfl⟩
  | case2 rest ih =>
      obtain ⟨content, rfl⟩ := ih (Option.map_eq_none_iff.mp unclosed)
      exact ⟨'"' :: content, rfl⟩
  | case3 rest => cases unclosed
  | case4 c rest _ other ih =>
      obtain ⟨content, rfl⟩ := ih (Option.map_eq_none_iff.mp unclosed)
      refine ⟨c :: content, ?_⟩
      rw [doubled, doubled, List.flatMap_cons, if_neg other]
      rfl

theorem even_count_doubled (content : List Char) : Even ((doubled content).count '"') := by
  induction content with
  | nil => exact ⟨0, rfl⟩
  | cons c content ih =>
      rw [doubled, List.flatMap_cons, ← doubled, List.count_append]
      refine .add ?_ ih
      split
      case isTrue => exact ⟨1, rfl⟩
      case isFalse other => exact ⟨0, by simp [other]⟩

theorem cut_run {run : List Char} {position : Nat} (solid : Text.isBlank c = false)
    (free : ∀ d ∈ c :: run, d ∉ reserved)
    (apart : (c :: run).getLast? = some '!' → s.head? ≠ some '=') (ends : endsBare s = true) :
    cut position (c :: (run ++ s)) = do
      return ⟨.bare (String.ofList (Text.trimChars (c :: run))), position⟩ ::
        (← cut (position + 1 + run.length) s) := by
  rw [List.forall_mem_cons] at free
  have none : operator? (c :: (run ++ s)) = none :=
    operator?_eq_none free.1 (head?_ne_of_apart (List.forall_mem_cons.mpr free) apart)
  have taken : bareRun (run ++ s) = (run, s) := bareRun_append free.2 (apart_tail apart) ends
  have other := free.1
  simp only [reserved, List.mem_cons, List.not_mem_nil, or_false, not_or] at other
  rw [cut]
  simp only [solid, other, beq_iff_eq, if_false, Bool.false_eq_true]
  split
  case h_1 op tail some => cases none.symm.trans some
  case h_2 => rw [taken]

/-- A text is cut into these lexemes, wherever it stands. -/
def Cuts (s : List Char) (lexemes : List Lexeme) : Prop :=
  ∀ position, ∃ tokens, cut position s = .ok tokens ∧ tokens.map Token.lexeme = lexemes

namespace Cuts

variable {lexemes : List Lexeme}

theorem nil : Cuts [] [.stop] := by
  intro position
  exact ⟨[⟨.stop, position⟩], by rw [cut], rfl⟩

theorem blank (blank : Text.isBlank c = true) (later : Cuts s lexemes) : Cuts (c :: s) lexemes := by
  intro position
  rw [cut, if_pos blank]
  exact later (position + 1)

theorem blanks {gap : List Char} (blank : ∀ d ∈ gap, Text.isBlank d = true)
    (later : Cuts s lexemes) : Cuts (gap ++ s) lexemes := by
  induction gap with
  | nil => exact later
  | cons d gap ih =>
      rw [List.forall_mem_cons] at blank
      exact .blank blank.1 (ih blank.2)

theorem cons {s' : List Char} {lexeme : Lexeme}
    (first : ∀ position, ∃ next, cut position s' = do return ⟨lexeme, position⟩ :: (← cut next s))
    (later : Cuts s lexemes) : Cuts s' (lexeme :: lexemes) := by
  intro position
  obtain ⟨next, step⟩ := first position
  obtain ⟨tokens, done, shown⟩ := later next
  refine ⟨⟨lexeme, position⟩ :: tokens, ?_, by rw [List.map_cons, shown]⟩
  rw [step, done]
  rfl

theorem openParen (later : Cuts s lexemes) : Cuts ('(' :: s) (.openParen :: lexemes) := by
  refine cons (fun position => ⟨position + 1, ?_⟩) later
  rw [cut, if_neg (by decide), if_pos (by decide)]

theorem closeParen (later : Cuts s lexemes) : Cuts (')' :: s) (.closeParen :: lexemes) := by
  refine cons (fun position => ⟨position + 1, ?_⟩) later
  rw [cut, if_neg (by decide), if_neg (by decide), if_pos (by decide)]

theorem comma (later : Cuts s lexemes) : Cuts (',' :: s) (.comma :: lexemes) := by
  refine cons (fun position => ⟨position + 1, ?_⟩) later
  rw [cut, if_neg (by decide), if_neg (by decide), if_neg (by decide), if_pos (by decide)]

theorem string (content : List Char) (apart : s.head? ≠ some '"') (later : Cuts s lexemes) :
    Cuts ('"' :: (doubled content ++ '"' :: s)) (.string (String.ofList content) :: lexemes) := by
  have body := stringBody?_doubled content apart
  refine cons (fun position =>
    ⟨position + ((doubled content ++ '"' :: s).length + 1 - s.length), ?_⟩) later
  rw [cut, if_neg (by decide), if_neg (by decide), if_neg (by decide), if_neg (by decide),
    if_pos (by decide)]
  split
  case h_1 none => cases body.symm.trans none
  case h_2 some =>
    cases body.symm.trans some
    rfl

theorem operator {op : Operator} {s' : List Char} (written : operator? (c :: s') = some (op, s))
    (solid : Text.isBlank c = false) (other : c ∉ ['(', ')', ',', '"']) (later : Cuts s lexemes) :
    Cuts (c :: s') (.operator op :: lexemes) := by
  simp only [List.mem_cons, List.not_mem_nil, or_false, not_or] at other
  refine cons (fun position => ⟨position + (s'.length + 1 - s.length), ?_⟩) later
  rw [cut]
  simp only [solid, other, beq_iff_eq, if_false, Bool.false_eq_true]
  split
  case h_1 op' tail some =>
    cases written.symm.trans some
    rfl
  case h_2 none => cases written.symm.trans none

theorem bare {name gap : List Char} (nameable : Nameable name)
    (blank : ∀ d ∈ gap, Text.isBlank d = true) (ends : endsBare s = true)
    (apart : gap = [] → s.head? ≠ some '=') (later : Cuts s lexemes) :
    Cuts (name ++ (gap ++ s)) (.bare (String.ofList name) :: lexemes) := by
  have trimmed : Text.trimChars ([] ++ (name ++ gap)) = name :=
    nameable.solid.trimChars_pad (List.forall_mem_nil _) blank
  have free : ∀ d ∈ name ++ gap, d ∉ reserved := by
    rw [List.forall_mem_append]
    exact ⟨nameable.free, fun d inGap => not_mem_reserved_of_isBlank (blank d inGap)⟩
  -- a blank at the end is no exclamation mark
  have mark : (name ++ gap).getLast? = some '!' → s.head? ≠ some '=' := by
    intro last
    apply apart
    by_contra filled
    rw [List.getLast?_append_of_ne_nil _ filled] at last
    exact absurd (blank '!' (List.mem_of_getLast? last)) (by decide)
  obtain ⟨c, run, rfl, solid⟩ := nameable.solid.first
  rw [List.nil_append, List.cons_append] at trimmed
  rw [List.cons_append] at free mark
  rw [← List.append_assoc, List.cons_append, List.cons_append]
  refine cons (fun position => ⟨position + 1 + (run ++ gap).length, ?_⟩) later
  rw [cut_run solid free mark ends, trimmed]

end Cuts

end Token

/-- How a lexeme is written: a string in quotes, with those in it doubled, and any other as its
text. -/
def Lexeme.written : Lexeme → List Char
  | .string content => '"' :: (Token.doubled content.toList ++ ['"'])
  | lexeme => lexeme.text.toList

namespace Token

/-- What one step cuts off in front of the rest of a text: a lexeme, and behind it blanks. A bare
text is a name that goes on as far as it can. -/
structure CutOff (lexeme : Lexeme) (gap rest : List Char) : Prop where
  inside : lexeme ≠ .stop
  filled : lexeme.written ≠ []
  paired : Even (lexeme.written.count '"')
  blank : ∀ d ∈ gap, Text.isBlank d = true
  bare : ∀ content, lexeme = .bare content → Nameable content.toList ∧
    endsBare (content.toList ++ (gap ++ rest)) = false ∧ endsBare rest = true

namespace CutOff

theorem mark {lexeme : Lexeme} (among : lexeme ∈ [.openParen, .closeParen, .comma])
    (rest : List Char) : CutOff lexeme [] rest := by
  simp only [List.mem_cons, List.not_mem_nil, or_false] at among
  rcases among with rfl | rfl | rfl
  all_goals exact ⟨by simp, by decide, by decide, List.forall_mem_nil _, nofun⟩

theorem string (content : String) (rest : List Char) : CutOff (.string content) [] rest := by
  refine ⟨by simp, by simp [Lexeme.written], ?_, List.forall_mem_nil _, nofun⟩
  rw [Lexeme.written, List.count_cons_self, List.count_append, Nat.add_assoc]
  exact (even_count_doubled content.toList).add ⟨1, rfl⟩

theorem operator (op : Operator) (rest : List Char) : CutOff (.operator op) [] rest := by
  refine ⟨by simp, ?_, ?_, List.forall_mem_nil _, nofun⟩
  · cases op <;> decide
  · cases op <;> decide

theorem exists_bare (solid : Text.isBlank c = false) (goes : endsBare (c :: rest) = false) :
    ∃ name gap, name = Text.trimChars (c :: (bareRun rest).1) ∧
      c :: (bareRun rest).1 = name ++ gap ∧
      CutOff (.bare (String.ofList name)) gap (bareRun rest).2 := by
  obtain ⟨gap, blank, split⟩ := Text.exists_gap_of_trimChars solid (bareRun rest).1
  have free : ∀ d ∈ c :: (bareRun rest).1, d ∉ reserved := by
    rw [List.forall_mem_cons]
    refine ⟨fun cuts => ?_, free_bareRun rest⟩
    rw [endsBare_of_mem_reserved cuts] at goes
    cases goes
  have nameable : Nameable (Text.trimChars (c :: (bareRun rest).1)) := by
    refine ⟨.of_trimChars (Text.trimChars_trimChars _) (Text.trimChars_ne_nil solid _), ?_⟩
    exact fun d among => free d ((Text.trimChars_sublist _).subset among)
  have written : (Lexeme.bare (String.ofList (Text.trimChars (c :: (bareRun rest).1)))).written =
      Text.trimChars (c :: (bareRun rest).1) := String.toList_ofList
  refine ⟨_, gap, rfl, split, by simp, ?_, ?_, blank, ?_⟩
  · rw [written]
    exact Text.trimChars_ne_nil solid _
  · rw [written, List.count_eq_zero.mpr fun among => nameable.free '"' among (by decide)]
    exact ⟨0, rfl⟩
  · intro content same
    obtain rfl := Lexeme.bare.inj same
    rw [String.toList_ofList, ← List.append_assoc, ← split, List.cons_append, append_bareRun]
    exact ⟨nameable, goes, endsBare_bareRun rest⟩

end CutOff

theorem length_taken {taken tail : List Char} (shape : c :: rest = taken ++ tail) :
    rest.length + 1 - tail.length = taken.length := by
  rw [← List.length_cons, shape, List.length_append, Nat.add_sub_cancel]

/-- A step of cutting finds the end of the text, passes over a blank, stops at a string that is not
closed, or cuts off a token and goes on behind it. -/
theorem cut_cases (position : Nat) (s : List Char) :
    (s = [] ∧ cut position s = .ok [⟨.stop, position⟩]) ∨
    (∃ c rest, s = c :: rest ∧ Text.isBlank c = true ∧ cut position s = cut (position + 1) rest) ∨
    (∃ content, s = '"' :: doubled content ∧
      cut position s = .error (.unterminatedString position)) ∨
    ∃ lexeme gap rest, s = lexeme.written ++ (gap ++ rest) ∧ CutOff lexeme gap rest ∧
      cut position s = do
        return ⟨lexeme, position⟩ ::
          (← cut (position + (lexeme.written.length + gap.length)) rest) := by
  fun_cases cut position s
  case case1 => exact .inl ⟨rfl, rfl⟩
  case case2 c rest blank => exact .inr (.inl ⟨c, rest, rfl, blank, rfl⟩)
  case case3 c rest _ mark =>
    obtain rfl := beq_iff_eq.mp mark
    exact .inr (.inr (.inr ⟨.openParen, [], rest, rfl, .mark (by simp) rest, rfl⟩))
  case case4 c rest _ _ mark =>
    obtain rfl := beq_iff_eq.mp mark
    exact .inr (.inr (.inr ⟨.closeParen, [], rest, rfl, .mark (by simp) rest, rfl⟩))
  case case5 c rest _ _ _ mark =>
    obtain rfl := beq_iff_eq.mp mark
    exact .inr (.inr (.inr ⟨.comma, [], rest, rfl, .mark (by simp) rest, rfl⟩))
  case case6 c rest _ _ _ _ quote unclosed =>
    obtain rfl := beq_iff_eq.mp quote
    obtain ⟨content, rfl⟩ := exists_of_stringBody?_eq_none unclosed
    exact .inr (.inr (.inl ⟨content, rfl, rfl⟩))
  case case7 c rest _ _ _ _ quote content tail found used =>
    obtain rfl := beq_iff_eq.mp quote
    have shape : '"' :: rest = (Lexeme.string (String.ofList content)).written ++ tail := by
      simp [Lexeme.written, eq_of_stringBody? found]
    refine .inr (.inr (.inr ⟨_, [], tail, shape, .string _ tail, ?_⟩))
    have width : used = _ := length_taken shape
    rw [width]
    rfl
  case case8 c rest _ _ _ _ _ op tail found used =>
    have shape : c :: rest = (Lexeme.operator op).written ++ tail := eq_of_operator? found
    refine .inr (.inr (.inr ⟨_, [], tail, shape, .operator op tail, ?_⟩))
    have width : used = _ := length_taken shape
    rw [width]
    rfl
  case case9 c rest solid noOpen noClose noComma noQuote noOperator run text =>
    have goes : endsBare (c :: rest) = false := by simp_all [endsBare]
    obtain ⟨name, gap, trimmed, split, off⟩ := CutOff.exists_bare (by simpa using solid) goes
    have written : (Lexeme.bare (String.ofList name)).written = name := String.toList_ofList
    refine .inr (.inr (.inr ⟨.bare (String.ofList name), gap, run.2, ?_, off, ?_⟩))
    · rw [written, ← List.append_assoc, ← split, List.cons_append, append_bareRun]
    · have width := congrArg List.length split
      rw [List.length_cons, List.length_append] at width
      rw [written, ← width, Nat.add_comm run.1.length, ← Nat.add_assoc, trimmed]

theorem cut_induct {motive : Nat → List Char → Prop}
    (stop : ∀ position, cut position [] = .ok [⟨.stop, position⟩] → motive position [])
    (blank : ∀ position c rest, Text.isBlank c = true →
      cut position (c :: rest) = cut (position + 1) rest → motive (position + 1) rest →
        motive position (c :: rest))
    (unclosed : ∀ position content,
      cut position ('"' :: doubled content) = .error (.unterminatedString position) →
        motive position ('"' :: doubled content))
    (token : ∀ position lexeme gap rest, CutOff lexeme gap rest →
      (cut position (lexeme.written ++ (gap ++ rest)) = do
        return ⟨lexeme, position⟩ ::
          (← cut (position + (lexeme.written.length + gap.length)) rest)) →
      motive (position + (lexeme.written.length + gap.length)) rest →
        motive position (lexeme.written ++ (gap ++ rest)))
    (position : Nat) (s : List Char) : motive position s := by
  induction size : s.length using Nat.strong_induction_on generalizing position s with
  | _ n ih =>
      subst size
      obtain ⟨rfl, done⟩ | ⟨c, rest, rfl, isBlank, step⟩ | ⟨content, rfl, stopped⟩ |
        ⟨lexeme, gap, rest, rfl, off, step⟩ := cut_cases position s
      · exact stop position done
      · exact blank position c rest isBlank step (ih _ (by simp) _ _ rfl)
      · exact unclosed position content stopped
      · have width := List.length_pos_iff.mpr off.filled
        refine token position lexeme gap rest off step (ih _ ?_ _ _ rfl)
        rw [List.length_append, List.length_append]
        omega

/-- Tokens of which the last is the only end of the formula and every bare text is a name. -/
def WellCut (tokens : List Token) : Prop :=
  ∃ front last, tokens = front ++ [last] ∧ last.lexeme = .stop ∧
    ∀ token ∈ front, token.lexeme ≠ .stop ∧
      ∀ content, token.lexeme = .bare content → Nameable content.toList

theorem wellCut_cut {position : Nat} {tokens : List Token} (done : cut position s = .ok tokens) :
    WellCut tokens := by
  induction position, s using cut_induct generalizing tokens with
  | stop position stop =>
      cases done.symm.trans stop
      exact ⟨[], _, rfl, rfl, by simp⟩
  | blank position c rest isBlank step ih => exact ih (step.symm.trans done)
  | unclosed position content stopped => cases done.symm.trans stopped
  | token position lexeme gap rest off step ih =>
      obtain ⟨behind, later, done⟩ := bind_ok_iff.mp (step.symm.trans done)
      cases done
      obtain ⟨front, last, rfl, ends, each⟩ := ih later
      refine ⟨⟨lexeme, position⟩ :: front, last, rfl, ends, ?_⟩
      rw [List.forall_mem_cons]
      exact ⟨⟨off.inside, fun content same => (off.bare content same).1⟩, each⟩

end Token

end Gridbook
