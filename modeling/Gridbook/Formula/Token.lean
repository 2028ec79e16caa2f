import Gridbook.Formula.Tree
import Gridbook.Text.Blank

/-! # Formula tokens

A formula is cut into strings, parentheses, commas, comparison operators and bare texts. A bare
text runs up to the next of the other tokens, so it may hold blanks and punctuation.
-/

namespace Gridbook

/-- What a token says. -/
inductive Lexeme where
  /-- A string, without its quotes. -/
  | string (content : String)
  /-- A column, a number or the name of a function. -/
  | bare (content : String)
  | openParen
  | closeParen
  | comma
  | operator (op : Operator)
  /-- The end of the formula. -/
  | stop
  deriving Repr, DecidableEq

namespace Lexeme

def kind : Lexeme → String
  | .string _ => "STRING"
  | .bare _ => "TEXT"
  | .openParen => "("
  | .closeParen => ")"
  | .comma => ","
  | .operator _ => "OP"
  | .stop => "EOF"

def text : Lexeme → String
  | .string content => content
  | .bare content => content
  | .operator op => op.spelling
  | .stop => ""
  | lexeme => lexeme.kind

/-- What messages show of a lexeme: its text, or its kind where there is none. -/
def shown (lexeme : Lexeme) : String :=
  if lexeme.text.isEmpty then lexeme.kind else lexeme.text

end Lexeme

structure Token where
  lexeme : Lexeme
  position : Nat
  deriving Repr, DecidableEq

namespace Token

/-- The operator at the start of a text, the longest that fits, and what follows it. -/
def operator? : List Char → Option (Operator × List Char)
  | '>' :: '=' :: rest => some (.atLeast, rest)
  | '<' :: '=' :: rest => some (.atMost, rest)
  | '=' :: '=' :: rest => some (.doubleEqual, rest)
  | '!' :: '=' :: rest => some (.bangEqual, rest)
  | '<' :: '>' :: rest => some (.lessGreater, rest)
  | '>' :: rest => some (.greater, rest)
  | '<' :: rest => some (.less, rest)
  | '=' :: rest => some (.equal, rest)
  | _ => none

/-- The content of a string up to its closing quote, and what follows. A doubled quote is one
quote of the content. -/
def stringBody? : List Char → Option (List Char × List Char)
  | [] => none
  | '"' :: '"' :: rest => (stringBody? rest).map fun (content, tail) => ('"' :: content, tail)
  | '"' :: rest => some ([], rest)
  | c :: rest => (stringBody? rest).map fun (content, tail) => (c :: content, tail)

/-- Whether a bare text cannot go on with what follows. -/
def endsBare (s : List Char) : Bool :=
  match s with
  | [] => true
  | c :: _ => c == '(' || c == ')' || c == ',' || c == '"' || (operator? s).isSome

/-- The rest of a bare text and what follows it. -/
def bareRun : List Char → List Char × List Char
  | [] => ([], [])
  | c :: rest =>
      if endsBare (c :: rest) then ([], c :: rest)
      else
        let (run, tail) := bareRun rest
        (c :: run, tail)

theorem length_operator? {s rest : List Char} {op : Operator} (h : operator? s = some (op, rest)) :
    rest.length < s.length := by
  unfold operator? at h
  split at h <;> simp only [Option.some.injEq, Prod.mk.injEq, reduceCtorEq] at h
  all_goals
    rw [← h.2]
    simp only [List.length_cons]
    omega

theorem length_stringBody? {s content tail : List Char}
    (h : stringBody? s = some (content, tail)) : tail.length < s.length := by
  fun_induction stringBody? s generalizing content with
  | case1 => simp at h
  | case2 rest ih =>
      obtain ⟨⟨inner, after⟩, hi, he⟩ := Option.map_eq_some_iff.1 h
      cases he
      have := ih hi
      simp only [List.length_cons]; omega
  | case3 rest =>
      simp only [Option.some.injEq, Prod.mk.injEq] at h
      obtain ⟨_, rfl⟩ := h
      simp
  | case4 c rest _ _ ih =>
      obtain ⟨⟨inner, after⟩, hi, he⟩ := Option.map_eq_some_iff.1 h
      cases he
      have := ih hi
      simp only [List.length_cons]; omega

theorem length_bareRun_le (s : List Char) : (bareRun s).2.length ≤ s.length := by
  induction s with
  | nil => simp [bareRun]
  | cons c rest ih =>
      unfold bareRun
      split
      · simp
      · simp only [List.length_cons]; omega

/-- Cuts the rest of a formula, which starts at a position. -/
def cut (position : Nat) (s : List Char) : Except SyntaxFault (List Token) :=
  match s with
  | [] => .ok [⟨.stop, position⟩]
  | c :: rest =>
      if Text.isBlank c then cut (position + 1) rest
      else if c == '(' then do return ⟨.openParen, position⟩ :: (← cut (position + 1) rest)
      else if c == ')' then do return ⟨.closeParen, position⟩ :: (← cut (position + 1) rest)
      else if c == ',' then do return ⟨.comma, position⟩ :: (← cut (position + 1) rest)
      else if c == '"' then
        match _h : stringBody? rest with
        | none => .error (.unterminatedString position)
        | some (content, tail) => do
            let used := rest.length + 1 - tail.length
            return ⟨.string (String.ofList content), position⟩ :: (← cut (position + used) tail)
      else
        match _h : operator? (c :: rest) with
        | some (op, tail) => do
            let used := rest.length + 1 - tail.length
            return ⟨.operator op, position⟩ :: (← cut (position + used) tail)
        | none => do
            let run := bareRun rest
            let text := String.ofList (Text.trimChars (c :: run.1))
            return ⟨.bare text, position⟩ :: (← cut (position + 1 + run.1.length) run.2)
termination_by s.length
decreasing_by
  all_goals simp_wf
  · have := length_stringBody? _h; omega
  · have := length_operator? _h; simp only [List.length_cons] at this; omega
  · have := length_bareRun_le rest; omega

/-- The tokens of a formula; the last is the end. -/
def ofFormula (formula : String) : Except SyntaxFault (List Token) :=
  cut 0 formula.toList

end Token

end Gridbook
