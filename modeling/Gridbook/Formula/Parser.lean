import Gridbook.Formula.Token

/-! # Parsing formulas

An argument is an operand or a comparison of two; an operand is a string, a bare text, or a call
with arguments between parentheses. A bare text that spells a number is a number and otherwise
names a column.
-/

namespace Gridbook

namespace Formula

/-- Text without a line break at its very end. What a bare text spells does not depend on that one;
a text that was cut from a formula has none. -/
def dropLineEnd (s : List Char) : List Char :=
  if s.getLast? == some '\n' then s.dropLast else s

/-- Whether characters are a word: ASCII letters, digits, underscores and points, of which the first
is a letter or an underscore. -/
def isWord : List Char → Bool
  | [] => false
  | c :: rest => (c.isAlpha || c == '_') && rest.all fun d => d.isAlphanum || d == '_' || d == '.'

/-- Whether a bare text may be the name of a function. -/
def isFunctionName (name : String) : Bool :=
  isWord (dropLineEnd name.toList)

def ofBare (content : String) : Except Fault Formula :=
  let s := dropLineEnd content.toList
  match Numeral.integer? s, Numeral.read? false s with
  | some (negative, digits), _ =>
      if Json.maxIntegerDigits < digits.length then .error (.numeralTooLong digits.length)
      else .ok (.literal (.int (Double.signed negative (Numeral.ofDigits digits))))
  | none, some x => .ok (.literal (.float x.toDouble))
  | none, none => .ok (.column content)

/-- The first token. Every token list ends in the end of the formula, which is never passed. -/
def firstToken : List Token → Token
  | [] => ⟨.stop, 0⟩
  | token :: _ => token

mutual

/-- An operand inside so many calls. -/
def parseOperand : Nat → Nat → List Token → Except Fault (Formula × List Token)
  | 0, _, _ => .error (.formula .tooDeep)
  | fuel + 1, depth, tokens =>
      match tokens with
      | ⟨.string content, _⟩ :: rest => .ok (.literal (.text content), rest)
      | ⟨.bare name, _⟩ :: ⟨.openParen, _⟩ :: rest =>
          if !isFunctionName name then .error (.formula (.functionName name))
          else if maxNesting ≤ depth then .error (.formula .tooDeep)
          else
            match rest with
            | ⟨.closeParen, _⟩ :: tail => .ok (.call (Text.upper name) [], tail)
            | _ => do
                let (arguments, tail) ← parseArguments fuel (depth + 1) (Text.upper name) rest
                return (.call (Text.upper name) arguments, tail)
      | ⟨.bare content, _⟩ :: rest => do return (← ofBare content, rest)
      | tokens =>
          let token := firstToken tokens
          .error (.formula (.unexpected token.lexeme.shown token.position))

def parseArgument : Nat → Nat → List Token → Except Fault (Formula × List Token)
  | 0, _, _ => .error (.formula .tooDeep)
  | fuel + 1, depth, tokens => do
      let (left, rest) ← parseOperand fuel depth tokens
      match rest with
      | ⟨.operator op, _⟩ :: more =>
          let (right, tail) ← parseOperand fuel depth more
          return (.compare left op right, tail)
      | _ => return (left, rest)

def parseArguments : Nat → Nat → String → List Token → Except Fault (List Formula × List Token)
  | 0, _, _, _ => .error (.formula .tooDeep)
  | fuel + 1, depth, function, tokens => do
      let (argument, rest) ← parseArgument fuel depth tokens
      match rest with
      | ⟨.closeParen, _⟩ :: tail => return ([argument], tail)
      | ⟨.comma, _⟩ :: more =>
          let (arguments, tail) ← parseArguments fuel depth function more
          return (argument :: arguments, tail)
      | rest => .error (.formula (.argumentEnd function (firstToken rest).position))

end

/-- The formula that a list of tokens spells. Three steps a token are more than are taken. -/
def ofTokens (tokens : List Token) : Except Fault Formula := do
  let (formula, rest) ← parseArgument (3 * tokens.length + 3) 0 tokens
  match firstToken rest with
  | ⟨.stop, _⟩ => return formula
  | token => .error (.formula (.unexpected token.lexeme.text token.position))

/-- A formula without the blanks around it and without one equals sign in front. -/
def body (text : String) : String :=
  let s := Text.trimChars text.toList
  match s with
  | '=' :: '=' :: _ => String.ofList s
  | '=' :: rest => String.ofList rest
  | _ => String.ofList s

def parse (text : String) : Except Fault Formula :=
  if (Text.trim (body text)).isEmpty then .error (.formula .empty)
  else
    match Token.ofFormula (body text) with
    | .ok tokens => ofTokens tokens
    | .error fault => .error (.formula fault)

end Formula

end Gridbook
