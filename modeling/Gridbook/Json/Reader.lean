import Gridbook.Assoc
import Gridbook.Json.Value
import Gridbook.Number.Numeral

/-! # Reading JSON

Reads the standard grammar together with the three numbers `NaN`, `Infinity` and `-Infinity`. Of
two members with one name the later gives the value and the earlier the place. Reading stops at
the first position where no rule applies, and the error names it.
-/

namespace Gridbook.Json

/-- The most digits that an integer may be written with. -/
def maxIntegerDigits : Nat := 4300

/-- The most containers that may stand inside each other where the stack is nearly empty. -/
def maxNesting : Nat := 980

/-- What holds other values. -/
inductive Container where
  | array
  | object
  deriving Repr, DecidableEq

def Container.name : Container → String
  | .array => "array"
  | .object => "object"

/-- What was expected, or found instead, where reading stopped. -/
inductive Reason where
  | value
  | propertyName
  | colon
  | comma
  | unterminatedString
  | controlCharacter
  | escapeLetter
  | escapeDigits
  | extraData
  | byteOrderMark
  deriving Repr, DecidableEq

def Reason.message : Reason → String
  | .value => "Expecting value"
  | .propertyName => "Expecting property name enclosed in double quotes"
  | .colon => "Expecting ':' delimiter"
  | .comma => "Expecting ',' delimiter"
  | .unterminatedString => "Unterminated string starting at"
  | .controlCharacter => "Invalid control character at"
  | .escapeLetter => "Invalid \\escape"
  | .escapeDigits => "Invalid \\uXXXX escape"
  | .extraData => "Extra data"
  | .byteOrderMark => "Unexpected UTF-8 BOM (decode using utf-8-sig)"

/-- Why a text cannot be read. Positions count the characters that are left. -/
inductive Trouble where
  /-- No rule of the grammar applies where this many characters are left. -/
  | malformed (reason : Reason) (left : Nat)
  /-- An integer has more digits than are read. -/
  | integerTooLong (digits : Nat)
  /-- This container would stand inside more others than are read. -/
  | tooDeep (container : Container)
  deriving Repr, DecidableEq

def stopAt (reason : Reason) (s : List Char) : Except Trouble α :=
  .error (.malformed reason s.length)

/-- Text without the white space at its start. -/
def skipSpace (s : List Char) : List Char :=
  s.dropWhile fun c => c == ' ' || c == '\t' || c == '\n' || c == '\r'

def hexValue? (c : Char) : Option Nat :=
  if '0' ≤ c && c ≤ '9' then some (c.toNat - 48)
  else if 'a' ≤ c && c ≤ 'f' then some (c.toNat - 87)
  else if 'A' ≤ c && c ≤ 'F' then some (c.toNat - 55)
  else none

/-- The number that four hexadecimal digits at the start of a text spell. -/
def fourHex? : List Char → Option (Nat × List Char)
  | a :: b :: c :: d :: rest => do
      let value ← [a, b, c, d].foldlM (fun n x => (hexValue? x).map (n * 16 + ·)) 0
      some (value, rest)
  | _ => none

/-- A code unit, or the two that make up one character, with the text behind them. A text here has
no half of a pair by itself, so where a document spells one, it is read with the replacement
character instead; what is said of reading is meant of documents that spell whole characters. -/
def codeUnits? (s : List Char) : Option (Char × List Char) := do
  let (high, rest) ← fourHex? s
  if 0xD800 ≤ high && high < 0xDC00 then
    match rest with
    | '\\' :: 'u' :: more =>
        match fourHex? more with
        | some (low, tail) =>
            if 0xDC00 ≤ low && low < 0xE000 then
              some (Char.ofNat (0x10000 + (high - 0xD800) * 0x400 + (low - 0xDC00)), tail)
            else some ('\uFFFD', rest)
        | none => some ('\uFFFD', rest)
    | _ => some ('\uFFFD', rest)
  else if 0xDC00 ≤ high && high < 0xE000 then some ('\uFFFD', rest)
  else some (Char.ofNat high, rest)

/-- The character that a letter behind a backslash stands for. -/
def escaped? : Char → Option Char
  | '"' => some '"'
  | '\\' => some '\\'
  | '/' => some '/'
  | 'b' => some '\x08'
  | 'f' => some '\x0c'
  | 'n' => some '\n'
  | 'r' => some '\r'
  | 't' => some '\t'
  | _ => none

/-- The characters of a string up to its closing quote. `start` is the number of characters left
at its opening quote. -/
def readChars : Nat → Nat → List Char → Except Trouble (List Char × List Char)
  | 0, start, _ => .error (.malformed .unterminatedString start)
  | _ + 1, start, [] => .error (.malformed .unterminatedString start)
  | _ + 1, _, '"' :: rest => .ok ([], rest)
  | _ + 1, start, ['\\'] => .error (.malformed .unterminatedString start)
  | fuel + 1, start, '\\' :: 'u' :: rest =>
      match codeUnits? rest with
      | none => .error (.malformed .escapeDigits (rest.length + 1))
      | some (c, tail) => do
          let (chars, tail) ← readChars fuel start tail
          return (c :: chars, tail)
  | fuel + 1, start, '\\' :: letter :: rest =>
      match escaped? letter with
      | none => .error (.malformed .escapeLetter (rest.length + 2))
      | some c => do
          let (chars, tail) ← readChars fuel start rest
          return (c :: chars, tail)
  | fuel + 1, start, c :: rest =>
      if c.toNat < 32 then stopAt .controlCharacter (c :: rest)
      else do
        let (chars, tail) ← readChars fuel start rest
        return (c :: chars, tail)

/-- A string whose opening quote has been read. -/
def readString (s : List Char) : Except Trouble (String × List Char) := do
  let (chars, tail) ← readChars (s.length + 1) (s.length + 1) s
  return (String.ofList chars, tail)

/-- The whole part of a number: a zero alone, or digits of which the first is no zero. -/
def wholePart (s : List Char) : List Char × List Char :=
  match s with
  | '0' :: rest => (['0'], rest)
  | _ => (s.takeWhile Char.isDigit, s.dropWhile Char.isDigit)

/-- A fraction at the start of a text, with its point. -/
def fractionPart (s : List Char) : List Char × List Char :=
  match s with
  | '.' :: rest =>
      if rest.head?.any Char.isDigit then
        ('.' :: rest.takeWhile Char.isDigit, rest.dropWhile Char.isDigit)
      else ([], s)
  | _ => ([], s)

/-- An exponent at the start of a text, if it is complete. -/
def exponentPart (s : List Char) : List Char × List Char :=
  match s with
  | e :: rest =>
      if e == 'e' || e == 'E' then
        let (sign, unsigned) := match rest with
          | '+' :: more => (['+'], more)
          | '-' :: more => (['-'], more)
          | more => ([], more)
        if unsigned.head?.any Char.isDigit then
          (e :: sign ++ unsigned.takeWhile Char.isDigit, unsigned.dropWhile Char.isDigit)
        else ([], s)
      else ([], s)
  | [] => ([], s)

def readNumber (s : List Char) : Except Trouble (Json × List Char) :=
  let (negative, unsigned) := match s with
    | '-' :: rest => (true, rest)
    | _ => (false, s)
  let (whole, rest) := wholePart unsigned
  if whole.isEmpty then stopAt .value s
  else
    let (fraction, rest) := fractionPart rest
    let (exponent, rest) := exponentPart rest
    if fraction.isEmpty && exponent.isEmpty then
      if maxIntegerDigits < whole.length then .error (.integerTooLong whole.length)
      else
        let digits := whole.map fun c => c.toNat - 48
        .ok (.int (Double.signed negative (Numeral.ofDigits digits)), rest)
    else
      let numeral := (if negative then ['-'] else []) ++ whole ++ fraction ++ exponent
      .ok (.float (((Numeral.read? false numeral).getD default).toDouble), rest)

/-- The words that stand for values. -/
def literals : List (String × Json) :=
  [("null", .null), ("true", .bool true), ("false", .bool false), ("NaN", .float .nan),
    ("Infinity", .float (.infinite false)), ("-Infinity", .float (.infinite true))]

/-- A word at the start of a text that stands for a value. -/
def readLiteral? (s : List Char) : Option (Json × List Char) :=
  literals.findSome? fun (word, value) =>
    if word.toList.isPrefixOf s then some (value, s.drop word.length) else none

mutual

/-- A value at the start of a text, with room for so many containers inside each other. -/
def readValue : Nat → Nat → List Char → Except Trouble (Json × List Char)
  | 0, _, s => stopAt .value s
  | fuel + 1, room, s =>
      match s, room with
      | '"' :: rest, _ => do
          let (text, tail) ← readString rest
          return (.str text, tail)
      | '[' :: _, 0 => .error (.tooDeep .array)
      | '[' :: rest, room + 1 =>
          match skipSpace rest with
          | ']' :: tail => .ok (.arr [], tail)
          | first => do
              let (items, tail) ← readItems fuel room first
              return (.arr items, tail)
      | '\x7b' :: _, 0 => .error (.tooDeep .object)
      | '\x7b' :: rest, room + 1 =>
          match skipSpace rest with
          | '\x7d' :: tail => .ok (.obj [], tail)
          | first => do
              let (members, tail) ← readMembers fuel room [] first
              return (.obj members, tail)
      | s, _ =>
          match readLiteral? s with
          | some found => .ok found
          | none => readNumber s

/-- The items of a list up to its closing bracket. -/
def readItems : Nat → Nat → List Char → Except Trouble (List Json × List Char)
  | 0, _, s => stopAt .value s
  | fuel + 1, room, s => do
      let (item, rest) ← readValue fuel room s
      match skipSpace rest with
      | ']' :: tail => return ([item], tail)
      | ',' :: more =>
          let (items, tail) ← readItems fuel room (skipSpace more)
          return (item :: items, tail)
      | rest => stopAt .comma rest

/-- The members of an object up to its closing brace, added to those before. -/
def readMembers : Nat → Nat → List (String × Json) → List Char →
    Except Trouble (List (String × Json) × List Char)
  | 0, _, _, s => stopAt .propertyName s
  | fuel + 1, room, before, s =>
      match s with
      | '"' :: rest => do
          let (name, rest) ← readString rest
          match skipSpace rest with
          | ':' :: rest =>
              let (value, rest) ← readValue fuel room (skipSpace rest)
              let members := Assoc.set name value before
              match skipSpace rest with
              | '\x7d' :: tail => return (members, tail)
              | ',' :: more => readMembers fuel room members (skipSpace more)
              | rest => stopAt .comma rest
          | rest => stopAt .colon rest
      | s => stopAt .propertyName s

end

/-- Reads a whole text as one value, with room for so many containers inside each other. -/
def readWithin (room : Nat) (text : String) : Except Trouble Json := do
  let s := text.toList
  if s.head? == some '\uFEFF' then stopAt .byteOrderMark s
  else
    let (value, rest) ← readValue (s.length + 1) room (skipSpace s)
    match skipSpace rest with
    | [] => return value
    | rest => stopAt .extraData rest

def read (text : String) : Except Trouble Json :=
  readWithin maxNesting text

/-- The wording of a trouble met in a text, with the line, column and number of the character
where reading stopped. -/
def Trouble.message (text : String) : Trouble → String
  | .malformed reason left =>
      let s := text.toList
      let position := s.length - left
      let before := s.take position
      let line := before.count '\n' + 1
      let column := (before.reverse.takeWhile (· != '\n')).length + 1
      reason.message ++ ": line " ++ toString line ++ " column " ++ toString column ++
        " (char " ++ toString position ++ ")"
  | .integerTooLong digits =>
      "Exceeds the limit (4300 digits) for integer string conversion: value has " ++
        toString digits ++ " digits; use sys.set_int_max_str_digits() to increase the limit"
  | .tooDeep container =>
      "maximum recursion depth exceeded while decoding a JSON " ++ container.name ++
        " from a unicode string"

end Gridbook.Json
