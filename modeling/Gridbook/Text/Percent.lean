import Gridbook.Text.Quoted

/-! # Percent encoding

Text as a file name that every file system accepts: ASCII letters, digits and `_ . - ~` stand for
themselves and every other byte of the text's UTF-8 form is written `%` and two hexadecimal digits.
-/

namespace Gridbook.Text.Percent

/-- Characters that stand for themselves. -/
def isPlain (c : Char) : Bool :=
  c.isAlphanum || c == '_' || c == '.' || c == '-' || c == '~'

/-- The hexadecimal digit, in upper case, of a number below sixteen. -/
def hexDigit (n : Nat) : Char :=
  if n < 10 then Char.ofNat (48 + n) else Char.ofNat (55 + n)

/-- The value of a hexadecimal digit, in either case. -/
def hexValue? (c : Char) : Option Nat :=
  if '0' ≤ c && c ≤ '9' then some (c.toNat - 48)
  else if 'A' ≤ c && c ≤ 'F' then some (c.toNat - 55)
  else if 'a' ≤ c && c ≤ 'f' then some (c.toNat - 87)
  else none

def encodeByte (b : UInt8) : List Char :=
  let c := Char.ofNat b.toNat
  if isPlain c then [c] else ['%', hexDigit (b.toNat / 16), hexDigit (b.toNat % 16)]

def encodeBytes (bytes : List UInt8) : List Char :=
  bytes.flatMap encodeByte

/-- The bytes that a text stands for when escapes are read: `%` and two hexadecimal digits stand for
one byte, and every other character for the bytes of its UTF-8 form. -/
def decodeBytes : List Char → List UInt8
  | [] => []
  | '%' :: high :: low :: rest =>
      match hexValue? high, hexValue? low with
      | some h, some l => UInt8.ofNat (h * 16 + l) :: decodeBytes rest
      | _, _ => String.utf8EncodeChar '%' ++ decodeBytes (high :: low :: rest)
  | c :: rest => String.utf8EncodeChar c ++ decodeBytes rest

def encode (s : String) : String :=
  String.ofList (encodeBytes s.toUTF8.data.toList)

/-- The text that a percent-encoded form stands for, if its bytes are UTF-8. -/
def decode (s : String) : Option String :=
  String.fromUTF8? ⟨(decodeBytes s.toList).toArray⟩

end Gridbook.Text.Percent
