import Gridbook.Json.Value

/-! # Writing JSON

Two layouts: everything on one line, or every item and member on a line of its own. In both,
characters outside printable ASCII are written as escapes of their UTF-16 code units.
-/

namespace Gridbook.Json

def unitEscape (unit : Nat) : List Char :=
  '\\' :: 'u' :: Text.hex 4 unit

def writeChar (c : Char) : List Char :=
  match c with
  | '"' => ['\\', '"']
  | '\\' => ['\\', '\\']
  | '\n' => ['\\', 'n']
  | '\r' => ['\\', 'r']
  | '\t' => ['\\', 't']
  | '\x08' => ['\\', 'b']
  | '\x0c' => ['\\', 'f']
  | c =>
      if 32 ≤ c.toNat && c.toNat < 127 then [c]
      else if c.toNat < 0x10000 then unitEscape c.toNat
      else
        let n := c.toNat - 0x10000
        unitEscape (0xD800 + n / 0x400) ++ unitEscape (0xDC00 + n % 0x400)

def writeString (s : String) : List Char :=
  '"' :: s.toList.flatMap writeChar ++ ['"']

def writeFloat : Double → List Char
  | .nan => "NaN".toList
  | .infinite negative => (if negative then "-Infinity" else "Infinity").toList
  | x => x.text.toList

/-- How items and members are set apart. -/
inductive Layout where
  /-- Everything on one line. -/
  | line
  /-- Each on a line of its own, indented by two spaces a level. -/
  | indented
  deriving Repr, DecidableEq

/-- What stands before an item of a container at a depth. -/
def Layout.open (layout : Layout) (depth : Nat) : List Char :=
  match layout with
  | .line => []
  | .indented => '\n' :: List.replicate (2 * depth) ' '

/-- What stands between two items of a container at a depth. -/
def Layout.between (layout : Layout) (depth : Nat) : List Char :=
  match layout with
  | .line => [',', ' ']
  | .indented => ',' :: layout.open depth

mutual

/-- A value inside containers of the given depth. -/
def write (layout : Layout) (depth : Nat) : Json → List Char
  | .null => "null".toList
  | .bool b => (if b then "true" else "false").toList
  | .int n => showInteger false n
  | .float x => writeFloat x
  | .str s => writeString s
  | .arr [] => ['[', ']']
  | .arr (item :: items) =>
      '[' :: layout.open (depth + 1) ++ write layout (depth + 1) item ++
        writeItems layout (depth + 1) items ++ layout.open depth ++ [']']
  | .obj [] => ['\x7b', '\x7d']
  | .obj ((name, value) :: members) =>
      '\x7b' :: layout.open (depth + 1) ++ writeString name ++ [':', ' '] ++
        write layout (depth + 1) value ++ writeMembers layout (depth + 1) members ++
          layout.open depth ++ ['\x7d']

def writeItems (layout : Layout) (depth : Nat) : List Json → List Char
  | [] => []
  | item :: items =>
      layout.between depth ++ write layout depth item ++ writeItems layout depth items

def writeMembers (layout : Layout) (depth : Nat) : List (String × Json) → List Char
  | [] => []
  | (name, value) :: members =>
      layout.between depth ++ writeString name ++ [':', ' '] ++ write layout depth value ++
        writeMembers layout depth members

end

def render (layout : Layout) (value : Json) : String :=
  String.ofList (write layout 0 value)

end Gridbook.Json
