import Gridbook.Text.CaseTable

/-! # Upper and lower case

Full case mapping of text: a character may map to several, and a capital sigma that ends a word
has a lower case of its own.
-/

namespace Gridbook.Text

/-- The code point that a table of runs pairs with a code point. -/
def shiftedCode (runs : List (Nat × Nat × Nat × Int)) (code : Nat) : Option Nat :=
  (runs.find? fun (first, last, step, _) =>
      first ≤ code && code ≤ last && (code - first) % step == 0).map
    fun (_, _, _, distance) => (code + distance).toNat

def upperOf (c : Char) : List Char :=
  if c.toNat < 128 then [c.toUpper]
  else match upperSequences.lookup c.toNat with
    | some codes => codes.map Char.ofNat
    | none => [((shiftedCode upperRuns c.toNat).map Char.ofNat).getD c]

/-- The lower case of one character, taken on its own. -/
def lowerOf (c : Char) : List Char :=
  if c.toNat < 128 then [c.toLower]
  else if c == 'İ' then ['i', '\u0307']
  else [((shiftedCode lowerRuns c.toNat).map Char.ofNat).getD c]

/-- Whether the nearest character that casing does not look through is cased. -/
def meetsCased (s : List Char) : Bool :=
  ((s.dropWhile fun c => inRanges caseIgnorableRanges c.toNat).head?).any
    fun c => inRanges casedRanges c.toNat

/-- Lower case of text that follows the given characters, nearest first. -/
def lowerAfter (before : List Char) : List Char → List Char
  | [] => []
  | c :: rest =>
      (if c == 'Σ' then [if meetsCased before && !meetsCased rest then 'ς' else 'σ']
        else lowerOf c) ++ lowerAfter (c :: before) rest

def upper (s : String) : String :=
  String.ofList (s.toList.flatMap upperOf)

def lower (s : String) : String :=
  String.ofList (lowerAfter [] s.toList)

end Gridbook.Text
