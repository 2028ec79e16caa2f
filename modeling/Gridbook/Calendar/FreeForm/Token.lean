import Gridbook.Text.Blank
import Gridbook.Text.Letter
import Gridbook.Text.Digit

/-! # Words and numbers of a date text

A date text is cut into runs of letters, runs of digits, single blanks and single other
characters. A point may join words or numbers for a while, as in `a.m.` or `10.5`; a run that it
joins into more than one decimal fraction is cut again at its points and commas.
-/

namespace Gridbook.FreeForm

/-- What a run of characters has been so far. -/
inductive Run where
  | word
  | number
  /-- Words and points. -/
  | dottedWord
  /-- Numbers and points. -/
  | dottedNumber
  deriving Repr, DecidableEq

def Run.isWord : Run → Bool
  | .word | .dottedWord => true
  | _ => false

/-- Whether a run has met a point or comma. -/
def Run.isDotted : Run → Bool
  | .dottedWord | .dottedNumber => true
  | _ => false

/-- What a run becomes with one more character, if the character belongs to it. The characters
so far stand nearest first. -/
def Run.extend? (run : Run) (before : List Char) (c : Char) : Option Run :=
  let afterPoint := before.head? == some '.'
  match run with
  | .word =>
      if Text.isLetter c then some .word else if c == '.' then some .dottedWord else none
  | .number =>
      if Text.isDigitLike c then some .number
      else if c == '.' || (c == ',' && 2 ≤ before.length) then some .dottedNumber
      else none
  | .dottedWord =>
      if c == '.' || Text.isLetter c then some .dottedWord
      else if Text.isDigitLike c && afterPoint then some .dottedNumber
      else none
  | .dottedNumber =>
      if c == '.' || Text.isDigitLike c then some .dottedNumber
      else if Text.isLetter c && afterPoint then some .dottedWord
      else none

/-- The pieces of a run between its points and commas, with these as pieces of their own. -/
def cutAtPoints : List Char → List (List Char)
  | [] => [[]]
  | c :: rest =>
      if c == '.' || c == ',' then [] :: [c] :: cutAtPoints rest
      else match cutAtPoints rest with
        | [] => [[c]]
        | piece :: pieces => (c :: piece) :: pieces

def finish (run : Run) (spansWords : Bool) (s : List Char) : List (List Char) :=
  let last := s.getLast?
  if run.isDotted && (spansWords || 1 < s.count '.' || last == some '.' || last == some ',') then
    (cutAtPoints s).filter (!·.isEmpty)
  else if run == .dottedNumber && !s.contains '.' then
    [s.map fun c => if c == ',' then '.' else c]
  else [s]

/-- Cuts text, with the run in progress, its characters nearest first, and whether a character
has been read while the run held words. -/
def cut : Option (Run × List Char × Bool) → List Char → List (List Char)
  | none, [] => []
  | some (run, before, spansWords), [] => finish run spansWords before.reverse
  | none, c :: rest =>
      if Text.isLetter c then cut (some (.word, [c], false)) rest
      else if Text.isDigitLike c then cut (some (.number, [c], false)) rest
      else if Text.isBlank c then [' '] :: cut none rest
      else [c] :: cut none rest
  | some (run, before, spansWords), c :: rest =>
      let spansWords := spansWords || run.isWord
      match run.extend? before c with
      | some next => cut (some (next, c :: before, spansWords)) rest
      | none =>
          finish run spansWords before.reverse ++
            if Text.isLetter c then cut (some (.word, [c], false)) rest
            else if Text.isDigitLike c then cut (some (.number, [c], false)) rest
            else if Text.isBlank c then [' '] :: cut none rest
            else [c] :: cut none rest

/-- The words and numbers of a date text; null characters are passed over. -/
def tokens (text : String) : List String :=
  (cut none (text.toList.filter (· != '\u0000'))).map String.ofList

end Gridbook.FreeForm
