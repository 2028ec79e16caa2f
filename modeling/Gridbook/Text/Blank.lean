/-! # Blanks

The white space that trimming, splitting and number reading look through: the Unicode white space
together with the four information separators.
-/

namespace Gridbook.Text

def blankCodes : List Nat :=
  [9, 10, 11, 12, 13, 28, 29, 30, 31, 32, 133, 160, 5760, 8192, 8193, 8194, 8195, 8196, 8197,
    8198, 8199, 8200, 8201, 8202, 8232, 8233, 8239, 8287, 12288]

def isBlank (c : Char) : Bool :=
  blankCodes.contains c.toNat

/-- Text without the blanks at its two ends. -/
def trimChars (s : List Char) : List Char :=
  ((s.dropWhile isBlank).reverse.dropWhile isBlank).reverse

/-- Text without the blanks at its two ends. -/
def trim (s : String) : String :=
  String.ofList (trimChars s.toList)

/-- The maximal runs of non-blank characters. -/
def words (s : List Char) : List (List Char) :=
  s.splitBy (fun a b => isBlank a == isBlank b) |>.filter fun run => run.any fun c => !isBlank c

/-- Text with every run of blanks reduced to one space and none at the ends. -/
def squeeze (s : String) : String :=
  String.ofList ((words s.toList).intersperse [' ']).flatten

end Gridbook.Text
