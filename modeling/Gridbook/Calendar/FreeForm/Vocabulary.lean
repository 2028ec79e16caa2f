import Gridbook.Text.Case

/-! # Words of dates

The names that a date text may use, in any case.
-/

namespace Gridbook.FreeForm

/-- The position of the first group that holds a word, in any case. -/
def groupOf (groups : List (List String)) (word : String) : Option Nat :=
  groups.findIdx? fun names => names.contains (Text.lower word)

/-- The day of the week that a word names, with Monday as 0. -/
def weekday? (word : String) : Option Nat :=
  groupOf [["mon", "monday"], ["tue", "tuesday"], ["wed", "wednesday"], ["thu", "thursday"],
    ["fri", "friday"], ["sat", "saturday"], ["sun", "sunday"]] word

/-- The month, from 1, that a word names. -/
def month? (word : String) : Option Nat :=
  (groupOf [["jan", "january"], ["feb", "february"], ["mar", "march"], ["apr", "april"], ["may"],
    ["jun", "june"], ["jul", "july"], ["aug", "august"], ["sep", "sept", "september"],
    ["oct", "october"], ["nov", "november"], ["dec", "december"]] word).map (· + 1)

/-- A unit of the time of day that a word names: 0 for hours, 1 for minutes, 2 for seconds. -/
def timeUnit? (word : String) : Option Nat :=
  groupOf [["h", "hour", "hours"], ["m", "minute", "minutes"], ["s", "second", "seconds"]] word

/-- The half of the day that a word names: `false` before noon, `true` after it. -/
def halfDay? (word : String) : Option Bool :=
  (groupOf [["am", "a"], ["pm", "p"]] word).map (· == 1)

/-- Whether a word or mark may stand anywhere without a meaning of its own. -/
def isFiller (word : String) : Bool :=
  [" ", ".", ",", ";", "-", "/", "'", "at", "on", "and", "ad", "m", "t", "of", "st", "nd", "rd",
    "th"].contains (Text.lower word)

/-- Whether a word is a name of universal time, in any case. -/
def namesUniversalTime (word : String) : Bool :=
  ["utc", "gmt", "z"].contains (Text.lower word)

/-- Whether a word looks like the name of a time zone. -/
def looksLikeZone (word : String) : Bool :=
  word.length ≤ 5 && (word.toList.all Char.isUpper || ["UTC", "GMT", "Z", "z"].contains word)

def namesNoNumber (word : String) : Bool :=
  ["inf", "infinity", "nan"].contains (Text.lower word)

end Gridbook.FreeForm
