import Gridbook.Number.Numeral
import Gridbook.Settings
import Gridbook.Text.Blank

/-! # Checking settings documents

A document either gives settings or a list of every issue in it, in the order of its fields with
unknown members last. Integers are taken from truth values, integral doubles and numerals too;
texts only from texts.
-/

namespace Gridbook

/-- A checked value, or the issues that were found. -/
def Checked (α : Type) := Except (List Issue) α

namespace Checked

/-- A value without issues. -/
def ok (a : α) : Checked α := Except.ok a

/-- One issue, at the place itself. -/
def issue (kind : Issue.Kind) : Checked α := Except.error [⟨[], kind⟩]

def issues : Checked α → List Issue
  | .ok _ => []
  | .error found => found

/-- A check of a part, seen from the whole. -/
def under (step : String) : Checked α → Checked α
  | .ok a => .ok a
  | .error found => .error (found.map fun i => { i with path := step :: i.path })

/-- Two checks, both of which are made. -/
def both (f : Checked (α → β)) (a : Checked α) : Checked β :=
  match f, a with
  | .ok f, .ok a => .ok (f a)
  | f, a => .error (f.issues ++ a.issues)

instance : Applicative Checked where
  pure := ok
  seq f a := both f (a ())

/-- The checks of several parts, all of which are made. -/
def all : List (Checked α) → Checked (List α)
  | [] => ok []
  | a :: rest => both (both (ok List.cons) a) (all rest)

def toExcept : Checked α → Except Fault α
  | .ok a => .ok a
  | .error found => .error (.invalidSettings found)

end Checked

namespace Numeral

/-- The white space at the ends of a numeral. -/
def isPadding (c : Char) : Bool :=
  Text.isBlank c && !(28 ≤ c.toNat && c.toNat ≤ 31)

/-- A numeral without the zeros and underscores in front of its first digit that counts. Only a
numeral that starts with a zero may have a minus sign behind these. -/
def dropLeadingZeros : List Char → Option (List Char)
  | '0' :: rest => afterZero '0' rest
  | c :: rest => if '1' ≤ c && c ≤ '9' then some (c :: rest) else none
  | [] => none
where
  /-- Goes on behind a zero; `last` is the character in front. -/
  afterZero (last : Char) : List Char → Option (List Char)
    | [] => some [last]
    | c :: rest =>
        if c == '0' || c == '_' then afterZero c rest
        else if ('1' ≤ c && c ≤ '9') || c == '-' then some (c :: rest)
        else if c == '.' then some (last :: c :: rest)
        else none

/-- A numeral without a point behind which zeros, one or more, and nothing else stand. -/
def dropPoint (s : List Char) : List Char :=
  match s.dropWhile (· != '.') with
  | '.' :: '0' :: zeros => if zeros.all (· == '0') then s.takeWhile (· != '.') else s
  | _ => s

/-- Whether an underscore stands next to another one. -/
def hasDoubledUnderscore : List Char → Bool
  | '_' :: '_' :: _ => true
  | _ :: rest => hasDoubledUnderscore rest
  | [] => false

/-- A numeral without underscores, if each of them stands between two characters. -/
def dropUnderscores (s : List Char) : List Char :=
  if s.head? == some '_' || s.getLast? == some '_' || hasDoubledUnderscore s then s
  else s.filter (· != '_')

/-- A numeral as it counts, but for its sign: without zeros in front, underscores between digits,
and a fraction of zeros. -/
def cleanedMagnitude? (s : List Char) : Option (List Char) :=
  (dropLeadingZeros s).map fun digits => dropUnderscores (dropPoint digits)

/-- A numeral as it counts: without padding and plus sign, and cleaned behind its sign. -/
def cleaned? (s : List Char) : Option (List Char) :=
  match ((s.dropWhile isPadding).reverse.dropWhile isPadding).reverse with
  | '+' :: rest => cleanedMagnitude? rest
  | '-' :: rest => (cleanedMagnitude? rest).map ('-' :: ·)
  | rest => cleanedMagnitude? rest

/-- Whether a numeral has a minus sign, and what stands behind it. -/
def splitSign : List Char → Bool × List Char
  | '-' :: rest => (true, rest)
  | rest => (false, rest)

/-- Whether a numeral starts with more digits than are read. Behind a zero no digit is read. -/
def isTooLong (unsigned : List Char) : Bool :=
  unsigned.head? != some '0' && Json.maxIntegerDigits < (unsigned.takeWhile Char.isDigit).length

/-- The natural number that ASCII digits spell, without zeros in front. -/
def bareNatural? (digits : List Char) : Option Nat :=
  if digits.isEmpty || !digits.all Char.isDigit then none
  else if digits.head? == some '0' && digits.length != 1 then none
  else some (ofDigits (digits.map fun c => c.toNat - 48))

end Numeral

namespace Checked

def integerText (s : String) : Checked Int :=
  match Numeral.cleaned? s.toList with
  | none => issue .intParsing
  | some numeral =>
      let (negative, digits) := Numeral.splitSign numeral
      if Numeral.isTooLong digits then issue .intParsingSize
      else match Numeral.bareNatural? digits with
        | some n => ok (Double.signed negative n)
        | none => issue .intParsing

/-- The integers that a double may stand for are those of 64 bits. -/
def integerDouble (x : Double) : Checked Int :=
  if !x.isFinite then issue .finiteNumber
  else match x.toInt? with
    | none => issue .intFromFloat
    | some n => if n.natAbs < 0x8000000000000000 then ok n else issue .intParsingSize

def integer : Json → Checked Int
  | .bool b => ok (if b then 1 else 0)
  | .int n => ok n
  | .float x => integerDouble x
  | .str s => integerText s
  | _ => issue .intType

def string : Json → Checked String
  | .str s => ok s
  | _ => issue .stringType

def filledString : Json → Checked { s : String // s ≠ "" }
  | .str s => if h : s ≠ "" then ok ⟨s, h⟩ else issue .stringTooShort
  | _ => issue .stringType

/-- A text, or nothing. -/
def optionalString : Json → Checked (Option String)
  | .null => ok none
  | value => some <$> string value

def columnType : Json → Checked ColumnType
  | .str s =>
      match ColumnType.ofName? s with
      | some type => ok type
      | none => issue .enumeration
  | _ => issue .enumeration

/-- A list, each item of which is checked. -/
def list (item : Json → Checked α) : Json → Checked (List α)
  | .arr items => all (items.zipIdx.map fun (value, i) => under (toString i) (item value))
  | _ => issue .listType

def optionalMember (members : List (String × Json)) (name : String) (default : α)
    (check : Json → Checked α) : Checked α :=
  match members.lookup name with
  | some value => under name (check value)
  | none => ok default

def member (members : List (String × Json)) (name : String) (check : Json → Checked α) :
    Checked α :=
  under name <| match members.lookup name with
    | some value => check value
    | none => issue .missing

/-- Finds the members that have no meaning. -/
def noOthers (known : List String) (members : List (String × Json)) : Checked Unit :=
  match members.filter fun (name, _) => !known.contains name with
  | [] => ok ()
  | extra => .error (extra.map fun (name, _) => ⟨[name], .extraForbidden⟩)

def widthEntry : String × Json → Checked (Int × Int)
  | (key, value) =>
      under key (Prod.mk <$> under "[key]" (integerText key) <*> integer value)

/-- Column widths by index. Of two entries for one index the later gives the width. -/
def widths : Json → Checked (List (Int × Int))
  | .obj members =>
      (fun entries => entries.foldl (fun found (i, w) => Assoc.set i w found) []) <$>
        all (members.map widthEntry)
  | _ => issue .dictType

def storedColumn : Json → Checked StoredColumn
  | .obj members =>
      (fun name type format _ => ⟨name, type, format⟩) <$> member members "name" string
        <*> optionalMember members "data_type" .text columnType
        <*> optionalMember members "format" none optionalString
        <*> noOthers ["name", "data_type", "format"] members
  | _ => issue .modelType

def storedField : Json → Checked StoredField
  | .obj members =>
      (fun name formula _ => ⟨name.1, formula.1, name.2, formula.2⟩) <$>
        member members "name" filledString
        <*> member members "formula" filledString
        <*> noOthers ["name", "formula"] members
  | _ => issue .modelType

def settings : Json → Checked Settings
  | .obj members =>
      (fun version widths columns fields _ => ⟨version, widths, columns, fields⟩) <$>
        optionalMember members "schema_version" Settings.currentVersion integer
        <*> optionalMember members "column_widths" [] widths
        <*> optionalMember members "column_metadata" [] (list storedColumn)
        <*> optionalMember members "calculated_fields" [] (list storedField)
        <*> noOthers ["schema_version", "column_widths", "column_metadata", "calculated_fields"]
          members
  | _ => issue .modelType

end Checked

def Settings.ofJson (document : Json) : Except Fault Settings :=
  (Checked.settings document).toExcept

/-- Current settings, or empty ones, with some members replaced. -/
def Settings.amend (current : Option Settings) (patch : List (String × Json)) :
    Except Fault Settings :=
  let members := match current.map Settings.toJson with
    | some (.obj members) => members
    | _ => []
  Settings.ofJson (.obj (patch.foldl (fun found (name, value) => Assoc.set name value found)
    members))

/-- Settings with other column widths. Widths that are not given are none. -/
def Settings.withWidths (settings : Settings) (document : Json) : Except Fault Settings := do
  let checked := if document.isGiven then Checked.widths document else Checked.ok []
  let widths ← (checked.under "column_widths").toExcept
  return { settings with widths }

end Gridbook
