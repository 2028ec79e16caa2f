import Gridbook.Column.Type
import Gridbook.Json.Reader
import Gridbook.Number.Decimal
import Gridbook.Text.Quoted

/-! # Faults

Every reason for which an operation has no result, by its cause, and the wording of each.
-/

namespace Gridbook

/-- What is wrong with one part of a settings document. -/
inductive Issue.Kind where
  | extraForbidden
  | missing
  | enumeration
  | stringType
  | stringTooShort
  | intType
  | intParsing
  | intParsingSize
  | intFromFloat
  | finiteNumber
  | dictType
  | listType
  | modelType
  | greaterThanEqual
  deriving Repr, DecidableEq

def Issue.Kind.name : Issue.Kind → String
  | .extraForbidden => "extra_forbidden"
  | .missing => "missing"
  | .enumeration => "enum"
  | .stringType => "string_type"
  | .stringTooShort => "string_too_short"
  | .intType => "int_type"
  | .intParsing => "int_parsing"
  | .intParsingSize => "int_parsing_size"
  | .intFromFloat => "int_from_float"
  | .finiteNumber => "finite_number"
  | .dictType => "dict_type"
  | .listType => "list_type"
  | .modelType => "model_type"
  | .greaterThanEqual => "greater_than_equal"

/-- A part of a settings document, by its path, and what is wrong with it. -/
structure Issue where
  path : List String
  kind : Issue.Kind
  deriving Repr, DecidableEq

def Issue.text (issue : Issue) : String :=
  ".".intercalate issue.path ++ ": " ++ issue.kind.name

/-- Why a formula cannot be parsed. -/
inductive SyntaxFault where
  | empty
  /-- A string without its closing quote, by the position of its opening one. -/
  | unterminatedString (position : Nat)
  /-- A token that cannot stand where it stands. -/
  | unexpected (shown : String) (position : Nat)
  /-- Something else stands where an argument list goes on or ends. -/
  | argumentEnd (function : String) (position : Nat)
  | functionName (name : String)
  | tooDeep
  deriving Repr, DecidableEq

/-- The deepest nesting of calls that a formula may have. -/
def maxNesting : Nat := 100

def SyntaxFault.message : SyntaxFault → String
  | .empty => "Empty formula"
  | .unterminatedString position => "Unterminated string at position " ++ toString position
  | .unexpected shown position =>
      "Unexpected " ++ Text.quoted shown ++ " at position " ++ toString position
  | .argumentEnd function position =>
      "Expected ',' or ')' in " ++ function ++ "() at position " ++ toString position
  | .functionName name => "Invalid function name " ++ Text.quoted name
  | .tooDeep => "Formula nests deeper than " ++ toString maxNesting ++ " calls"

/-- How many arguments a function takes. -/
inductive Arity where
  | exactly (count : Nat)
  | between (low high : Nat)
  | atLeastOne
  deriving Repr, DecidableEq

/-- Whether a number of arguments will do. -/
def Arity.admits : Arity → Nat → Bool
  | .exactly count, n => n == count
  | .between low high, n => low ≤ n && n ≤ high
  | .atLeastOne, n => n != 0

def Arity.text : Arity → String
  | .exactly count => "exactly " ++ toString count ++ " argument(s)"
  | .between low high => toString low ++ " to " ++ toString high ++ " arguments"
  | .atLeastOne => "at least 1 argument"

/-- Why an operation has no result. -/
inductive Fault where
  /-- An integer is beyond the range of doubles. -/
  | integerBeyondDouble
  /-- An integer has too many digits to be written out. -/
  | integerTooLong
  /-- An integer has too many digits to be read. -/
  | numeralTooLong (digits : Nat)
  | decimal (refusal : Decimal.Refusal)
  | formula (fault : SyntaxFault)
  | arity (function : String) (takes : Arity)
  /-- A row is not as wide as the columns. -/
  | raggedRow (index width : Nat) (columns : List String)
  | metadataCount (entries columns : Nat)
  | unknownType (name : String)
  | calculatedWithoutFormula (name : String)
  | sourceWithFormula (name : String)
  | incompleteField
  | columnExists (name : String)
  | notCalculated (name : String)
  /-- No column has this index; indexes do not count from the end here. -/
  | noSuchColumn (index : Int)
  | indexOutOfRange
  | formatNotOffered (tag : String) (type : ColumnType)
  | unknownJoin (name : String)
  | emptyMerge
  | unnamedLeftTable
  | missingColumns (table : String) (names : List String)
  | unknownTable (id : String)
  | unknownSource (id : String)
  | isMergedTable (id : String)
  | isSourceTable (id : String)
  | alreadyRegistered (id : String)
  | selfDependentMerge (id : String)
  | cyclicEdge (derived source : String)
  | cyclicGraph (tables : List String)
  /-- Nothing is on record for a table. -/
  | noRecord (id : String)
  | invalidVersion (shown : String)
  | newerVersion (version : Int)
  /-- A record, or an entry of one, is no object. -/
  | notAnObject (kind : String)
  /-- A list of entries is a value that cannot be gone through. -/
  | notAList (kind : String)
  | missingMember (name : String)
  | invalidSettings (issues : List Issue)
  /-- A stored text is no JSON. -/
  | unreadable (text : String) (trouble : Json.Trouble)
  /-- The file system takes no file of this name. -/
  | fileNameRefused (name : String)
  deriving DecidableEq

namespace Fault

/-- The wording of a fault. Where the cause is a name that is looked for, the wording is shown in
quotes as a name is. -/
def message : Fault → String
  | integerBeyondDouble => "int too large to convert to float"
  | integerTooLong =>
      "Exceeds the limit (4300 digits) for integer string conversion; " ++
        "use sys.set_int_max_str_digits() to increase the limit"
  | numeralTooLong digits => (Json.Trouble.integerTooLong digits).message ""
  | decimal .invalidOperation => "[<class 'decimal.InvalidOperation'>]"
  | decimal .overflow => "[<class 'decimal.Overflow'>]"
  | decimal .divisionImpossible => "[<class 'decimal.DivisionImpossible'>]"
  | formula fault => fault.message
  | arity function takes => function ++ " requires " ++ takes.text
  | raggedRow index width columns =>
      "Row " ++ toString index ++ " has " ++ toString width ++ " values, expected " ++
        toString columns.length ++ " (" ++ Text.quotedList columns ++ ")"
  | metadataCount entries columns =>
      toString entries ++ " metadata entries for " ++ toString columns ++ " columns"
  | unknownType name => Text.quoted name ++ " is not a valid DataType"
  | calculatedWithoutFormula name =>
      "Calculated column " ++ Text.quoted name ++ " requires a formula"
  | sourceWithFormula name => "Source column " ++ Text.quoted name ++ " cannot carry a formula"
  | incompleteField => "A calculated field needs both a name and a formula"
  | columnExists name => "Column " ++ Text.quoted name ++ " already exists"
  | notCalculated name =>
      "Column " ++ Text.quoted name ++ " comes from the source table and cannot be removed"
  | noSuchColumn index => "Column index " ++ intDigits index ++ " out of range"
  | indexOutOfRange => "list index out of range"
  | formatNotOffered tag type =>
      "Format " ++ Text.quoted tag ++ " is not valid for " ++ type.name ++
        " columns; expected one of " ++ Text.quotedList type.formats
  | unknownJoin name => Text.quoted name ++ " is not a valid JoinType"
  | emptyMerge => "A merge needs at least one join"
  | unnamedLeftTable => "The first join must name its left table"
  | missingColumns table names =>
      "Table " ++ Text.quoted table ++ " has no column(s) " ++ Text.quotedList names
  | unknownTable id => Text.quoted ("Unknown table " ++ Text.quoted id)
  | unknownSource id => Text.quoted ("Unknown source table " ++ Text.quoted id)
  | isMergedTable id => Text.quoted id ++ " is a merged table"
  | isSourceTable id => Text.quoted id ++ " is a source table"
  | alreadyRegistered id =>
      "Source " ++ Text.quoted id ++ " is already registered; use update_source"
  | selfDependentMerge id => "Merge " ++ Text.quoted id ++ " would depend on itself"
  | cyclicEdge derived source =>
      "Merging " ++ Text.quoted source ++ " into " ++ Text.quoted derived ++
        " would create a cycle"
  | cyclicGraph tables => "Dependency cycle detected involving: " ++ Text.quotedList tables
  | noRecord id => Text.quoted id
  | invalidVersion shown => "Invalid settings schema_version " ++ shown
  | newerVersion version =>
      "Settings schema_version " ++ intDigits version ++ " is newer than supported (2)"
  | notAnObject kind => "'" ++ kind ++ "' object has no attribute 'get'"
  | notAList kind => "'" ++ kind ++ "' object is not iterable"
  | missingMember name => Text.quoted name
  | invalidSettings issues => "; ".intercalate (issues.map Issue.text)
  | unreadable text trouble => trouble.message text
  | fileNameRefused name => "[Errno 36] File name too long: " ++ Text.quoted name

/-- Whether a fault is confined to the table on which it arises. Arithmetic faults are not, nor
are those of the file system or those that a record causes that has the wrong shape or nests too
deep. -/
def isConfined : Fault → Bool
  | integerBeyondDouble | decimal _ | indexOutOfRange | noSuchColumn _ | notAnObject _
  | notAList _ | unreadable _ (.tooDeep _) | fileNameRefused _ => false
  | _ => true

end Fault

end Gridbook
