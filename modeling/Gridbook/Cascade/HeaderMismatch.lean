import Gridbook.Text.Quoted

/-! # Header mismatches -/

namespace Gridbook

/-- A source's headers are no longer those with which a table was built from it. The order of
headers counts. -/
structure HeaderMismatch where
  table : String
  source : String
  old : List String
  new : List String
  deriving Repr, DecidableEq

namespace HeaderMismatch

def removed (m : HeaderMismatch) : List String :=
  m.old.filter fun h => !m.new.contains h

def added (m : HeaderMismatch) : List String :=
  m.new.filter fun h => !m.old.contains h

def message (m : HeaderMismatch) : String :=
  "Header mismatch for " ++ Text.quoted m.table ++ " from " ++ Text.quoted m.source ++
    ": old headers " ++ Text.quotedList m.old ++ ", new headers " ++ Text.quotedList m.new

end HeaderMismatch

end Gridbook
