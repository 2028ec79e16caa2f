import Gridbook.Cascade.HeaderMismatch
import Gridbook.Fault

/-! # Outcomes of a cascade

What became of each table downstream of a change.
-/

namespace Gridbook

/-- What became of one table. -/
inductive Outcome.Status where
  /-- It was rebuilt and has this many rows. -/
  | updated (rows : Nat)
  /-- It was left as it was because a source has other headers. -/
  | mismatched (mismatch : HeaderMismatch)
  /-- It could not be rebuilt. -/
  | failed (fault : Fault)
  /-- It was left as it was because tables it is built from were. -/
  | skipped (sources : List String)
  deriving DecidableEq

structure Outcome where
  table : String
  status : Outcome.Status
  deriving DecidableEq

namespace Outcome

def Status.name : Status → String
  | updated _ => "updated"
  | mismatched _ | failed _ => "failed"
  | skipped _ => "skipped"

/-- Whether a table was rebuilt. -/
def isUpdated (o : Outcome) : Bool :=
  match o.status with
  | .updated _ => true
  | _ => false

/-- Whether a table failed by itself. -/
def isFailed (o : Outcome) : Bool :=
  match o.status with
  | .mismatched _ | .failed _ => true
  | _ => false

def isSkipped (o : Outcome) : Bool :=
  match o.status with
  | .skipped _ => true
  | _ => false

def error? (o : Outcome) : Option String :=
  match o.status with
  | .updated _ => none
  | .mismatched mismatch => some mismatch.message
  | .failed fault => some fault.message
  | .skipped sources => some ("Upstream table(s) " ++ Text.quotedList sources ++ " failed")

/-- The mismatch that kept a table from being rebuilt. -/
def mismatch? (o : Outcome) : Option HeaderMismatch :=
  match o.status with
  | .mismatched mismatch => some mismatch
  | _ => none

def rows (o : Outcome) : Nat :=
  match o.status with
  | .updated rows => rows
  | _ => 0

end Outcome

/-- The result of a cascade: the outcomes in build order. -/
structure CascadeResult where
  source : String
  outcomes : List Outcome
  /-- The length of the longest chain of derived tables behind the source. -/
  depth : Nat
  deriving DecidableEq

namespace CascadeResult

/-- Whether every table was rebuilt. -/
def ok (result : CascadeResult) : Bool :=
  result.outcomes.all Outcome.isUpdated

def tablesWhere (result : CascadeResult) (p : Outcome → Bool) : List String :=
  (result.outcomes.filter p).map Outcome.table

def outcome? (result : CascadeResult) (table : String) : Option Outcome :=
  result.outcomes.find? fun o => o.table == table

end CascadeResult

end Gridbook
