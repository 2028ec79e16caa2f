import Gridbook.Cascade.Outcome
import Gridbook.Workbook

/-! # Cascades

When a table changes, every table downstream of it is rebuilt in build order. A table is left as
it was when a source no longer has the headers it was built with, when rebuilding it fails, or
when a table it is built from was left. The others go on.
-/

namespace Gridbook

/-- A cascade on its way. -/
structure Cascade where
  workbook : Workbook
  /-- The headers of the tables that have changed. -/
  changed : List (String × List String)
  /-- The tables that were left as they were. -/
  blocked : List String
  outcomes : List Outcome
  notices : List Notice

namespace Cascade

/-- The headers that a table has now; a table that is gone has none. -/
def headersNow? (c : Cascade) (source : String) : Option (List String) :=
  match c.changed.lookup source with
  | some headers => some headers
  | none =>
      if Assoc.has source c.workbook.tables then some (c.workbook.headersOf source) else none

def mismatchWith? (c : Cascade) (table source : String) : Option HeaderMismatch :=
  match c.headersNow? source with
  | none => none
  | some new =>
      let old := (c.workbook.headers.lookup (table, source)).getD []
      if old = new then none else some ⟨table, source, old, new⟩

def block (c : Cascade) (table : String) (status : Outcome.Status) (notices : List Notice) :
    Cascade :=
  { c with
    blocked := c.blocked ++ [table]
    outcomes := c.outcomes ++ [⟨table, status⟩]
    notices := c.notices ++ notices }

def build (c : Cascade) (table : String) : Report Table :=
  match c.workbook.merges.lookup table with
  | some merge => c.workbook.build table merge
  | none => Report.fail (.noRecord table)

/-- Adopts the rebuilt view of a table. -/
def accept (c : Cascade) (id : String) (table : Table) (notices : List Notice) : Cascade :=
  let w := c.workbook.setTable id table
  { c with
    workbook := match w.merges.lookup id with
      | some merge => w.recordHeaders id merge
      | none => w
    changed := Assoc.set id table.columns c.changed
    outcomes := c.outcomes ++ [⟨id, .updated table.rows.length⟩]
    notices := c.notices ++ notices }

/-- Deals with one table. Only a fault that is not confined to the table ends the cascade. -/
def step (c : Cascade) (table : String) : Cascade × Option Fault :=
  let sources := Text.sorted (c.workbook.graph.sourcesOf table)
  match sources.filter c.blocked.contains with
  | [] =>
      match sources.findSome? (c.mismatchWith? table) with
      | some mismatch => (c.block table (.mismatched mismatch) [.headerMismatch mismatch], none)
      | none =>
          let report := c.build table
          match report.outcome with
          | .ok view => (c.accept table view report.notices, none)
          | .error fault =>
              if fault.isConfined then
                let notices := report.notices ++ [.rebuildFailed table fault]
                (c.block table (.failed fault) notices, none)
              else ({ c with notices := c.notices ++ report.notices }, some fault)
  | stale => (c.block table (.skipped stale) [], none)

def steps : List String → Cascade → Cascade × Option Fault
  | [], c => (c, none)
  | table :: rest, c =>
      match c.step table with
      | (c, none) => steps rest c
      | (c, some fault) => (c, some fault)

end Cascade

namespace Workbook

/-- Rebuilds everything downstream of a table that has changed and has these headers now. -/
def cascade (w : Workbook) (id : String) (headers : List String) :
    Workbook × Report CascadeResult :=
  if Assoc.has id w.tables then
    match w.graph.affected [id] with
    | .error fault => (w, Report.fail fault)
    | .ok order =>
        match Cascade.steps order ⟨w, [(id, headers)], [], [], []⟩ with
        | (c, none) => (c.workbook, ⟨c.notices, .ok ⟨id, c.outcomes, w.graph.depth [id]⟩⟩)
        | (c, some fault) => (c.workbook, ⟨c.notices, .error fault⟩)
  else (w, Report.fail (.unknownTable id))

/-- Replaces the content of a source and rebuilds everything downstream of it. -/
def updateSource (w : Workbook) (source : Source) : Workbook × Report CascadeResult :=
  if Assoc.has source.id w.sources then
    match w.setSource source with
    | (w, ⟨notices, .error fault⟩) => (w, ⟨notices, .error fault⟩)
    | (w, ⟨notices, .ok _⟩) =>
        let (w, result) := w.cascade source.id source.columns
        (w, ⟨notices ++ result.notices, result.outcome⟩)
  else (w, Report.fail (.unknownSource source.id))

end Workbook

end Gridbook
