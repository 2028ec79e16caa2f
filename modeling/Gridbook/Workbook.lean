import Gridbook.Graph.Order
import Gridbook.Merge
import Gridbook.Settings.Replay

/-! # Workbooks

A workbook holds source tables and the tables merged from them, each with its view, together with
the edges between them and the headers that each merged table was built from.

An operation gives the workbook as it is afterwards next to its report, because some of what it
did stands even when it fails.
-/

namespace Gridbook

/-- A workbook. -/
structure Workbook where
  inference : Inference
  registry : Registry
  store : Store
  sources : List (String × Source)
  merges : List (String × Merge)
  /-- The view of every table. -/
  tables : List (String × Table)
  graph : Graph
  /-- For each edge, by derived table and source, the source's headers when the derived table was
  built last. -/
  headers : List ((String × String) × List String)
  deriving DecidableEq

namespace Workbook

def empty (inference : Inference) (registry : Registry) (store : Store) : Workbook :=
  ⟨inference, registry, store, [], [], [], Graph.empty, []⟩

def table (w : Workbook) (id : String) : Except Fault Table :=
  match w.tables.lookup id with
  | some table => .ok table
  | none => .error (.unknownTable id)

/-- The ids of all tables, by name. -/
def tableIds (w : Workbook) : List String :=
  Text.sorted (w.tables.map (·.1))

/-- The tables that are built directly from a table, by name. -/
def dependentsOf (w : Workbook) (id : String) : List String :=
  Text.sorted (w.graph.dependentsOf id)

/-- Every edge as derived table and source, in order. -/
def edges (w : Workbook) : List (String × String) :=
  (Text.sorted (w.graph.sources.map (·.1))).flatMap fun derived =>
    (Text.sorted (w.graph.sourcesOf derived)).map fun source => (derived, source)

def headersOf (w : Workbook) (id : String) : List String :=
  match w.sources.lookup id, w.tables.lookup id with
  | some source, _ => source.columns
  | none, some table => table.columns
  | none, none => []

/-- What a merge reads: the rows of a source, or the full view of a merged table. -/
def input (w : Workbook) (id : String) : Except Fault Source :=
  match w.sources.lookup id, w.tables.lookup id with
  | some source, _ => .ok source
  | none, some table => .ok ⟨id, table.columns, table.rows, table.rectangular⟩
  | none, none => .error (.unknownTable id)

/-- The view of a merged table, built from what its sources hold now and its stored settings. -/
def build (w : Workbook) (id : String) (merge : Merge) : Report Table := do
  let inputs ← merge.sourceIds.mapM fun source => return (source, ← w.input source)
  let table ← merge.run w.inference inputs
  match ← w.store.load id with
  | none => return table
  | some settings => table.replay w.registry settings

/-- Takes down the headers that a merged table has been built from. -/
def recordHeaders (w : Workbook) (derived : String) (merge : Merge) : Workbook :=
  { w with
    headers := merge.sourceIds.foldl
      (fun found source => Assoc.set (derived, source) (w.headersOf source) found) w.headers }

def setTable (w : Workbook) (id : String) (table : Table) : Workbook :=
  { w with tables := Assoc.set id table w.tables }

/-- Adds or replaces a source and makes its view. The source stands even if the view fails. -/
def setSource (w : Workbook) (source : Source) : Workbook × Report Table :=
  let w := { w with sources := Assoc.set source.id source w.sources }
  let report := source.view w.inference w.registry w.store
  match report.outcome with
  | .ok table => (w.setTable source.id table, report)
  | .error _ => (w, report)

def registerSource (w : Workbook) (source : Source) : Workbook × Report Table :=
  if Assoc.has source.id w.merges then (w, Report.fail (.isMergedTable source.id))
  else if Assoc.has source.id w.sources then (w, Report.fail (.alreadyRegistered source.id))
  else w.setSource source

/-- Why a merge cannot be registered under an id, if so. -/
def mergeFault? (w : Workbook) (id : String) (merge : Merge) : Option Fault :=
  if Assoc.has id w.sources then some (.isSourceTable id)
  else if w.graph.closesCycle id merge.sourceIds then some (.selfDependentMerge id)
  else (merge.sourceIds.find? fun source => !Assoc.has source w.tables).map .unknownTable

/-- Puts a built merged table on record. Its edges close no cycle, since the merge was checked. -/
def adopt (w : Workbook) (id : String) (merge : Merge) (table : Table) : Workbook :=
  let graph := merge.sourceIds.foldl (fun g source => g.link id source) (w.graph.clear id)
  let kept := w.headers.filter fun entry => entry.1.1 != id
  let w := { w with graph, headers := kept, merges := Assoc.set id merge w.merges }
  (w.setTable id table).recordHeaders id merge

/-- Adds a merged table, or replaces the merge of one. Nothing changes if it fails. -/
def registerMerge (w : Workbook) (id : String) (merge : Merge) : Workbook × Report Table :=
  match w.mergeFault? id merge with
  | some fault => (w, Report.fail fault)
  | none =>
      let report := w.build id merge
      match report.outcome with
      | .ok table => (w.adopt id merge table, report)
      | .error _ => (w, report)

/-- Forgets a table with its edges and its stored settings. Tables built from it are left. -/
def removeTable (w : Workbook) (id : String) : Workbook × Report Unit :=
  if Assoc.has id w.tables then
    let orphans := w.dependentsOf id
    let without := { w with
      sources := Assoc.drop id w.sources
      merges := Assoc.drop id w.merges
      tables := Assoc.drop id w.tables
      graph := w.graph.remove id
      headers := w.headers.filter fun entry => entry.1.1 != id && entry.1.2 != id
      store := w.store.delete id }
    (without, if orphans.isEmpty then pure () else Report.note (.orphaned id orphans))
  else (w, Report.fail (.unknownTable id))

/-- Adopts an edited view of a table and saves its settings. Tables built from it stay as they
are; the view stands even if the settings cannot be saved. -/
def updateTable (w : Workbook) (id : String) (table : Table) (widths : Option Json) :
    Workbook × Report Unit :=
  if Assoc.has id w.tables then
    let w := w.setTable id table
    let report := table.save id widths w.store
    match report.outcome with
    | .ok (store, _) => ({ w with store }, ⟨report.notices, .ok ()⟩)
    | .error fault => (w, ⟨report.notices, .error fault⟩)
  else (w, Report.fail (.unknownTable id))

/-- Replaces the stored settings document of a table. -/
def putRecord (w : Workbook) (id text : String) : Workbook :=
  { w with store := w.store.put id text }

end Workbook

end Gridbook
