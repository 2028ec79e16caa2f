import Gridbook.Assoc
import Gridbook.Fault

/-! # Dependency graphs

Which tables are built from which. Each edge is kept twice, under the derived table and under its
source, and a table stays on record when its last edge is gone.
-/

namespace Gridbook

/-- A dependency graph. Lists of tables are sets: nothing stands in them twice. -/
structure Graph where
  /-- The tables from which a table is built. -/
  sources : List (String × List String)
  /-- The tables that are built from a table. -/
  dependents : List (String × List String)
  deriving Repr, DecidableEq

namespace Graph

def empty : Graph := ⟨[], []⟩

def sourcesOf (g : Graph) (table : String) : List String :=
  (g.sources.lookup table).getD []

def dependentsOf (g : Graph) (table : String) : List String :=
  (g.dependents.lookup table).getD []

def insertAt (key member : String) (sets : List (String × List String)) :
    List (String × List String) :=
  let members := (sets.lookup key).getD []
  Assoc.set key (if members.contains member then members else members ++ [member]) sets

def discardAt (keys : List String) (member : String) (sets : List (String × List String)) :
    List (String × List String) :=
  sets.map fun (key, members) =>
    (key, if keys.contains key then members.filter (· != member) else members)

/-- The members of some sets that a search has still to meet. -/
def unmet (sets : List (String × List String)) (seen : List String) : List String :=
  (sets.flatMap (·.2)).filter fun t => !seen.contains t

theorem sublist_members (sets : List (String × List String)) (key : String) :
    ((sets.lookup key).getD []).Sublist (sets.flatMap (·.2)) := by
  cases found : sets.lookup key with
  | none => exact List.nil_sublist _
  | some members =>
      obtain ⟨before, after, rfl, -⟩ := List.lookup_eq_some_iff.mp found
      rw [List.flatMap_append, List.flatMap_cons]
      exact (List.sublist_append_left ..).trans (List.sublist_append_right ..)

theorem length_unmet_append {sets : List (String × List String)} {seen fresh : List String}
    (met : fresh.Sublist (unmet sets seen)) :
    (unmet sets (seen ++ fresh)).length + fresh.length ≤ (unmet sets seen).length := by
  have rest : unmet sets (seen ++ fresh) = (unmet sets seen).filter fun t => !fresh.contains t := by
    simp [unmet, List.filter_filter, Bool.and_comm]
  have all : fresh.filter fresh.contains = fresh := by simp
  have few := (met.filter fresh.contains).length_le
  have parts := (unmet sets seen).length_eq_countP_add_countP fresh.contains
  rw [all] at few
  simp only [List.countP_eq_length_filter, Bool.not_eq_true, Bool.decide_eq_false] at parts
  rw [rest]
  omega

/-- The tables that a search has seen when its queue is empty. It takes a table from the queue and
puts the members of its set that it has not seen before behind the others. -/
def search (sets : List (String × List String)) (queue seen : List String) : List String :=
  match queue with
  | [] => seen
  | table :: rest =>
      let fresh := ((sets.lookup table).getD []).filter fun t => !seen.contains t
      search sets (rest ++ fresh) (seen ++ fresh)
termination_by queue.length + (unmet sets seen).length
decreasing_by
  have fewer := length_unmet_append ((sublist_members sets table).filter fun t => !seen.contains t)
  simp only [List.length_append, List.length_cons]
  omega

/-- The tables from which some tables are built, over any number of steps, and those tables. -/
def ancestors (g : Graph) (tables : List String) : List String :=
  search g.sources tables tables

/-- The tables that are built from some tables, over any number of steps, and those tables. -/
def descendants (g : Graph) (tables : List String) : List String :=
  search g.dependents tables tables

/-- Whether a table would depend on itself if it were built from these sources. -/
def closesCycle (g : Graph) (derived : String) (sources : List String) : Bool :=
  sources.contains derived || (g.ancestors sources).any fun t => (g.sourcesOf t).contains derived

/-- Puts an edge on record on both sides. -/
def link (g : Graph) (derived source : String) : Graph :=
  ⟨insertAt derived source g.sources, insertAt source derived g.dependents⟩

def addEdge (g : Graph) (derived source : String) : Except Fault Graph :=
  if g.closesCycle derived [source] then .error (.cyclicEdge derived source)
  else .ok (g.link derived source)

/-- Takes out the edges into a table. -/
def clear (g : Graph) (derived : String) : Graph :=
  ⟨Assoc.drop derived g.sources, discardAt (g.sourcesOf derived) derived g.dependents⟩

/-- Takes out a table with its edges in both directions. -/
def remove (g : Graph) (table : String) : Graph :=
  let cleared := g.clear table
  ⟨discardAt (cleared.dependentsOf table) table cleared.sources,
    Assoc.drop table cleared.dependents⟩

def tables (g : Graph) : List String :=
  (g.sources.map (·.1) ++ g.dependents.map (·.1)).eraseDups

end Graph

end Gridbook
