import Gridbook.Graph
import Gridbook.Text.Sorted

/-! # Build order

An order in which every table stands behind the tables from which it is built, ties broken by
name, and the part of it that a change affects.
-/

namespace Gridbook.Graph

/-- Takes the edges out of a table that has been built: the tables whose last source it was, by
name, and the others with the number of sources they still wait for. -/
def release (dependents : List String) (waiting : List (String × Nat)) :
    List String × List (String × Nat) :=
  let (ready, rest) :=
    (waiting.map fun (t, n) => (t, if dependents.contains t then n - 1 else n)).partition (·.2 == 0)
  (ready.map (·.1), rest)

theorem length_release (dependents : List String) (waiting : List (String × Nat)) :
    (release dependents waiting).1.length + (release dependents waiting).2.length =
      waiting.length := by
  have (p : String × Nat → Bool) (l : List (String × Nat)) :
      (l.filter p).length + (l.filter (not ∘ p)).length = l.length := by
    induction l with
    | nil => rfl
    | cons a rest ih => by_cases h : p a <;> simp [h] <;> omega
  simp only [release, List.partition_eq_filter_filter, List.length_map]
  rw [this, List.length_map]

/-- The build order from a queue of tables that wait for nothing. A dependent that is not on
record is a fault. -/
def orderFrom (g : Graph) (queue : List String) (waiting : List (String × Nat)) :
    Except Fault (List String) :=
  match queue with
  | [] => .ok []
  | table :: rest =>
      match (Text.sorted (g.dependentsOf table)).find? fun t => !g.tables.contains t with
      | some stranger => .error (.noRecord stranger)
      | none => do
          let released := release (g.dependentsOf table) waiting
          return table :: (← orderFrom g (rest ++ released.1) released.2)
termination_by queue.length + waiting.length
decreasing_by
  have := length_release (g.dependentsOf table) waiting
  simp only [List.length_append, List.length_cons]
  omega

def order (g : Graph) : Except Fault (List String) := do
  let tables := Text.sorted g.tables
  let degrees := tables.map fun t => (t, ((g.sourcesOf t).filter tables.contains).length)
  let (ready, waiting) := degrees.partition (·.2 == 0)
  let built ← g.orderFrom (ready.map (·.1)) waiting
  if built.length = tables.length then return built
  else throw (.cyclicGraph (tables.filter fun t => !built.contains t))

/-- The tables downstream of some changed ones, in build order. -/
def affected (g : Graph) (changed : List String) : Except Fault (List String) := do
  let reached := g.descendants changed
  return (← g.order).filter fun t => reached.contains t && !changed.contains t

/-- Where the search for the longest chain stands: the tables from which it has still to go on, the
most edges over which it has come to each table, and the most of all. -/
structure Climb where
  queue : List String
  edges : List (String × Nat)
  longest : Nat
  deriving Repr, DecidableEq

namespace Climb

/-- The search as it starts, with nothing behind the roots. -/
def start (roots : List String) : Climb :=
  ⟨roots, roots.map fun root => (root, 0), 0⟩

/-- Comes to a table over some number of edges. If that is more than before, the search has to go
on from the table, also if it has done so already. -/
def reach (edges : Nat) (c : Climb) (table : String) : Climb :=
  if (c.edges.lookup table).all (· < edges) then
    ⟨c.queue ++ [table], Assoc.set table edges c.edges, max c.longest edges⟩
  else c

def turn (g : Graph) (c : Climb) : Climb :=
  match c.queue with
  | [] => c
  | table :: rest =>
      let edges := (c.edges.lookup table).getD 0 + 1
      (g.dependentsOf table).foldl (reach edges) { c with queue := rest }

/-- The search after a number of turns, or fewer if the queue is empty before. -/
def turns (g : Graph) : Nat → Climb → Climb
  | 0, c => c
  | count + 1, c => if c.queue.isEmpty then c else turns g count (c.turn g)

end Climb

def memberCount (sets : List (String × List String)) : Nat :=
  (sets.flatMap (·.2)).length

/-- How many turns the search for the longest chain takes at most in a graph without cycles, where
no chain has more edges than there are dependents. -/
def maxTurns (g : Graph) (roots : List String) : Nat :=
  roots.length + memberCount g.dependents * memberCount g.dependents

/-- The edges of the longest chain of derived tables that starts at one of some roots. -/
def depth (g : Graph) (roots : List String) : Nat :=
  ((Climb.start roots).turns g (g.maxTurns roots)).longest

end Gridbook.Graph
