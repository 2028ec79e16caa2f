import Gridbook.Proofs.Graph.Edges

/-! # Graphs under changes

Whatever changes are made to a graph one after the other, whether edges are accepted or refused,
both records hold the same edges, no edges lead round in a cycle, and each change does to the edges
what it says and nothing else.
-/

namespace Gridbook.Graph

open Relation

/-- A change of a dependency graph. -/
inductive Change where
  | add (derived source : String)
  | clear (derived : String)
  | remove (table : String)
  deriving Repr, DecidableEq

/-- The graph that a change gives; only a new edge can be refused. -/
def change (g : Graph) : Change → Except Fault Graph
  | .add derived source => g.addEdge derived source
  | .clear derived => .ok (g.clear derived)
  | .remove table => .ok (g.remove table)

/-- The graph as it stands behind a change, which may have been refused. -/
def after (g : Graph) (change : Change) : Graph :=
  match g.change change with
  | .ok next => next
  | .error _ => g

def grown (changes : List Change) : Graph :=
  changes.foldl after empty

/-- A table would be built from itself if it were built from a source. -/
def Circular (g : Graph) (derived source : String) : Prop :=
  source = derived ∨ TransGen g.Edge derived source

/-- What holds of a graph and of the changes that can be made to it. An edge is refused exactly if
it would close a cycle, and the graph then stays as it is; an edge that is accepted is the only new
one. Clearing a table takes out the edges into it, and removing a table those that touch it. -/
structure Kept (g : Graph) : Prop where
  mirror : ∀ source derived, source ∈ g.sourcesOf derived ↔ derived ∈ g.dependentsOf source
  acyclic : g.Acyclic
  refused : ∀ derived source, g.Circular derived source →
    g.change (.add derived source) = .error (.cyclicEdge derived source) ∧
      g.after (.add derived source) = g
  accepted : ∀ derived source, ¬ g.Circular derived source →
    g.change (.add derived source) = .ok (g.after (.add derived source)) ∧
      ∀ a b, (g.after (.add derived source)).Edge a b ↔ g.Edge a b ∨ a = source ∧ b = derived
  cleared : ∀ derived a b, (g.after (.clear derived)).Edge a b ↔ g.Edge a b ∧ b ≠ derived
  removed : ∀ table a b,
    (g.after (.remove table)).Edge a b ↔ g.Edge a b ∧ a ≠ table ∧ b ≠ table

variable {g : Graph} {derived source : String}

theorem closesCycle_iff_circular :
    g.closesCycle derived [source] = true ↔ g.Circular derived source := by
  rw [closesCycle_iff, Circular]
  simp [eq_comm]

theorem change_of_circular (circular : g.Circular derived source) :
    g.change (.add derived source) = .error (.cyclicEdge derived source) := by
  rw [change, addEdge, if_pos (closesCycle_iff_circular.mpr circular)]

theorem change_of_not_circular (free : ¬ g.Circular derived source) :
    g.change (.add derived source) = .ok (g.link derived source) := by
  rw [change, addEdge, if_neg (fun closes => free (closesCycle_iff_circular.mp closes))]

theorem Sound.after (sound : g.Sound) (change : Change) : (g.after change).Sound := by
  cases change with
  | clear derived => exact sound.clear derived
  | remove table => exact sound.remove table
  | add derived source =>
      by_cases circular : g.Circular derived source
      · rw [Graph.after, change_of_circular circular]
        exact sound
      · have checked : g.closesCycle derived [source] = false := by
          rw [Bool.eq_false_iff, Ne, closesCycle_iff_circular]
          exact circular
        rw [Graph.after, change_of_not_circular circular]
        exact sound.linkAll checked

theorem Sound.kept (sound : g.Sound) : g.Kept where
  mirror := sound.mirror
  acyclic := sound.acyclic
  refused derived source circular := by
    rw [Graph.after, change_of_circular circular]
    exact ⟨rfl, rfl⟩
  accepted derived source free := by
    rw [Graph.after, change_of_not_circular free]
    exact ⟨rfl, fun a b => edge_link⟩
  cleared derived a b := edge_clear
  removed table a b := edge_remove sound.toMirrored

theorem sound_grown (changes : List Change) : (grown changes).Sound := by
  induction changes using List.reverseRecOn with
  | nil => exact Sound.empty
  | append_singleton changes change ih =>
      rw [grown, List.foldl_append]
      exact ih.after change

/-- Behind any changes of the empty graph, accepted or refused, both records hold the same edges,
there is no cycle, and the next change does what it says. -/
theorem kept_under_changes (changes : List Change) : (grown changes).Kept :=
  (sound_grown changes).kept

-- the last edge would close a cycle; removing the table in the middle leaves sets without members
example : grown [.add "m" "a", .add "n" "m", .add "a" "n", .remove "m"] =
    ⟨[("n", [])], [("a", [])]⟩ := by decide +kernel

/-- The search for a cycle finds one, in any graph, exactly if the table is one of its own sources
or a walk from a source back to what it is built from comes to the table. In a graph without cycles
these are exactly the edges that would close one if they were all put on record. -/
theorem closesCycle_exact (g : Graph) (derived : String) (sources : List String) :
    (g.closesCycle derived sources = true ↔
      derived ∈ sources ∨
        ∃ s ∈ sources, TransGen (fun table upstream => upstream ∈ g.sourcesOf table) s derived) ∧
    (g.Acyclic →
      (g.closesCycle derived sources = true ↔
        ¬ (sources.foldl (fun g source => g.link derived source) g).Acyclic)) := by
  constructor
  · rw [closesCycle_iff]
    simp only [← transGen_swap (r := g.Edge)]
    rfl
  · intro acyclic
    refine ⟨not_acyclic_linkAll, fun cyclic => ?_⟩
    by_contra free
    exact cyclic (acyclic.linkAll (by simpa using free))

/-- The first table of a chain cannot be built from the last one, whatever else it is built from. -/
theorem chain_end_closes :
    let chain := grown [.add "m" "a", .add "n" "m"]
    chain.Acyclic ∧ chain.closesCycle "a" ["b", "n"] = true ∧
      ¬ (["b", "n"].foldl (fun g source => g.link "a" source) chain).Acyclic := by
  intro chain
  have acyclic : chain.Acyclic := (sound_grown _).acyclic
  have found := closesCycle_exact chain "a" ["b", "n"]
  have back : TransGen (fun table upstream => upstream ∈ chain.sourcesOf table) "n" "a" :=
    .tail (.single (b := "m") (by decide +kernel)) (by decide +kernel)
  have closes := found.1.mpr (.inr ⟨"n", by simp, back⟩)
  exact ⟨acyclic, closes, (found.2 acyclic).mp closes⟩

end Gridbook.Graph
