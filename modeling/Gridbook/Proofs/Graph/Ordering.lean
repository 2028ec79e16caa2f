import Mathlib
import Gridbook.Proofs.Graph.BuildOrder
import Gridbook.Proofs.Graph.Changes
import Gridbook.Proofs.Text.Quoted

/-! # What the build order tells

A graph has a build order of all its tables, or else its cycles are told of by the tables that they
hold up. Either depends only on the tables and the edges, and not on the order in which a graph
lists them. The order in which a change is passed on is a part of the build order.
-/

namespace Gridbook.Graph

open Relation

/-- The tables that have no place in a build order, by name. -/
structure HeldUp (g : Graph) (tables : List String) : Prop where
  nodup : tables.Nodup
  sorted : tables.Pairwise (· ≤ ·)
  mem_iff : ∀ t, t ∈ tables ↔ g.Entangled t

theorem Entangled.mem_tables {g : Graph} {table : String} (entangled : g.Entangled table) :
    table ∈ g.tables := by
  obtain ⟨c, cycle, walk⟩ := entangled
  obtain ⟨source, -, edge⟩ := TransGen.tail'_iff.mp (cycle.trans_left walk)
  exact edge.derived_mem

theorem order_of_cycle {g : Graph} (mirrored : g.Mirrored) {table : String}
    (cycle : TransGen g.Edge table table) :
    ∃ stuck, g.order = .error (.cyclicGraph stuck) ∧ g.HeldUp stuck := by
  obtain ⟨built, valid, mem_built, run⟩ := order_spec mirrored
  have entangled : g.Entangled table := ⟨table, cycle, .refl⟩
  have fewer : built.length ≠ g.tables.length := by
    intro same
    have inside : built ⊆ g.tables := fun t member => ((mem_built t).mp member).1
    have perm := (valid.fresh.1.subperm inside).perm_of_length_le same.ge
    exact ((mem_built table).mp (perm.mem_iff.mpr entangled.mem_tables)).2 entangled
  rw [if_neg fewer] at run
  refine ⟨_, run, ?_⟩
  constructor
  case nodup => exact ((Text.sorted_perm g.tables).nodup_iff.mpr g.nodup_tables).filter _
  case sorted => exact (Text.sorted_pairwise g.tables).filter _
  case mem_iff =>
    intro t
    have held : t ∈ g.tables ∧ t ∉ built ↔ g.Entangled t := by
      rw [mem_built]
      refine ⟨fun ⟨member, unbuilt⟩ => ?_, fun held => ⟨held.mem_tables, fun built => built.2 held⟩⟩
      by_contra free
      exact unbuilt ⟨member, free⟩
    simpa [Text.mem_sorted] using held

theorem release_congr {dependents others : List String}
    (same : ∀ t, t ∈ dependents ↔ t ∈ others) (waiting : List (String × Nat)) :
    release dependents waiting = release others waiting := by
  have contains : dependents.contains = others.contains := by
    funext t
    simp [same t]
  rw [release, contains, release]

section Congr

variable {g h : Graph}

theorem orderFrom_congr (mirrored : g.Mirrored) (mirrored' : h.Mirrored)
    (edges : ∀ a b, h.Edge a b ↔ g.Edge a b) (queue : List String)
    (waiting : List (String × Nat)) : h.orderFrom queue waiting = g.orderFrom queue waiting := by
  induction queue, waiting using orderFrom.induct g with
  | case1 waiting => rw [orderFrom, orderFrom]
  | case2 waiting table rest stranger found =>
      rw [mirrored.no_stranger] at found
      cases found
  | case3 waiting table rest known released ih =>
      have dependents : ∀ t, t ∈ h.dependentsOf table ↔ t ∈ g.dependentsOf table := by
        intro t
        rw [← mirrored.mirror, ← mirrored'.mirror]
        exact edges table t
      rw [mirrored.orderFrom_cons, mirrored'.orderFrom_cons, release_congr dependents, ih]

theorem order_congr (mirrored : g.Mirrored) (mirrored' : h.Mirrored)
    (tables : ∀ t, t ∈ h.tables ↔ t ∈ g.tables) (edges : ∀ a b, h.Edge a b ↔ g.Edge a b) :
    h.order = g.order := by
  have names : Text.sorted h.tables = Text.sorted g.tables :=
    Text.sorted_eq_of_perm
      ((List.perm_ext_iff_of_nodup h.nodup_tables g.nodup_tables).mpr tables)
  have degree (t : String) : ((h.sourcesOf t).filter (Text.sorted g.tables).contains).length =
      ((g.sourcesOf t).filter (Text.sorted g.tables).contains).length := by
    have sources := (List.perm_ext_iff_of_nodup (mirrored'.sources_nodup t)
      (mirrored.sources_nodup t)).mpr fun s => edges s t
    exact (sources.filter _).length_eq
  simp only [order, names, degree]
  rw [orderFrom_congr mirrored mirrored' edges]

end Congr

/-- An order of all tables, each once and behind the tables from which it is built. -/
structure Complete (g : Graph) (order : List String) : Prop where
  nodup : order.Nodup
  mem_iff : ∀ t, t ∈ order ↔ t ∈ g.tables
  sources_before : ∀ before t after, order = before ++ t :: after →
    ∀ source, g.Edge source t → source ∈ before

/-- A build order is refused exactly if there is a cycle, and then the message lists, as names that
can be read off it, the tables on cycles and those downstream of them. Otherwise all tables have
their place in it. Graphs with the same tables and edges have the same order or are refused alike.
-/
theorem order_decided {g : Graph} (mirrored : g.Mirrored) :
    ((∃ stuck, g.order = .error (.cyclicGraph stuck)) ↔ ∃ t, TransGen g.Edge t t) ∧
    (∀ stuck, g.order = .error (.cyclicGraph stuck) → g.HeldUp stuck ∧
      ∃ shown, (Fault.cyclicGraph stuck).message =
        "Dependency cycle detected involving: " ++ shown ∧ Text.readList shown = some stuck) ∧
    ((¬ ∃ t, TransGen g.Edge t t) → ∃ order, g.order = .ok order ∧ g.Complete order) ∧
    ∀ h : Graph, h.Mirrored → (∀ t, t ∈ h.tables ↔ t ∈ g.tables) →
      (∀ a b, h.Edge a b ↔ g.Edge a b) → h.order = g.order := by
  have ordered (free : ¬ ∃ t, TransGen g.Edge t t) :
      ∃ order, g.order = .ok order ∧ g.Complete order := by
    have sound : g.Sound := ⟨mirrored, not_exists.mp free⟩
    obtain ⟨order, run, valid, all⟩ := order_of_acyclic sound
    refine ⟨order, run, valid.fresh.1, all, ?_⟩
    rintro before t after rfl source edge
    simpa using valid.sources_before edge
  have cyclic {stuck : List String} (refused : g.order = .error (.cyclicGraph stuck)) :
      ∃ t, TransGen g.Edge t t := by
    by_contra free
    obtain ⟨order, run, -⟩ := ordered free
    cases run.symm.trans refused
  refine ⟨⟨fun ⟨stuck, refused⟩ => cyclic refused, ?_⟩, ?_, ordered, ?_⟩
  · rintro ⟨t, cycle⟩
    obtain ⟨stuck, refused, -⟩ := order_of_cycle mirrored cycle
    exact ⟨stuck, refused⟩
  · intro stuck refused
    obtain ⟨t, cycle⟩ := cyclic refused
    obtain ⟨found, run, held⟩ := order_of_cycle mirrored cycle
    cases run.symm.trans refused
    exact ⟨held, _, rfl, Text.readList_quotedList stuck⟩
  · intro h mirrored' tables edges
    exact order_congr mirrored mirrored' tables edges

/-- Two tables that are built from each other hold up a third one, whichever of the edges was put
on record first. -/
theorem pair_holds_up :
    let g := (((empty.link "b" "a").link "a" "b").link "c" "b").link "c" "d"
    let h := (((empty.link "c" "d").link "c" "b").link "a" "b").link "b" "a"
    g.Mirrored ∧ h.Mirrored ∧ g.order = .error (.cyclicGraph ["a", "b", "c"]) ∧ h.order = g.order ∧
      (∃ t, TransGen g.Edge t t) ∧ g.HeldUp ["a", "b", "c"] ∧
      ∃ shown, (Fault.cyclicGraph ["a", "b", "c"]).message =
        "Dependency cycle detected involving: " ++ shown ∧
          Text.readList shown = some ["a", "b", "c"] := by
  intro g h
  have mirrored : g.Mirrored := Sound.empty.toMirrored.link.link.link.link
  have mirrored' : h.Mirrored := Sound.empty.toMirrored.link.link.link.link
  have refused : g.order = .error (.cyclicGraph ["a", "b", "c"]) := by cbv
  have decided := order_decided mirrored
  have tables : ∀ t, t ∈ h.tables ↔ t ∈ g.tables := by
    have listed : g.tables = ["b", "a", "c", "d"] ∧ h.tables = ["c", "a", "b", "d"] := by
      decide +kernel
    intro t
    simp only [listed, List.mem_cons, List.not_mem_nil, or_false]
    tauto
  have edges : ∀ a b, h.Edge a b ↔ g.Edge a b := by
    intro a b
    simp only [g, h, edge_link]
    tauto
  exact ⟨mirrored, mirrored', refused, decided.2.2.2 h mirrored' tables edges,
    decided.1.mp ⟨_, refused⟩, decided.2.1 _ refused⟩

/-- What a change affects comes in build order: each table downstream of a changed one, once, if
it has not been changed itself. -/
theorem affected_in_order {g : Graph} (sound : g.Sound) (changed : List String) :
    ∃ whole order, g.order = .ok whole ∧ g.affected changed = .ok order ∧ order.Sublist whole ∧
      order.Nodup ∧ ∀ t, t ∈ order ↔ t ∉ changed ∧ ∃ s ∈ changed, TransGen g.Edge s t := by
  obtain ⟨whole, run, -, -⟩ := order_of_acyclic sound
  obtain ⟨order, found, affected⟩ := affected_spec sound changed
  have part : order.Sublist whole := by
    rw [affected_of_order run, Except.ok.injEq] at found
    exact found ▸ List.filter_sublist
  exact ⟨whole, order, run, found, part, affected.nodup, affected.mem_iff⟩

/-- Two tables are built from one, and a fourth one from both. -/
def diamond : Graph :=
  grown [.add "b" "a", .add "c" "a", .add "d" "b", .add "d" "c"]

/-- Of two changed tables one lies downstream of the other and is not affected. -/
theorem diamond_affected :
    diamond.Sound ∧ diamond.affected ["a", "c"] = .ok ["b", "d"] ∧
      ∀ t, t ∈ ["b", "d"] ↔ t ∉ ["a", "c"] ∧ ∃ s ∈ ["a", "c"], TransGen diamond.Edge s t := by
  have sound : diamond.Sound := sound_grown _
  have run : diamond.affected ["a", "c"] = .ok ["b", "d"] := by cbv
  obtain ⟨whole, order, -, found, -, -, mem_iff⟩ := affected_in_order sound ["a", "c"]
  obtain rfl : order = ["b", "d"] := by
    rw [run, Except.ok.injEq] at found
    exact found.symm
  exact ⟨sound, run, mem_iff⟩

end Gridbook.Graph
