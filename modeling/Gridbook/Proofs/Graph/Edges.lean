import Gridbook.Proofs.Graph.Reach

/-! # What edits do to the edges

Each edit of a dependency graph changes both records of its edges. They agree before and after,
and an edit that was checked leaves the graph without cycles.
-/

namespace Gridbook.Graph

open Relation

/-- A graph as edits leave it: its records agree and it has no cycle. -/
structure Sound (g : Graph) : Prop extends g.Mirrored where
  acyclic : g.Acyclic

theorem mem_insertAt {key member : String} {sets : List (String × List String)} {k x : String} :
    x ∈ ((insertAt key member sets).lookup k).getD [] ↔
      x ∈ (sets.lookup k).getD [] ∨ k = key ∧ x = member := by
  simp only [insertAt, Assoc.lookup_set]
  by_cases same : k = key
  · subst same
    simp only [BEq.rfl, if_true, Option.getD_some, true_and]
    split <;> rename_i inside
    · have known : member ∈ (sets.lookup k).getD [] := by simpa using inside
      constructor
      · exact .inl
      · rintro (old | rfl)
        · exact old
        · exact known
    · simp
  · simp [same]

theorem nodup_insertAt {key member : String} {sets : List (String × List String)} {k : String}
    (nodup : ((sets.lookup k).getD []).Nodup) :
    (((insertAt key member sets).lookup k).getD []).Nodup := by
  simp only [insertAt, Assoc.lookup_set]
  by_cases same : k = key
  · subst same
    simp only [BEq.rfl, if_true, Option.getD_some]
    split <;> rename_i inside
    · exact nodup
    · rw [← List.concat_eq_append]
      exact nodup.concat (by simpa using inside)
  · simpa [same] using nodup

theorem lookup_discardAt {keys : List String} {member : String}
    {sets : List (String × List String)} {k : String} :
    ((discardAt keys member sets).lookup k).getD [] =
      if k ∈ keys then ((sets.lookup k).getD []).filter (· != member)
      else (sets.lookup k).getD [] := by
  have mapped := Assoc.lookup_map
    (fun key (members : List String) =>
      if keys.contains key then members.filter (· != member) else members) k sets
  simp only [discardAt]
  rw [mapped]
  cases sets.lookup k <;> simp

theorem mem_discardAt {keys : List String} {member : String}
    {sets : List (String × List String)} {k x : String} :
    x ∈ ((discardAt keys member sets).lookup k).getD [] ↔
      x ∈ (sets.lookup k).getD [] ∧ ¬ (k ∈ keys ∧ x = member) := by
  rw [lookup_discardAt]
  by_cases inside : k ∈ keys <;> simp [inside]

theorem mem_lookup_drop {table : String} {sets : List (String × List String)} {k x : String} :
    x ∈ ((Assoc.drop table sets).lookup k).getD [] ↔ x ∈ (sets.lookup k).getD [] ∧ k ≠ table := by
  rw [Assoc.lookup_drop]
  by_cases same : k = table <;> simp [same]

section

variable {g : Graph} {derived source a b : String}

theorem edge_link :
    (g.link derived source).Edge a b ↔ g.Edge a b ∨ a = source ∧ b = derived := by
  rw [Edge, sourcesOf, link, mem_insertAt, and_comm]
  rfl

theorem edge_clear : (g.clear derived).Edge a b ↔ g.Edge a b ∧ b ≠ derived := by
  rw [Edge, sourcesOf, clear, mem_lookup_drop]
  rfl

theorem edge_remove (mirrored : g.Mirrored) {table : String} :
    (g.remove table).Edge a b ↔ g.Edge a b ∧ a ≠ table ∧ b ≠ table := by
  have dependents : b ∈ (g.clear table).dependentsOf table ↔
      b ∈ g.dependentsOf table ∧ ¬ (table ∈ g.sourcesOf table ∧ b = table) := mem_discardAt
  have sources : a ∈ ((g.clear table).sources.lookup b).getD [] ↔ g.Edge a b ∧ b ≠ table :=
    edge_clear
  rw [Edge, sourcesOf, remove, mem_discardAt, sources, dependents, ← mirrored.mirror]
  constructor
  · rintro ⟨⟨edge, other⟩, kept⟩
    refine ⟨edge, ?_, other⟩
    rintro rfl
    exact kept ⟨⟨edge, fun self => other self.2⟩, rfl⟩
  · rintro ⟨edge, left, right⟩
    exact ⟨⟨edge, right⟩, fun gone => left gone.2⟩

theorem Mirrored.link (mirrored : g.Mirrored) : (g.link derived source).Mirrored where
  mirror a b := by
    have dependents : b ∈ (g.link derived source).dependentsOf a ↔
        b ∈ g.dependentsOf a ∨ a = source ∧ b = derived := mem_insertAt
    rw [edge_link, dependents, mirrored.mirror]
  sources_nodup t := nodup_insertAt (mirrored.sources_nodup t)

theorem Mirrored.clear (mirrored : g.Mirrored) : (g.clear derived).Mirrored where
  mirror a b := by
    have dependents : b ∈ (g.clear derived).dependentsOf a ↔
        b ∈ g.dependentsOf a ∧ ¬ (a ∈ g.sourcesOf derived ∧ b = derived) := mem_discardAt
    rw [edge_clear, dependents, ← mirrored.mirror]
    constructor
    · rintro ⟨edge, other⟩
      exact ⟨edge, fun gone => other gone.2⟩
    · rintro ⟨edge, kept⟩
      refine ⟨edge, ?_⟩
      rintro rfl
      exact kept ⟨edge, rfl⟩
  sources_nodup t := by
    rw [sourcesOf, Graph.clear, Assoc.lookup_drop]
    split
    · exact List.nodup_nil
    · exact mirrored.sources_nodup t

theorem Mirrored.remove (mirrored : g.Mirrored) {table : String} :
    (g.remove table).Mirrored where
  mirror a b := by
    have cleared : (g.clear table).Mirrored := mirrored.clear
    have dependents : b ∈ (g.remove table).dependentsOf a ↔
        b ∈ (g.clear table).dependentsOf a ∧ a ≠ table := mem_lookup_drop
    rw [edge_remove mirrored, dependents, ← cleared.mirror, edge_clear]
    tauto
  sources_nodup t := by
    rw [sourcesOf, Graph.remove, lookup_discardAt]
    have cleared : (g.clear table).Mirrored := mirrored.clear
    have nodup := cleared.sources_nodup t
    split
    · exact nodup.filter _
    · exact nodup

end

theorem Acyclic.ne_of_edge {g : Graph} (acyclic : g.Acyclic) {source derived : String}
    (edge : g.Edge source derived) : source ≠ derived := by
  intro same
  subst same
  exact acyclic source (.single edge)

theorem Acyclic.mono {g h : Graph} (acyclic : g.Acyclic)
    (fewer : ∀ a b, h.Edge a b → g.Edge a b) : h.Acyclic :=
  fun table cycle => acyclic table (TransGen.mono fewer _ _ cycle)

section Extend

variable {r : String → String → Prop} {derived : String} {sources : List String}

/-- The edges after edges into one table have been added. -/
private def Extended (r : String → String → Prop) (derived : String) (sources : List String)
    (a b : String) : Prop :=
  r a b ∨ a ∈ sources ∧ b = derived

private theorem walk_of_extended (free : ∀ s ∈ sources, ¬ ReflTransGen r derived s) {t : String}
    (walk : ReflTransGen (Extended r derived sources) derived t) : ReflTransGen r derived t := by
  induction walk with
  | refl => exact .refl
  | tail _ step ih =>
      rcases step with old | ⟨member, -⟩
      · exact ih.tail old
      · exact absurd ih (free _ member)

private theorem old_or_new {a b : String} (walk : TransGen (Extended r derived sources) a b) :
    TransGen r a b ∨ ∃ s ∈ sources, ReflTransGen (Extended r derived sources) a s ∧
      ReflTransGen (Extended r derived sources) derived b := by
  induction walk with
  | single step =>
      rcases step with old | ⟨member, rfl⟩
      · exact .inl (.single old)
      · exact .inr ⟨a, member, .refl, .refl⟩
  | tail walk step ih =>
      rcases step with old | ⟨member, rfl⟩
      · rcases ih with before | ⟨s, member, toS, fromDerived⟩
        · exact .inl (before.tail old)
        · exact .inr ⟨s, member, toS, fromDerived.tail (.inl old)⟩
      · exact .inr ⟨_, member, walk.to_reflTransGen, .refl⟩

/-- A cycle through a new edge would lead from the derived table to one of its sources. -/
private theorem extended_acyclic (acyclic : ∀ t, ¬ TransGen r t t)
    (free : ∀ s ∈ sources, ¬ ReflTransGen r derived s) (t : String) :
    ¬ TransGen (Extended r derived sources) t t := by
  intro cycle
  rcases old_or_new cycle with old | ⟨s, member, toS, fromDerived⟩
  · exact acyclic t old
  · exact free s member (walk_of_extended free (fromDerived.trans toS))

end Extend

theorem edge_linkAll {derived : String} (sources : List String) {g : Graph} {a b : String} :
    (sources.foldl (fun g source => g.link derived source) g).Edge a b ↔
      g.Edge a b ∨ a ∈ sources ∧ b = derived := by
  induction sources generalizing g with
  | nil => simp
  | cons source rest ih =>
      rw [List.foldl_cons, ih, edge_link, List.mem_cons]
      tauto

theorem Mirrored.linkAll {derived : String} (sources : List String) {g : Graph}
    (mirrored : g.Mirrored) :
    (sources.foldl (fun g source => g.link derived source) g).Mirrored := by
  induction sources generalizing g with
  | nil => exact mirrored
  | cons source rest ih => exact ih mirrored.link

theorem Sound.empty : Graph.empty.Sound where
  mirror a b := by simp [Edge, sourcesOf, dependentsOf, Graph.empty]
  sources_nodup t := List.nodup_nil
  acyclic t cycle := by
    obtain ⟨s, step, -⟩ := TransGen.head'_iff.mp cycle
    simp [Edge, sourcesOf, Graph.empty] at step

theorem Sound.remove {g : Graph} (sound : g.Sound) (table : String) : (g.remove table).Sound where
  toMirrored := sound.toMirrored.remove
  acyclic := sound.acyclic.mono fun _ _ edge => ((edge_remove sound.toMirrored).mp edge).1

theorem Sound.clear {g : Graph} (sound : g.Sound) (derived : String) : (g.clear derived).Sound where
  toMirrored := sound.toMirrored.clear
  acyclic := sound.acyclic.mono fun _ _ edge => (edge_clear.mp edge).1

/-- Edges into a table may be added if they were found to close no cycle. -/
theorem Acyclic.linkAll {g : Graph} (acyclic : g.Acyclic) {derived : String}
    {sources : List String} (checked : g.closesCycle derived sources = false) :
    (sources.foldl (fun g source => g.link derived source) g).Acyclic := by
  have free : ∀ s ∈ sources, ¬ ReflTransGen g.Edge derived s := by
    intro s member walk
    have refused : g.closesCycle derived sources = true := by
      rcases reflTransGen_iff_eq_or_transGen.mp walk with rfl | walk
      · exact closesCycle_iff.mpr (.inl member)
      · exact closesCycle_iff.mpr (.inr ⟨s, member, walk⟩)
    simp [checked] at refused
  intro t cycle
  apply extended_acyclic acyclic free t
  exact TransGen.mono (fun a b edge => (edge_linkAll sources).mp edge) _ _ cycle

theorem Sound.linkAll {g : Graph} (sound : g.Sound) {derived : String} {sources : List String}
    (checked : g.closesCycle derived sources = false) :
    (sources.foldl (fun g source => g.link derived source) g).Sound where
  toMirrored := sound.toMirrored.linkAll sources
  acyclic := sound.acyclic.linkAll checked

theorem not_acyclic_linkAll {g : Graph} {derived : String} {sources : List String}
    (closes : g.closesCycle derived sources = true) :
    ¬ (sources.foldl (fun g source => g.link derived source) g).Acyclic := by
  intro acyclic
  rcases closesCycle_iff.mp closes with self | ⟨s, member, walk⟩
  · exact acyclic derived (.single ((edge_linkAll sources).mpr (.inr ⟨self, rfl⟩)))
  · have kept : ∀ a b, g.Edge a b →
        (sources.foldl (fun g source => g.link derived source) g).Edge a b :=
      fun _ _ edge => (edge_linkAll sources).mpr (.inl edge)
    have back := TransGen.mono kept _ _ walk
    exact acyclic derived (back.tail ((edge_linkAll sources).mpr (.inr ⟨member, rfl⟩)))

theorem closesCycle_mono {g h : Graph} (fewer : ∀ a b, h.Edge a b → g.Edge a b) {derived : String}
    {sources : List String} (checked : g.closesCycle derived sources = false) :
    h.closesCycle derived sources = false := by
  rw [Bool.eq_false_iff, Ne, closesCycle_iff] at checked ⊢
  intro closes
  apply checked
  exact closes.imp_right fun ⟨s, member, walk⟩ => ⟨s, member, TransGen.mono fewer _ _ walk⟩

/-- The edges into a table may be replaced by edges that were found to close no cycle. -/
theorem Sound.rewire {g : Graph} (sound : g.Sound) {derived : String} {sources : List String}
    (checked : g.closesCycle derived sources = false) :
    (sources.foldl (fun g source => g.link derived source) (g.clear derived)).Sound :=
  (sound.clear derived).linkAll (closesCycle_mono (fun _ _ edge => (edge_clear.mp edge).1) checked)

/-- Edges of a graph without cycles are accepted one after the other, in any order. -/
theorem addEdge_each {g whole : Graph} (acyclic : whole.Acyclic) {derived : String}
    {sources : List String} (part : ∀ a b, g.Edge a b → whole.Edge a b)
    (planned : ∀ s ∈ sources, whole.Edge s derived) :
    sources.foldlM (fun g source => g.addEdge derived source) g =
      .ok (sources.foldl (fun g source => g.link derived source) g) := by
  induction sources generalizing g with
  | nil => rfl
  | cons source rest ih =>
      have last : whole.Edge source derived := planned source List.mem_cons_self
      have free : g.closesCycle derived [source] = false := by
        by_contra closes
        rw [Bool.not_eq_false, closesCycle_iff] at closes
        rcases closes with self | ⟨s, member, walk⟩
        · obtain rfl := List.mem_singleton.mp self
          exact acyclic derived (.single last)
        · obtain rfl := List.mem_singleton.mp member
          exact acyclic derived ((TransGen.mono part _ _ walk).tail last)
      have grown : ∀ a b, (g.link derived source).Edge a b → whole.Edge a b := by
        intro a b edge
        rcases edge_link.mp edge with old | ⟨rfl, rfl⟩
        · exact part a b old
        · exact last
      have later := ih grown fun s member => planned s (List.mem_cons_of_mem _ member)
      rw [List.foldlM_cons, addEdge, if_neg (by simp [free])]
      exact later

/-- Edges that were found to close no cycle together are accepted one after the other. -/
theorem Sound.addEdge_all {g : Graph} (sound : g.Sound) {derived : String} {sources : List String}
    (checked : g.closesCycle derived sources = false) :
    sources.foldlM (fun g source => g.addEdge derived source) (g.clear derived) =
      .ok (sources.foldl (fun g source => g.link derived source) (g.clear derived)) := by
  apply addEdge_each (sound.rewire checked).acyclic
  · intro a b edge
    exact (edge_linkAll sources).mpr (.inl edge)
  · intro s member
    exact (edge_linkAll sources).mpr (.inr ⟨member, rfl⟩)

end Gridbook.Graph
