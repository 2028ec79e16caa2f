import Mathlib.Data.Set.Finite.List
import Mathlib.Logic.Relation
import Mathlib.Order.WellFounded
import Gridbook.Graph

/-! # Reachability in dependency graphs

A search takes tables from a queue and ends, with or without cycles, since it puts no table into the
queue that it has seen before. It finds exactly the tables that walks along edges reach, so a new
edge is refused exactly when it would close a cycle.
-/

namespace Gridbook.Graph

open Relation

/-- A source and a table that is built directly from it. -/
def Edge (g : Graph) (source derived : String) : Prop :=
  source ∈ g.sourcesOf derived

/-- Both records of the edges agree, and no source of a table is on record twice. -/
structure Mirrored (g : Graph) : Prop where
  mirror : ∀ source derived, g.Edge source derived ↔ derived ∈ g.dependentsOf source
  sources_nodup : ∀ derived, (g.sourcesOf derived).Nodup

/-- No table is built from itself, over any number of steps. -/
def Acyclic (g : Graph) : Prop :=
  ∀ table, ¬ TransGen g.Edge table table

section Search

variable {sets : List (String × List String)} {queue seen : List String}

theorem mem_search_of_mem {t : String} (member : t ∈ seen) : t ∈ search sets queue seen := by
  fun_induction search sets queue seen with
  | case1 => exact member
  | case2 seen table rest fresh ih => exact ih (List.mem_append_left _ member)

theorem reached_of_mem_search (known : ∀ t ∈ queue, t ∈ seen) {t : String}
    (member : t ∈ search sets queue seen) :
    ∃ s ∈ seen, ReflTransGen (fun a b => b ∈ (sets.lookup a).getD []) s t := by
  fun_induction search sets queue seen with
  | case1 => exact ⟨t, member, .refl⟩
  | case2 seen table rest fresh ih =>
      have grown : ∀ t ∈ rest ++ fresh, t ∈ seen ++ fresh := by
        intro t waits
        rcases List.mem_append.mp waits with old | new
        · exact List.mem_append_left _ (known t (List.mem_cons_of_mem _ old))
        · exact List.mem_append_right _ new
      obtain ⟨s, inside, walk⟩ := ih grown member
      rcases List.mem_append.mp inside with old | new
      · exact ⟨s, old, walk⟩
      · have step := (List.mem_filter.mp new).1
        exact ⟨table, known table List.mem_cons_self, .head step walk⟩

/-- If each table that was seen is in the queue or all its members were seen too, no step leads out
of what the search finds. -/
theorem search_closed
    (passed : ∀ a ∈ seen, a ∈ queue ∨ ∀ b ∈ (sets.lookup a).getD [], b ∈ seen) {a b : String}
    (member : a ∈ search sets queue seen) (step : b ∈ (sets.lookup a).getD []) :
    b ∈ search sets queue seen := by
  fun_induction search sets queue seen with
  | case1 => exact ((passed a member).resolve_left (List.not_mem_nil)) b step
  | case2 seen table rest fresh ih =>
      have grown : ∀ a ∈ seen ++ fresh,
          a ∈ rest ++ fresh ∨ ∀ b ∈ (sets.lookup a).getD [], b ∈ seen ++ fresh := by
        intro a inside
        rcases List.mem_append.mp inside with old | new
        · rcases passed a old with waits | closed
          · rcases List.mem_cons.mp waits with rfl | later
            -- the turn of the table itself: what it adds has been seen from now on
            · refine .inr fun b step => ?_
              by_cases known : b ∈ seen
              · exact List.mem_append_left _ known
              · exact List.mem_append_right _ (List.mem_filter.mpr ⟨step, by simpa using known⟩)
            · exact .inl (List.mem_append_left _ later)
          · exact .inr fun b step => List.mem_append_left _ (closed b step)
        · exact .inl (List.mem_append_right _ new)
      exact ih grown member

theorem mem_search_iff {tables : List String} {t : String} :
    t ∈ search sets tables tables ↔
      ∃ s ∈ tables, ReflTransGen (fun a b => b ∈ (sets.lookup a).getD []) s t := by
  constructor
  · exact reached_of_mem_search fun _ member => member
  · rintro ⟨s, member, walk⟩
    induction walk with
    | refl => exact mem_search_of_mem member
    | tail _ step ih => exact search_closed (fun _ inside => .inl inside) ih step

end Search

theorem mem_ancestors {g : Graph} {tables : List String} {t : String} :
    t ∈ g.ancestors tables ↔ ∃ s ∈ tables, ReflTransGen g.Edge t s := by
  rw [ancestors, mem_search_iff]
  simp only [← reflTransGen_swap (r := g.Edge)]
  rfl

theorem mem_descendants {g : Graph} (mirrored : g.Mirrored) {tables : List String} {t : String} :
    t ∈ g.descendants tables ↔ ∃ s ∈ tables, ReflTransGen g.Edge s t := by
  have same : (fun a b => b ∈ (g.dependents.lookup a).getD []) = g.Edge := by
    funext a b
    exact propext (mirrored.mirror a b).symm
  rw [descendants, mem_search_iff, same]

/-- A table is refused as its own source, and so is a table that is built from it. -/
theorem closesCycle_iff {g : Graph} {derived : String} {sources : List String} :
    g.closesCycle derived sources = true ↔
      derived ∈ sources ∨ ∃ s ∈ sources, TransGen g.Edge derived s := by
  simp only [closesCycle, Bool.or_eq_true, List.contains_eq_mem, decide_eq_true_eq,
    List.any_eq_true, mem_ancestors]
  constructor
  · rintro (self | ⟨t, ⟨s, member, walk⟩, step⟩)
    · exact .inl self
    · exact .inr ⟨s, member, .head' step walk⟩
  · rintro (self | ⟨s, member, walk⟩)
    · exact .inl self
    · obtain ⟨t, step, rest⟩ := TransGen.head'_iff.mp walk
      exact .inr ⟨t, ⟨s, member, rest⟩, step⟩

/-- Going back from a member of a finite set, always inside the set, ends in a cycle. -/
theorem exists_cycle_above {r : String → String → Prop} {set : List String}
    (back : ∀ t ∈ set, ∃ s ∈ set, r s t) {t : String} (member : t ∈ set) :
    ∃ c, TransGen r c c ∧ ReflTransGen r c t := by
  by_contra none
  push Not at none
  let Above := { s : String // s ∈ set ∧ ReflTransGen r s t }
  have : Finite Above :=
    (List.finite_toSet set).subset fun _ inside => inside.1
  let before : Above → Above → Prop := fun a b => TransGen r a.1 b.1
  have : IsTrans Above before := ⟨fun _ _ _ => TransGen.trans⟩
  have : Std.Irrefl before := ⟨fun a cycle => none a.1 cycle a.2.2⟩
  have founded : WellFounded before := Finite.wellFounded_of_trans_of_irrefl before
  obtain ⟨least, -, minimal⟩ := founded.has_min Set.univ ⟨⟨t, member, .refl⟩, trivial⟩
  obtain ⟨s, inside, step⟩ := back least.1 least.2.1
  exact minimal ⟨s, inside, .head step least.2.2⟩ trivial (.single step)

end Gridbook.Graph
