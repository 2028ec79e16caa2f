import Mathlib.Data.List.Nodup
import Mathlib.Data.List.Perm.Subperm
import Gridbook.Graph.Order
import Gridbook.Proofs.Graph.Edges

/-! # Build orders

The build order takes tables from a queue once all their sources have been built. Whatever is left
over at the end waits for a table that is left over too, so only a cycle leaves anything over.
-/

namespace Gridbook.Graph

open Relation

/-- Each listed table is new, and all its sources have been built when its turn comes. -/
def BuildOrder (g : Graph) : List String → List String → Prop
  | _, [] => True
  | built, table :: rest =>
      table ∉ built ∧ (∀ source, g.Edge source table → source ∈ built) ∧
        g.BuildOrder (built ++ [table]) rest

/-- A table that is built from itself, or from a table that is, over any number of steps. -/
def Entangled (g : Graph) (table : String) : Prop :=
  ∃ c, TransGen g.Edge c c ∧ ReflTransGen g.Edge c table

namespace BuildOrder

variable {g : Graph}

theorem fresh {built order : List String} (valid : g.BuildOrder built order) :
    order.Nodup ∧ ∀ t ∈ order, t ∉ built := by
  induction order generalizing built with
  | nil => simp
  | cons table rest ih =>
      obtain ⟨new, -, later⟩ := valid
      obtain ⟨nodup, outside⟩ := ih later
      refine ⟨List.nodup_cons.mpr ⟨fun member => ?_, nodup⟩, ?_⟩
      · exact outside table member (by simp)
      · intro t member
        rcases List.mem_cons.mp member with rfl | member
        · exact new
        · exact fun old => outside t member (by simp [old])

theorem sources_before {built before after : List String} {table source : String}
    (valid : g.BuildOrder built (before ++ table :: after)) (edge : g.Edge source table) :
    source ∈ built ++ before := by
  induction before generalizing built with
  | nil => simpa using valid.2.1 source edge
  | cons head rest ih => simpa using ih valid.2.2

theorem filter_sources_before {order before after : List String} {table source : String}
    {keep : String → Bool} (valid : g.BuildOrder [] order)
    (shape : order.filter keep = before ++ table :: after) (edge : g.Edge source table)
    (kept : keep source = true) : source ∈ before := by
  obtain ⟨left, right, rfl, front, back⟩ := List.filter_eq_append_iff.mp shape
  obtain ⟨skipped, later, rfl, none, -, -⟩ := List.filter_eq_cons_iff.mp back
  have whole : g.BuildOrder [] ((left ++ skipped) ++ table :: later) := by simpa using valid
  have member := sources_before whole edge
  rw [List.nil_append, List.mem_append] at member
  rcases member with inside | inside
  · rw [← front]
    exact List.mem_filter.mpr ⟨inside, kept⟩
  · exact absurd kept (none source inside)

theorem upstream_before {before after : List String} {table upstream : String}
    (valid : g.BuildOrder [] (before ++ table :: after)) (walk : TransGen g.Edge upstream table) :
    upstream ∈ before := by
  induction walk using TransGen.head_induction_on with
  | single edge => simpa using valid.sources_before edge
  | head edge _ ih =>
      obtain ⟨first, second, rfl⟩ := List.append_of_mem ih
      rw [List.append_assoc, List.cons_append] at valid
      exact List.mem_append_left _ (by simpa using valid.sources_before edge)

/-- A table on a cycle would have to stand before itself. -/
theorem not_entangled {order : List String} {table : String} (valid : g.BuildOrder [] order)
    (member : table ∈ order) : ¬ g.Entangled table := by
  rintro ⟨c, cycle, walk⟩
  obtain ⟨before, after, rfl⟩ := List.append_of_mem member
  have inside : c ∈ before ++ table :: after := by
    rcases reflTransGen_iff_eq_or_transGen.mp walk with rfl | walk
    · exact member
    · exact List.mem_append_left _ (valid.upstream_before walk)
  obtain ⟨first, second, shape⟩ := List.append_of_mem inside
  rw [shape] at valid
  have twice := valid.upstream_before cycle
  exact (List.nodup_append.mp valid.fresh.1).2.2 c twice c List.mem_cons_self rfl

end BuildOrder

theorem nodup_eraseDups (names : List String) : names.eraseDups.Nodup := by
  induction h : names.length using Nat.strong_induction_on generalizing names with
  | _ n ih =>
      cases names with
      | nil => simp
      | cons name rest =>
          rw [List.eraseDups_cons, List.nodup_cons]
          constructor
          · simp [List.mem_eraseDups]
          · have shorter := List.length_filter_le (fun b => !b == name) rest
            exact ih _ (by simp at h; omega) _ rfl

theorem nodup_tables (g : Graph) : g.tables.Nodup := nodup_eraseDups _

theorem mem_keys {sets : List (String × List String)} {key member : String}
    (inside : member ∈ (sets.lookup key).getD []) : key ∈ sets.map (·.1) := by
  cases found : sets.lookup key with
  | none => simp [found] at inside
  | some members =>
      obtain ⟨before, after, shape, -⟩ := List.lookup_eq_some_iff.mp found
      simp [shape]

theorem Edge.derived_mem {g : Graph} {source derived : String} (edge : g.Edge source derived) :
    derived ∈ g.tables := by
  rw [tables, List.mem_eraseDups, List.mem_append]
  exact .inl (mem_keys edge)

theorem Mirrored.source_mem {g : Graph} (mirrored : g.Mirrored) {source derived : String}
    (edge : g.Edge source derived) : source ∈ g.tables := by
  rw [tables, List.mem_eraseDups, List.mem_append]
  exact .inr (mem_keys ((mirrored.mirror source derived).mp edge))

def missing (g : Graph) (built : List String) (table : String) : List String :=
  (g.sourcesOf table).filter fun source => !built.contains source

theorem missing_snoc (g : Graph) (built : List String) (table t : String) :
    g.missing (built ++ [table]) t = (g.missing built t).filter (· != table) := by
  simp only [missing, List.filter_filter]
  apply List.filter_congr
  intro source _
  by_cases same : source = table <;> simp [same]

theorem length_missing_snoc {g : Graph} (mirrored : g.Mirrored) {built : List String}
    {table t : String} (new : table ∉ built) :
    (g.missing (built ++ [table]) t).length =
      if (g.dependentsOf table).contains t then (g.missing built t).length - 1
      else (g.missing built t).length := by
  have nodup : (g.missing built t).Nodup := (mirrored.sources_nodup t).filter _
  rw [missing_snoc, ← nodup.erase_eq_filter, List.length_erase]
  have same : table ∈ g.missing built t ↔ (g.dependentsOf table).contains t = true := by
    have edge := mirrored.mirror table t
    simp only [Edge] at edge
    simp [missing, new, edge]
  simp only [same]

theorem release_perm (dependents : List String) (waiting : List (String × Nat)) :
    ((release dependents waiting).1 ++ (release dependents waiting).2.map (·.1)).Perm
      (waiting.map (·.1)) := by
  let lowered := waiting.map fun p => (p.1, if dependents.contains p.1 then p.2 - 1 else p.2)
  have parts := (List.filter_append_perm (fun p : String × Nat => p.2 == 0) lowered).map (·.1)
  have names : lowered.map (·.1) = waiting.map (·.1) := by
    rw [List.map_map]
    rfl
  rw [List.map_append, names] at parts
  simp only [release, List.partition_eq_filter_filter]
  exact parts

theorem mem_release {dependents : List String} {waiting : List (String × Nat)} {t : String} :
    t ∈ (release dependents waiting).1 ↔
      ∃ n, (t, n) ∈ waiting ∧ (if dependents.contains t then n - 1 else n) = 0 := by
  simp only [release, List.partition_eq_filter_filter, List.mem_map, List.mem_filter]
  constructor
  · rintro ⟨p, ⟨⟨q, member, rfl⟩, zero⟩, rfl⟩
    exact ⟨q.2, member, by simpa using zero⟩
  · rintro ⟨n, member, zero⟩
    exact ⟨(t, 0), ⟨⟨(t, n), member, by simp only [zero]⟩, rfl⟩, rfl⟩

theorem mem_release_rest {dependents : List String} {waiting : List (String × Nat)}
    {p : String × Nat} :
    p ∈ (release dependents waiting).2 ↔
      p.2 ≠ 0 ∧ ∃ n, (p.1, n) ∈ waiting ∧ p.2 = if dependents.contains p.1 then n - 1 else n := by
  simp only [release, List.partition_eq_filter_filter, List.mem_filter, List.mem_map]
  constructor
  · rintro ⟨⟨q, member, rfl⟩, held⟩
    exact ⟨by simpa using held, q.2, member, rfl⟩
  · rintro ⟨held, n, member, count⟩
    exact ⟨⟨(p.1, n), member, by rw [← count]⟩, by simpa using held⟩

/-- How far a build order has come: every table has been built, is in the queue or waits, and the
tables that wait count the sources they wait for. -/
structure Queued (g : Graph) (built queue : List String) (waiting : List (String × Nat)) :
    Prop where
  once : (built ++ (queue ++ waiting.map (·.1))).Nodup
  all : ∀ t, t ∈ g.tables ↔ t ∈ built ++ (queue ++ waiting.map (·.1))
  ready : ∀ t ∈ queue, ∀ source, g.Edge source t → source ∈ built
  count : ∀ p ∈ waiting, p.2 = (g.missing built p.1).length
  held : ∀ p ∈ waiting, p.2 ≠ 0

theorem Queued.step {g : Graph} (mirrored : g.Mirrored) {built rest : List String} {table : String}
    {waiting : List (String × Nat)} (queued : g.Queued built (table :: rest) waiting) :
    g.Queued (built ++ [table]) (rest ++ (release (g.dependentsOf table) waiting).1)
      (release (g.dependentsOf table) waiting).2 := by
  have new : table ∉ built := by
    intro old
    have apart := (List.nodup_append'.mp queued.once).2.2
    exact apart old (by simp)
  have perm : (built ++ [table] ++ (rest ++ (release (g.dependentsOf table) waiting).1 ++
      (release (g.dependentsOf table) waiting).2.map (·.1))).Perm
      (built ++ (table :: rest ++ waiting.map (·.1))) := by
    rw [List.append_assoc, List.append_assoc rest]
    exact ((((release_perm _ _).append_left rest).cons table).append_left built)
  have lowered (t : String) (n : Nat) (member : (t, n) ∈ waiting) :
      (if (g.dependentsOf table).contains t then n - 1 else n) =
        (g.missing (built ++ [table]) t).length := by
    have count : n = (g.missing built t).length := queued.count _ member
    rw [length_missing_snoc mirrored new, ← count]
  constructor
  case once => exact perm.nodup_iff.mpr queued.once
  case all =>
    intro t
    rw [queued.all t]
    exact perm.mem_iff.symm
  case ready =>
    intro t member source edge
    rcases List.mem_append.mp member with old | released
    · exact List.mem_append_left _ (queued.ready t (List.mem_cons_of_mem _ old) source edge)
    · obtain ⟨n, waits, zero⟩ := mem_release.mp released
      rw [lowered t n waits] at zero
      have none : g.missing (built ++ [table]) t = [] := List.eq_nil_of_length_eq_zero zero
      by_contra outside
      exact List.filter_eq_nil_iff.mp none source edge (by simpa using outside)
  case count =>
    intro p member
    obtain ⟨-, n, waits, count⟩ := mem_release_rest.mp member
    rw [count, lowered p.1 n waits]
  case held =>
    intro p member
    exact (mem_release_rest.mp member).1

theorem Mirrored.no_stranger {g : Graph} (mirrored : g.Mirrored) (table : String) :
    ((Text.sorted (g.dependentsOf table)).find? fun t => !g.tables.contains t) = none := by
  rw [List.find?_eq_none]
  intro t dependent
  have edge : g.Edge table t := (mirrored.mirror _ _).mpr (Text.mem_sorted.mp dependent)
  simpa using edge.derived_mem

theorem Mirrored.orderFrom_cons {g : Graph} (mirrored : g.Mirrored) (table : String)
    (rest : List String) (waiting : List (String × Nat)) :
    g.orderFrom (table :: rest) waiting =
      (g.orderFrom (rest ++ (release (g.dependentsOf table) waiting).1)
        (release (g.dependentsOf table) waiting).2).map (table :: ·) := by
  rw [orderFrom, mirrored.no_stranger]
  rfl

theorem orderFrom_spec {g : Graph} (mirrored : g.Mirrored) {queue : List String}
    {waiting : List (String × Nat)} {built : List String} (queued : g.Queued built queue waiting) :
    ∃ order, g.orderFrom queue waiting = .ok order ∧ g.BuildOrder built order ∧
      (∀ t ∈ order, t ∈ g.tables) ∧
      ∀ t ∈ g.tables, t ∈ built ++ order ∨
        ∃ source, g.Edge source t ∧ source ∉ built ++ order := by
  induction queue, waiting using orderFrom.induct g generalizing built with
  | case1 waiting =>
      refine ⟨[], by rw [orderFrom], trivial, by simp, ?_⟩
      intro t member
      rw [List.append_nil]
      rcases List.mem_append.mp ((queued.all t).mp member) with old | waits
      · exact .inl old
      · rw [List.nil_append] at waits
        obtain ⟨p, inside, rfl⟩ := List.mem_map.mp waits
        have held := queued.held p inside
        rw [queued.count p inside] at held
        obtain ⟨source, absent⟩ := List.exists_mem_of_length_pos (Nat.pos_of_ne_zero held)
        rw [missing, List.mem_filter] at absent
        exact .inr ⟨source, absent.1, by simpa using absent.2⟩
  | case2 waiting table rest stranger found =>
      rw [mirrored.no_stranger] at found
      cases found
  | case3 waiting table rest known released =>
      rename_i ih
      obtain ⟨order, run, valid, inside, left⟩ := ih (queued.step mirrored)
      have member : table ∈ g.tables := (queued.all table).mpr (by simp)
      refine ⟨table :: order, ?_, ⟨?_, ?_, valid⟩, ?_, ?_⟩
      · rw [mirrored.orderFrom_cons, run]
        rfl
      · intro old
        exact (List.nodup_append'.mp queued.once).2.2 old (by simp)
      · exact queued.ready table List.mem_cons_self
      · intro t found
        rcases List.mem_cons.mp found with rfl | later
        · exact member
        · exact inside t later
      · intro t found
        simpa using left t found

theorem queued_start {g : Graph} (mirrored : g.Mirrored) :
    g.Queued []
      ((((Text.sorted g.tables).map fun t =>
        (t, ((g.sourcesOf t).filter (Text.sorted g.tables).contains).length)).partition
          (·.2 == 0)).1.map (·.1))
      (((Text.sorted g.tables).map fun t =>
        (t, ((g.sourcesOf t).filter (Text.sorted g.tables).contains).length)).partition
          (·.2 == 0)).2 := by
  have full (t : String) : ((g.sourcesOf t).filter (Text.sorted g.tables).contains) =
      g.sourcesOf t := by
    apply List.filter_eq_self.mpr
    intro source edge
    simpa [Text.mem_sorted] using mirrored.source_mem edge
  have missing_nil (t : String) : g.missing [] t = g.sourcesOf t := by
    simp [missing]
  simp only [full, List.partition_eq_filter_filter]
  have names : ((Text.sorted g.tables).map fun t => (t, (g.sourcesOf t).length)).map (·.1) =
      Text.sorted g.tables := by
    rw [List.map_map]
    exact List.map_id _
  have perm := (List.filter_append_perm (fun p : String × Nat => p.2 == 0)
    ((Text.sorted g.tables).map fun t => (t, (g.sourcesOf t).length))).map (·.1)
  rw [List.map_append, names] at perm
  replace perm := perm.trans (Text.sorted_perm g.tables)
  constructor
  case once => exact perm.nodup_iff.mpr g.nodup_tables
  case all =>
    intro t
    exact perm.mem_iff.symm
  case ready =>
    intro t member source edge
    simp only [List.mem_map, List.mem_filter] at member
    obtain ⟨p, ⟨⟨u, -, rfl⟩, zero⟩, rfl⟩ := member
    have none : g.sourcesOf u = [] := List.eq_nil_of_length_eq_zero (by simpa using zero)
    rw [Edge, none] at edge
    exact edge
  case count =>
    intro p member
    simp only [List.mem_filter, List.mem_map] at member
    obtain ⟨⟨u, -, rfl⟩, -⟩ := member
    rw [missing_nil]
  case held =>
    intro p member
    simpa using (List.mem_filter.mp member).2

theorem order_spec {g : Graph} (mirrored : g.Mirrored) :
    ∃ built, g.BuildOrder [] built ∧ (∀ t, t ∈ built ↔ t ∈ g.tables ∧ ¬ g.Entangled t) ∧
      g.order = if built.length = g.tables.length then .ok built
        else .error (.cyclicGraph ((Text.sorted g.tables).filter fun t => !built.contains t)) := by
  obtain ⟨built, run, valid, inside, left⟩ := orderFrom_spec mirrored (queued_start mirrored)
  simp only [List.nil_append] at left
  refine ⟨built, valid, ?_, ?_⟩
  · intro t
    refine ⟨fun member => ⟨inside t member, valid.not_entangled member⟩, ?_⟩
    rintro ⟨member, free⟩
    by_contra outside
    -- what is left over has a source that is left over, and so on back into a cycle
    have back : ∀ u ∈ g.tables.filter (fun u => !built.contains u),
        ∃ source ∈ g.tables.filter (fun u => !built.contains u), g.Edge source u := by
      intro u stuck
      rw [List.mem_filter] at stuck
      rcases left u stuck.1 with known | ⟨source, edge, absent⟩
      · simp [known] at stuck
      · refine ⟨source, List.mem_filter.mpr ⟨mirrored.source_mem edge, ?_⟩, edge⟩
        simpa using absent
    exact free (exists_cycle_above back (List.mem_filter.mpr ⟨member, by simpa using outside⟩))
  · simp only [order]
    rw [run, Text.length_sorted]
    rfl

theorem order_of_acyclic {g : Graph} (sound : g.Sound) :
    ∃ built, g.order = .ok built ∧ g.BuildOrder [] built ∧ ∀ t, t ∈ built ↔ t ∈ g.tables := by
  obtain ⟨built, valid, mem_built, run⟩ := order_spec sound.toMirrored
  have all (t : String) : t ∈ built ↔ t ∈ g.tables := by
    rw [mem_built]
    exact and_iff_left fun ⟨c, cycle, _⟩ => sound.acyclic c cycle
  have perm : built.Perm g.tables :=
    (List.perm_ext_iff_of_nodup valid.fresh.1 g.nodup_tables).mpr all
  refine ⟨built, ?_, valid, all⟩
  rw [run, if_pos perm.length_eq]

/-- The order in which a change of some tables is passed on: every table downstream, once, behind
those of its sources that are downstream too. -/
structure Affected (g : Graph) (changed order : List String) : Prop where
  nodup : order.Nodup
  mem_iff : ∀ t, t ∈ order ↔ t ∉ changed ∧ ∃ s ∈ changed, TransGen g.Edge s t
  sources_before : ∀ before t after, order = before ++ t :: after →
    ∀ source, g.Edge source t → source ∈ order → source ∈ before

theorem affected_of_order {g : Graph} {whole : List String} (run : g.order = .ok whole)
    (changed : List String) :
    g.affected changed =
      .ok (whole.filter fun t => (g.descendants changed).contains t && !changed.contains t) := by
  simp only [affected, run]
  rfl

theorem affected_spec {g : Graph} (sound : g.Sound) (changed : List String) :
    ∃ order, g.affected changed = .ok order ∧ g.Affected changed order := by
  obtain ⟨built, run, valid, all⟩ := order_of_acyclic sound
  let keep := fun t => (g.descendants changed).contains t && !changed.contains t
  have keep_iff (t : String) : keep t = true ↔
      t ∉ changed ∧ ∃ s ∈ changed, TransGen g.Edge s t := by
    simp only [keep, Bool.and_eq_true, List.contains_eq_mem, decide_eq_true_eq,
      Bool.not_eq_true', decide_eq_false_iff_not, mem_descendants sound.toMirrored]
    constructor
    · rintro ⟨⟨s, member, walk⟩, outside⟩
      rcases reflTransGen_iff_eq_or_transGen.mp walk with rfl | walk
      · exact absurd member outside
      · exact ⟨outside, s, member, walk⟩
    · rintro ⟨outside, s, member, walk⟩
      exact ⟨⟨s, member, walk.to_reflTransGen⟩, outside⟩
  refine ⟨built.filter keep, affected_of_order run changed, ?_⟩
  constructor
  case nodup => exact valid.fresh.1.filter _
  case mem_iff =>
    intro t
    rw [List.mem_filter, keep_iff]
    constructor
    · exact And.right
    · rintro ⟨outside, s, member, walk⟩
      obtain ⟨r, -, last⟩ := TransGen.tail'_iff.mp walk
      exact ⟨(all t).mpr last.derived_mem, outside, s, member, walk⟩
  case sources_before =>
    intro before t after shape source edge member
    exact valid.filter_sources_before shape edge (List.mem_filter.mp member).2

/-- What one changed table affects is exactly what lies downstream of it. -/
theorem Affected.mem_iff_of_single {g : Graph} (acyclic : g.Acyclic) {id : String}
    {order : List String} (affected : g.Affected [id] order) {t : String} :
    t ∈ order ↔ TransGen g.Edge id t := by
  rw [affected.mem_iff]
  constructor
  · rintro ⟨-, s, member, walk⟩
    rwa [List.mem_singleton.mp member] at walk
  · intro walk
    refine ⟨?_, id, List.mem_singleton_self id, walk⟩
    rw [List.mem_singleton]
    rintro rfl
    exact acyclic t walk

end Gridbook.Graph
