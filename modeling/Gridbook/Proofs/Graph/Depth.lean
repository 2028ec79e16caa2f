import Mathlib.Algebra.Order.BigOperators.Group.List
import Mathlib.Algebra.Order.Ring.Nat
import Gridbook.Graph.Order
import Gridbook.Proofs.Graph.Changes

/-! # The longest chain

The search for the longest chain of derived tables has no record of where it has been: it goes on
from a table again whenever it comes to it over more edges than before. What it notes is always the
length of a chain, and a chain of a graph without cycles meets no table twice, so a table can be
noted only so often. When the queue is empty, no chain is longer than what was noted.
-/

namespace Gridbook.Graph

open Relation

/-- A table and one that is built directly from it, as the dependents are on record. -/
def Feeds (g : Graph) (source derived : String) : Prop :=
  derived ∈ g.dependentsOf source

/-- A chain of derived tables from one table to another, by the number of its edges. -/
inductive Chain (g : Graph) : Nat → String → String → Prop where
  | here (table : String) : g.Chain 0 table table
  | on {edges : Nat} {first last derived : String} :
      g.Chain edges first last → g.Feeds last derived → g.Chain (edges + 1) first derived

/-- A number of edges that some chain from a root has and none exceeds. -/
structure Longest (g : Graph) (roots : List String) (edges : Nat) : Prop where
  rootless : roots = [] → edges = 0
  attained : roots ≠ [] → ∃ root ∈ roots, ∃ last, g.Chain edges root last
  bound : ∀ root ∈ roots, ∀ count last, g.Chain count root last → count ≤ edges

theorem Chain.congr {g h : Graph} (feeds : ∀ a b, h.Feeds a b ↔ g.Feeds a b) {edges : Nat}
    {first last : String} (chain : g.Chain edges first last) : h.Chain edges first last := by
  induction chain with
  | here table => exact .here table
  | on _ step ih => exact .on ih ((feeds _ _).mpr step)

theorem Longest.le {g h : Graph} {roots others : List String} {edges count : Nat}
    (feeds : ∀ a b, h.Feeds a b ↔ g.Feeds a b) (same : ∀ t, t ∈ others ↔ t ∈ roots)
    (longest : g.Longest roots edges) (other : h.Longest others count) : count ≤ edges := by
  by_cases none : others = []
  · rw [other.rootless none]
    exact Nat.zero_le edges
  · obtain ⟨root, member, last, chain⟩ := other.attained none
    exact longest.bound root ((same root).mp member) count last
      (chain.congr fun a b => (feeds a b).symm)

theorem Longest.unique {g h : Graph} {roots others : List String} {edges count : Nat}
    (feeds : ∀ a b, h.Feeds a b ↔ g.Feeds a b) (same : ∀ t, t ∈ others ↔ t ∈ roots)
    (longest : g.Longest roots edges) (other : h.Longest others count) : count = edges :=
  le_antisymm (longest.le feeds same other)
    (other.le (fun a b => (feeds a b).symm) (fun t => (same t).symm) longest)

theorem Feeds.mem_members {g : Graph} {source derived : String} (feeds : g.Feeds source derived) :
    derived ∈ g.dependents.flatMap (·.2) :=
  (sublist_members g.dependents source).mem feeds

/-- A chain of a graph without cycles meets another table with each edge. -/
theorem Chain.met {g : Graph} (acyclic : ∀ t, ¬ TransGen g.Feeds t t) {edges : Nat}
    {first last : String} (chain : g.Chain edges first last) :
    ∃ met : List String, met.length = edges ∧ met.Nodup ∧
      ∀ t ∈ met, t ∈ g.dependents.flatMap (·.2) ∧ ReflTransGen g.Feeds t last := by
  induction chain with
  | here table => exact ⟨[], rfl, List.nodup_nil, by simp⟩
  | @on _ _ last derived _ step ih =>
      obtain ⟨met, length, nodup, inside⟩ := ih
      have new : derived ∉ met := fun old => acyclic derived (.tail' (inside derived old).2 step)
      refine ⟨derived :: met, by simp [length], List.nodup_cons.mpr ⟨new, nodup⟩, ?_⟩
      intro t member
      rcases List.mem_cons.mp member with rfl | old
      · exact ⟨step.mem_members, .refl⟩
      · exact ⟨(inside t old).1, (inside t old).2.tail step⟩

theorem Chain.edges_le {g : Graph} (acyclic : ∀ t, ¬ TransGen g.Feeds t t) {edges : Nat}
    {first last : String} (chain : g.Chain edges first last) :
    edges ≤ memberCount g.dependents := by
  obtain ⟨met, rfl, nodup, inside⟩ := chain.met acyclic
  exact (nodup.subperm fun t member => (inside t member).1).length_le

namespace Climb

variable {g : Graph} {c : Climb} {edges : Nat} {table t : String}

theorem reach_cases (edges : Nat) (c : Climb) (table : String) :
    (∃ noted, c.edges.lookup table = some noted ∧ edges ≤ noted ∧ c.reach edges table = c) ∨
    ((∀ noted, c.edges.lookup table = some noted → noted < edges) ∧
      c.reach edges table =
        ⟨c.queue ++ [table], Assoc.set table edges c.edges, max c.longest edges⟩) := by
  cases found : c.edges.lookup table with
  | none => exact .inr ⟨by simp, by simp [reach, found]⟩
  | some noted =>
      by_cases more : noted < edges
      · exact .inr ⟨by simp [more], by simp [reach, found, more]⟩
      · exact .inl ⟨noted, rfl, by omega, by simp [reach, found, more]⟩

/-- Over however many edges a table had been reached, it has been reached over as many now. -/
theorem lookup_reach {noted : Nat} (found : c.edges.lookup t = some noted) :
    ∃ more, (c.reach edges table).edges.lookup t = some more ∧ noted ≤ more := by
  rcases reach_cases edges c table with ⟨_, -, -, kept⟩ | ⟨less, grown⟩
  · exact ⟨noted, by rw [kept, found], le_refl noted⟩
  · rw [grown, Assoc.lookup_set]
    by_cases same : t = table
    · subst same
      exact ⟨edges, by simp, (less noted found).le⟩
    · exact ⟨noted, by simp [same, found], le_refl noted⟩

theorem lookup_reach_self (edges : Nat) (c : Climb) (table : String) :
    ∃ noted, (c.reach edges table).edges.lookup table = some noted ∧ edges ≤ noted := by
  rcases reach_cases edges c table with ⟨noted, found, enough, kept⟩ | ⟨-, grown⟩
  · exact ⟨noted, by rw [kept, found], enough⟩
  · exact ⟨edges, by simp [grown, Assoc.lookup_set], le_refl edges⟩

theorem note_cases {notes : List (String × Nat)} {noted : Nat}
    (found : (Assoc.set table edges notes).lookup t = some noted) :
    t = table ∧ noted = edges ∨ notes.lookup t = some noted := by
  rw [Assoc.lookup_set] at found
  by_cases same : t = table
  · exact .inl ⟨same, by simpa [same] using found.symm⟩
  · exact .inr (by simpa [same] using found)

/-- What holds of a search between its turns, and within one but for the dependents that it owes a
visit: what is noted are lengths of chains, and from each table that is not in the queue the search
has gone on since it came there last. -/
structure Valid (g : Graph) (roots : List String) (owed : String → Nat → String → Prop)
    (c : Climb) : Prop where
  chained : ∀ t noted, c.edges.lookup t = some noted → ∃ root ∈ roots, g.Chain noted root t
  started : ∀ root ∈ roots, ∃ noted, c.edges.lookup root = some noted
  queued : ∀ t ∈ c.queue, ∃ noted, c.edges.lookup t = some noted
  passed : ∀ t noted, c.edges.lookup t = some noted → t ∈ c.queue ∨
    ∀ derived, g.Feeds t derived →
      owed t noted derived ∨ ∃ more, c.edges.lookup derived = some more ∧ noted < more
  below : ∀ t noted, c.edges.lookup t = some noted → noted ≤ c.longest
  told : c.longest = 0 ∨ ∃ t, c.edges.lookup t = some c.longest

variable {roots : List String} {owed : String → Nat → String → Prop}

/-- No dependent is owed a visit. -/
def Nothing (_ : String) (_ : Nat) (_ : String) : Prop :=
  False

/-- The search owes some dependents of a table a visit. -/
def Owes (source : String) (noted : Nat) (pending : List String) (t : String) (count : Nat)
    (derived : String) : Prop :=
  t = source ∧ count = noted ∧ derived ∈ pending

theorem lookup_start {noted : Nat} :
    (start roots).edges.lookup t = some noted ↔ t ∈ roots ∧ noted = 0 := by
  simp only [start]
  induction roots with
  | nil => simp
  | cons root rest ih =>
      by_cases same : t = root
      · simp [same, eq_comm]
      · simp [List.lookup_cons, same, beq_false_of_ne same, ih]

theorem Valid.start (g : Graph) (roots : List String) : (start roots).Valid g roots Nothing where
  chained t noted found := by
    obtain ⟨member, rfl⟩ := lookup_start.mp found
    exact ⟨t, member, .here t⟩
  started root member := ⟨0, lookup_start.mpr ⟨member, rfl⟩⟩
  queued t member := ⟨0, lookup_start.mpr ⟨member, rfl⟩⟩
  passed t noted found := .inl (lookup_start.mp found).1
  below t noted found := (lookup_start.mp found).2.le
  told := .inl rfl

theorem Valid.reach (valid : c.Valid g roots owed)
    (chain : ∃ root ∈ roots, g.Chain edges root table) :
    (c.reach edges table).Valid g roots owed := by
  rcases reach_cases edges c table with ⟨_, -, -, kept⟩ | ⟨less, grown⟩
  · rw [kept]
    exact valid
  have keeps {t : String} {noted : Nat} (found : c.edges.lookup t = some noted) :
      ∃ more, (c.reach edges table).edges.lookup t = some more ∧ noted ≤ more := lookup_reach found
  simp only [grown] at keeps ⊢
  constructor
  case chained =>
    intro t noted found
    rcases note_cases found with ⟨rfl, rfl⟩ | old
    · exact chain
    · exact valid.chained t noted old
  case started =>
    intro root member
    obtain ⟨noted, found⟩ := valid.started root member
    obtain ⟨more, found, -⟩ := keeps found
    exact ⟨more, found⟩
  case queued =>
    intro t member
    rcases List.mem_append.mp member with old | new
    · obtain ⟨noted, found⟩ := valid.queued t old
      obtain ⟨more, found, -⟩ := keeps found
      exact ⟨more, found⟩
    · rw [List.mem_singleton.mp new]
      exact ⟨edges, by simp [Assoc.lookup_set]⟩
  case passed =>
    intro t noted found
    rcases note_cases found with ⟨rfl, -⟩ | old
    · exact .inl (by simp)
    · rcases valid.passed t noted old with waits | passed
      · exact .inl (List.mem_append_left _ waits)
      · refine .inr fun derived feeds => (passed derived feeds).imp_right ?_
        rintro ⟨more, known, lt⟩
        obtain ⟨most, known, le⟩ := keeps known
        exact ⟨most, known, lt.trans_le le⟩
  case below =>
    intro t noted found
    rcases note_cases found with ⟨-, rfl⟩ | old
    · exact le_max_right _ _
    · exact (valid.below t noted old).trans (le_max_left _ _)
  case told =>
    rcases le_or_gt edges c.longest with le | lt
    · rw [max_eq_left le]
      rcases valid.told with zero | ⟨t, found⟩
      · exact .inl zero
      · have other : t ≠ table := by
          rintro rfl
          exact absurd (less _ found) (not_lt.mpr le)
        exact .inr ⟨t, by simp [Assoc.lookup_set, other, found]⟩
    · rw [max_eq_right lt.le]
      exact .inr ⟨table, by simp [Assoc.lookup_set]⟩

theorem Valid.pay {owed' : String → Nat → String → Prop} (valid : c.Valid g roots owed)
    (paid : ∀ t noted derived, owed t noted derived →
      owed' t noted derived ∨ ∃ more, c.edges.lookup derived = some more ∧ noted < more) :
    c.Valid g roots owed' where
  chained := valid.chained
  started := valid.started
  queued := valid.queued
  passed t noted found := by
    refine (valid.passed t noted found).imp_right fun passed derived feeds => ?_
    rcases passed derived feeds with open' | closed
    · exact paid t noted derived open'
    · exact .inr closed
  below := valid.below
  told := valid.told

/-- The visits that a search owes to some dependents of a table are made one after the other. -/
theorem Valid.reachAll {source : String} {noted : Nat} {pending : List String}
    (valid : c.Valid g roots (Owes source noted pending))
    (chains : ∀ t ∈ pending, ∃ root ∈ roots, g.Chain (noted + 1) root t) :
    (pending.foldl (Climb.reach (noted + 1)) c).Valid g roots Nothing := by
  induction pending generalizing c with
  | nil => exact valid.pay fun t count derived owes => absurd owes.2.2 List.not_mem_nil
  | cons table rest ih =>
      rw [List.foldl_cons]
      have visited := valid.reach (chains table List.mem_cons_self)
      refine ih (visited.pay ?_) fun t member => chains t (List.mem_cons_of_mem _ member)
      rintro t count derived ⟨rfl, rfl, member⟩
      rcases List.mem_cons.mp member with rfl | later
      · exact .inr (lookup_reach_self _ c derived)
      · exact .inl ⟨rfl, rfl, later⟩

theorem Valid.turn_eq (valid : c.Valid g roots Nothing) {rest : List String}
    (queue : c.queue = table :: rest) : ∃ noted, c.edges.lookup table = some noted ∧
      c.turn g = (g.dependentsOf table).foldl (Climb.reach (noted + 1)) { c with queue := rest } := by
  obtain ⟨noted, found⟩ := valid.queued table (by simp [queue])
  exact ⟨noted, found, by simp [turn, queue, found]⟩

theorem Valid.chains_on (valid : c.Valid g roots owed) {noted : Nat}
    (found : c.edges.lookup table = some noted) :
    ∀ t ∈ g.dependentsOf table, ∃ root ∈ roots, g.Chain (noted + 1) root t := by
  intro t feeds
  obtain ⟨root, member, chain⟩ := valid.chained table noted found
  exact ⟨root, member, .on chain feeds⟩

theorem Valid.pop (valid : c.Valid g roots Nothing) {rest : List String}
    (queue : c.queue = table :: rest) {noted : Nat} (found : c.edges.lookup table = some noted) :
    { c with queue := rest }.Valid g roots (Owes table noted (g.dependentsOf table)) where
  chained := valid.chained
  started := valid.started
  queued t member := valid.queued t (by simp [queue, member])
  passed t count known := by
    rcases valid.passed t count known with waits | passed
    · rw [queue] at waits
      rcases List.mem_cons.mp waits with rfl | later
      · obtain rfl : count = noted := by simpa [found] using known.symm
        exact .inr fun derived feeds => .inl ⟨rfl, rfl, feeds⟩
      · exact .inl later
    · exact .inr fun derived feeds => .inr ((passed derived feeds).resolve_left id)
  below := valid.below
  told := valid.told

theorem Valid.turn (valid : c.Valid g roots Nothing) : (c.turn g).Valid g roots Nothing := by
  cases queue : c.queue with
  | nil =>
      rw [Climb.turn, queue]
      exact valid
  | cons table rest =>
      obtain ⟨noted, found, run⟩ := valid.turn_eq queue
      rw [run]
      exact (valid.pop queue found).reachAll (valid.chains_on found)

theorem Valid.note_of_chain (valid : c.Valid g roots Nothing) (settled : c.queue = [])
    {root last : String} (member : root ∈ roots) (chain : g.Chain edges root last) :
    ∃ noted, c.edges.lookup last = some noted ∧ edges ≤ noted := by
  induction chain with
  | here table =>
      obtain ⟨noted, found⟩ := valid.started table member
      exact ⟨noted, found, Nat.zero_le noted⟩
  | @on _ _ last derived _ step ih =>
      obtain ⟨noted, found, le⟩ := ih member
      have passed := (valid.passed last noted found).resolve_left (by simp [settled])
      obtain ⟨more, known, lt⟩ := (passed derived step).resolve_left id
      exact ⟨more, known, by omega⟩

/-- A search whose queue is empty has found the longest chain, whether there are cycles or not. -/
theorem Valid.longest (valid : c.Valid g roots Nothing) (settled : c.queue = []) :
    g.Longest roots c.longest where
  rootless none := by
    rcases valid.told with zero | ⟨t, found⟩
    · exact zero
    · obtain ⟨root, member, -⟩ := valid.chained t _ found
      simp [none] at member
  attained some := by
    rcases valid.told with zero | ⟨t, found⟩
    · obtain ⟨root, member⟩ := List.exists_mem_of_ne_nil roots some
      exact ⟨root, member, root, zero ▸ .here root⟩
    · obtain ⟨root, member, chain⟩ := valid.chained t _ found
      exact ⟨root, member, t, chain⟩
  bound root member count last chain := by
    obtain ⟨noted, found, le⟩ := valid.note_of_chain settled member chain
    exact le.trans (valid.below last noted found)

/-- What is left to do for a search that notes nothing above a bound: the turns for the tables in
the queue, and one for each edge that may still be added to what is noted of a dependent. -/
def slack (g : Graph) (bound : Nat) (c : Climb) : Nat :=
  c.queue.length +
    ((g.dependents.flatMap (·.2)).map fun t => bound - (c.edges.lookup t).getD 0).sum

theorem slack_reach {bound : Nat} (inside : table ∈ g.dependents.flatMap (·.2))
    (positive : 0 < edges) (le : edges ≤ bound) :
    (c.reach edges table).slack g bound ≤ c.slack g bound := by
  rcases reach_cases edges c table with ⟨_, -, -, kept⟩ | ⟨less, grown⟩
  · rw [kept]
  have before : (c.edges.lookup table).getD 0 < edges := by
    cases found : c.edges.lookup table with
    | none => exact positive
    | some noted => exact less noted found
  have fewer : ((g.dependents.flatMap (·.2)).map fun t =>
        bound - ((Assoc.set table edges c.edges).lookup t).getD 0).sum <
      ((g.dependents.flatMap (·.2)).map fun t => bound - (c.edges.lookup t).getD 0).sum := by
    apply List.sum_lt_sum
    · intro t _
      by_cases same : t = table
      · subst same
        simp only [Assoc.lookup_set, BEq.rfl, if_true, Option.getD_some]
        omega
      · simp [Assoc.lookup_set, same]
    · refine ⟨table, inside, ?_⟩
      simp only [Assoc.lookup_set, BEq.rfl, if_true, Option.getD_some]
      omega
  simp only [grown, slack, List.length_append, List.length_singleton]
  omega

theorem slack_reachAll {bound : Nat} {pending : List String}
    (inside : ∀ t ∈ pending, t ∈ g.dependents.flatMap (·.2)) (positive : 0 < edges)
    (le : pending ≠ [] → edges ≤ bound) :
    (pending.foldl (Climb.reach edges) c).slack g bound ≤ c.slack g bound := by
  induction pending generalizing c with
  | nil => exact le_refl _
  | cons table rest ih =>
      have enough : edges ≤ bound := le (List.cons_ne_nil _ _)
      rw [List.foldl_cons]
      exact (ih (fun t member => inside t (List.mem_cons_of_mem _ member)) fun _ => enough).trans
        (slack_reach (inside table List.mem_cons_self) positive enough)

theorem Valid.slack_turn (acyclic : ∀ t, ¬ TransGen g.Feeds t t) (valid : c.Valid g roots Nothing)
    (waits : c.queue ≠ []) :
    (c.turn g).slack g (memberCount g.dependents) < c.slack g (memberCount g.dependents) := by
  obtain ⟨table, rest, queue⟩ := List.exists_cons_of_ne_nil waits
  obtain ⟨noted, found, run⟩ := valid.turn_eq queue
  have enough : g.dependentsOf table ≠ [] → noted + 1 ≤ memberCount g.dependents := by
    intro some
    obtain ⟨t, feeds⟩ := List.exists_mem_of_ne_nil _ some
    obtain ⟨root, -, chain⟩ := valid.chains_on found t feeds
    exact chain.edges_le acyclic
  have visits : ((g.dependentsOf table).foldl (Climb.reach (noted + 1))
      { c with queue := rest }).slack g (memberCount g.dependents) ≤
      { c with queue := rest }.slack g (memberCount g.dependents) :=
    slack_reachAll (fun _ feeds => (sublist_members g.dependents table).mem feeds) noted.succ_pos
      enough
  rw [run]
  simp only [slack, queue, List.length_cons] at visits ⊢
  omega

/-- Without cycles the queue is empty after as many turns as are left, and no turn is made then. -/
theorem Valid.turns (acyclic : ∀ t, ¬ TransGen g.Feeds t t) (valid : c.Valid g roots Nothing)
    {count : Nat} (enough : c.slack g (memberCount g.dependents) ≤ count) :
    (c.turns g count).Valid g roots Nothing ∧ (c.turns g count).queue = [] := by
  induction count generalizing c with
  | zero =>
      have none : c.queue.length = 0 := by
        rw [slack] at enough
        omega
      exact ⟨valid, List.eq_nil_of_length_eq_zero none⟩
  | succ count ih =>
      rw [Climb.turns]
      split
      case isTrue settled => exact ⟨valid, List.isEmpty_iff.mp settled⟩
      case isFalse waits =>
        have less := valid.slack_turn acyclic (by simpa using waits)
        exact ih valid.turn (by omega)

theorem slack_start (g : Graph) (roots : List String) :
    (start roots).slack g (memberCount g.dependents) ≤ g.maxTurns roots := by
  have each : ∀ left ∈ (g.dependents.flatMap (·.2)).map fun t =>
      memberCount g.dependents - ((Climb.start roots).edges.lookup t).getD 0,
      left ≤ memberCount g.dependents := by
    intro left member
    obtain ⟨t, -, rfl⟩ := List.mem_map.mp member
    exact Nat.sub_le _ _
  have all := List.sum_le_card_nsmul _ _ each
  rw [List.length_map, Nat.nsmul_eq_mul] at all
  exact Nat.add_le_add_left all _

end Climb

/-- In a graph without cycles the search for the longest chain comes to an end, and it does so with
the number of edges of the longest chain of derived tables that starts at a root. The number is the
same in whatever order roots and dependents are listed. -/
theorem depth_longest {g : Graph} (acyclic : ∀ t, ¬ TransGen g.Feeds t t) (roots : List String) :
    (∃ enough, ∀ count, enough ≤ count →
      ((Climb.start roots).turns g count).queue = [] ∧
        ((Climb.start roots).turns g count).longest = g.depth roots) ∧
    g.Longest roots (g.depth roots) ∧
    ∀ (h : Graph) (others : List String), (∀ a b, h.Feeds a b ↔ g.Feeds a b) →
      (∀ t, t ∈ others ↔ t ∈ roots) → h.depth others = g.depth roots := by
  have settles {h : Graph} (free : ∀ t, ¬ TransGen h.Feeds t t) (others : List String)
      {count : Nat} (enough : h.maxTurns others ≤ count) :
      ((Climb.start others).turns h count).queue = [] ∧
        h.Longest others ((Climb.start others).turns h count).longest := by
    obtain ⟨valid, settled⟩ := (Climb.Valid.start h others).turns free
      ((Climb.slack_start h others).trans enough)
    exact ⟨settled, valid.longest settled⟩
  have longest : g.Longest roots (g.depth roots) := (settles acyclic roots (le_refl _)).2
  refine ⟨⟨g.maxTurns roots, fun count enough => ?_⟩, longest, fun h others feeds same => ?_⟩
  · obtain ⟨settled, found⟩ := settles acyclic roots enough
    exact ⟨settled, longest.unique (fun _ _ => Iff.rfl) (fun _ => Iff.rfl) found⟩
  · have free : ∀ t, ¬ TransGen h.Feeds t t := fun t cycle =>
      acyclic t (TransGen.mono (fun a b step => (feeds a b).mp step) _ _ cycle)
    exact longest.unique feeds same (settles free others (le_refl _)).2

/-- Some tables are built from others both directly and by way of further tables. -/
def shortcut : Graph :=
  grown [.add "d" "a", .add "b" "a", .add "c" "b", .add "d" "c", .add "e" "d"]

/-- The last table is first reached over two edges; the chain through all tables has four. -/
theorem shortcut_depth :
    (∀ t, ¬ TransGen shortcut.Feeds t t) ∧ shortcut.depth ["d", "a"] = 4 ∧
      shortcut.Longest ["d", "a"] 4 ∧ shortcut.depth ["a", "d"] = 4 := by
  have sound : shortcut.Sound := sound_grown _
  have acyclic : ∀ t, ¬ TransGen shortcut.Feeds t t := by
    have same : shortcut.Feeds = shortcut.Edge := by
      funext a b
      exact propext (sound.mirror a b).symm
    rw [same]
    exact sound.acyclic
  have found : shortcut.depth ["d", "a"] = 4 := by decide +kernel
  obtain ⟨-, longest, regardless⟩ := depth_longest acyclic ["d", "a"]
  rw [found] at longest regardless
  have swapped : ∀ t, t ∈ ["a", "d"] ↔ t ∈ ["d", "a"] := by
    simp [or_comm]
  exact ⟨acyclic, found, longest, regardless shortcut ["a", "d"] (fun _ _ => Iff.rfl) swapped⟩

end Gridbook.Graph
