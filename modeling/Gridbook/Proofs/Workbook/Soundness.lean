import Gridbook.Proofs.Graph.Edges
import Gridbook.Proofs.Workbook.Moves

/-! # Sound workbooks

A workbook keeps its tables, merges, edges and recorded headers apart, and calls change them one
after the other. They belong together in every workbook that calls lead to: each edge leads from a
table with a view into a merged table whose merge names it, and has headers on record.
-/

namespace Gridbook.Workbook

/-- The parts of a workbook belong together. -/
structure Sound (w : Workbook) : Prop where
  graph : w.graph.Sound
  apart : ∀ id, Assoc.has id w.sources = true → Assoc.has id w.merges = false
  named : ∀ s d, w.graph.Edge s d → ∃ merge, w.merges.lookup d = some merge ∧ s ∈ merge.sourceIds
  shown : ∀ s d, w.graph.Edge s d → Assoc.has s w.tables = true
  built : ∀ d, Assoc.has d w.merges = true → Assoc.has d w.tables = true
  owned : ∀ t, Assoc.has t w.tables = true →
    Assoc.has t w.sources = true ∨ Assoc.has t w.merges = true
  recorded : ∀ s d, w.graph.Edge s d → ∃ old, w.headers.lookup (d, s) = some old

theorem headersOf_congr {v w : Workbook} {id : String} (sources : v.sources = w.sources)
    (view : v.tables.lookup id = w.tables.lookup id) : v.headersOf id = w.headersOf id := by
  rw [headersOf, headersOf, sources, view]

theorem headersOf_of_merged {w : Workbook} {id : String} {table : Table}
    (merged : Assoc.has id w.sources = false) (view : w.tables.lookup id = some table) :
    w.headersOf id = table.columns := by
  have none : w.sources.lookup id = none := by
    rwa [Assoc.has, Option.isSome_eq_false_iff, Option.isNone_iff_eq_none] at merged
  simp [headersOf, none, view]

theorem headersOf_setTable_of_ne {w : Workbook} {id s : String} {table : Table} (other : s ≠ id) :
    (w.setTable id table).headersOf s = w.headersOf s := by
  have view : (w.setTable id table).tables.lookup s = w.tables.lookup s := by
    simp [setTable, Assoc.lookup_set, other]
  exact headersOf_congr rfl view

theorem lookup_foldl_set (headers : String → List String) (derived : String) (ids : List String)
    (entries : List ((String × String) × List String)) (t s : String) :
    (ids.foldl (fun found id => Assoc.set (derived, id) (headers id) found) entries).lookup (t, s) =
      if t = derived ∧ s ∈ ids then some (headers s) else entries.lookup (t, s) := by
  induction ids generalizing entries with
  | nil => simp
  | cons id rest ih =>
      rw [List.foldl_cons, ih, Assoc.lookup_set]
      by_cases table : t = derived
      · by_cases later : s ∈ rest
        · simp [table, later]
        · by_cases now : s = id <;> simp [table, later, now]
      · simp [table]

@[simp] theorem lookup_recordHeaders (w : Workbook) (derived : String) (merge : Merge)
    (t s : String) :
    (w.recordHeaders derived merge).headers.lookup (t, s) =
      if t = derived ∧ s ∈ merge.sourceIds then some (w.headersOf s)
      else w.headers.lookup (t, s) :=
  lookup_foldl_set w.headersOf derived merge.sourceIds w.headers t s

theorem Sound.empty (inference : Inference) (registry : Registry) (store : Store) :
    (Workbook.empty inference registry store).Sound where
  graph := Graph.Sound.empty
  apart id has := by simp [Workbook.empty, Assoc.has] at has
  named s d edge := by simp [Workbook.empty, Graph.Edge, Graph.sourcesOf, Graph.empty] at edge
  shown s d edge := by simp [Workbook.empty, Graph.Edge, Graph.sourcesOf, Graph.empty] at edge
  built d has := by simp [Workbook.empty, Assoc.has] at has
  owned t has := by simp [Workbook.empty, Assoc.has] at has
  recorded s d edge := by simp [Workbook.empty, Graph.Edge, Graph.sourcesOf, Graph.empty] at edge

theorem edge_adopt {w : Workbook} {id : String} {merge : Merge} {table : Table} {s d : String} :
    (w.adopt id merge table).graph.Edge s d ↔
      w.graph.Edge s d ∧ d ≠ id ∨ s ∈ merge.sourceIds ∧ d = id := by
  rw [← Graph.edge_clear, ← Graph.edge_linkAll]
  rfl

theorem lookup_merges_adopt {w : Workbook} {id : String} {merge : Merge} {table : Table}
    (d : String) :
    (w.adopt id merge table).merges.lookup d =
      if d == id then some merge else w.merges.lookup d :=
  Assoc.lookup_set id d merge w.merges

theorem lookup_headers_adopt {w : Workbook} {id : String} {merge : Merge} {table : Table}
    (t s : String) :
    (w.adopt id merge table).headers.lookup (t, s) =
      if t = id ∧ s ∈ merge.sourceIds then some ((w.setTable id table).headersOf s)
      else if t = id then none else w.headers.lookup (t, s) := by
  have kept := Assoc.lookup_filter (fun key : String × String => key.1 != id) (t, s) w.headers
  have headers : (w.adopt id merge table).headers.lookup (t, s) =
      if t = id ∧ s ∈ merge.sourceIds then some ((w.setTable id table).headersOf s)
      else (w.headers.filter fun entry => entry.1.1 != id).lookup (t, s) :=
    lookup_recordHeaders _ id merge t s
  rw [headers, kept]
  by_cases same : t = id <;> simp [same]

theorem Sound.adopt {w : Workbook} (sound : w.Sound) {id : String} {merge : Merge} {table : Table}
    (checked : w.mergeFault? id merge = none) : (w.adopt id merge table).Sound := by
  obtain ⟨raw, uncrossed, present⟩ := mergeFault?_eq_none.mp checked
  have hasMerge (d : String) : Assoc.has d (w.adopt id merge table).merges =
      (d == id || Assoc.has d w.merges) := Assoc.has_set id d merge w.merges
  have hasTable (t : String) : Assoc.has t (w.adopt id merge table).tables =
      (t == id || Assoc.has t w.tables) := Assoc.has_set id t table w.tables
  have sources : (w.adopt id merge table).sources = w.sources := rfl
  constructor
  case graph => exact sound.graph.rewire uncrossed
  case apart =>
    intro d has
    rw [sources] at has
    have other : d ≠ id := by
      rintro rfl
      simp [raw] at has
    simp [hasMerge, other, sound.apart d has]
  case named =>
    intro s d edge
    rw [lookup_merges_adopt]
    rcases edge_adopt.mp edge with ⟨old, other⟩ | ⟨member, rfl⟩
    · simpa [other] using sound.named s d old
    · exact ⟨merge, by simp, member⟩
  case shown =>
    intro s d edge
    rw [hasTable]
    rcases edge_adopt.mp edge with ⟨old, -⟩ | ⟨member, -⟩
    · simp [sound.shown s d old]
    · simp [present s member]
  case built =>
    intro d has
    rw [hasMerge, Bool.or_eq_true] at has
    rw [hasTable, Bool.or_eq_true]
    exact has.imp_right (sound.built d)
  case owned =>
    intro t has
    rw [hasTable, Bool.or_eq_true] at has
    rw [hasMerge, sources, Bool.or_eq_true]
    rcases has with same | has
    · exact .inr (.inl same)
    · exact (sound.owned t has).imp_right .inr
  case recorded =>
    intro s d edge
    rw [lookup_headers_adopt]
    rcases edge_adopt.mp edge with ⟨old, other⟩ | ⟨member, rfl⟩
    · simpa [other] using sound.recorded s d old
    · exact ⟨_, if_pos ⟨rfl, member⟩⟩

theorem Sound.placeSource {w : Workbook} (sound : w.Sound) {source : Source}
    (unmerged : Assoc.has source.id w.merges = true → Assoc.has source.id w.sources = true) :
    Sound { w with sources := Assoc.set source.id source w.sources } := by
  constructor
  case graph => exact sound.graph
  case named => exact sound.named
  case shown => exact sound.shown
  case built => exact sound.built
  case recorded => exact sound.recorded
  case apart =>
    intro id has
    rw [Assoc.has_set, Bool.or_eq_true, beq_iff_eq] at has
    rcases has with rfl | has
    · cases merged : Assoc.has source.id w.merges with
      | false => rfl
      | true => exact absurd (sound.apart _ (unmerged merged)) (by simp [merged])
    · exact sound.apart id has
  case owned =>
    intro t has
    rw [Assoc.has_set, Bool.or_eq_true]
    exact (sound.owned t has).imp_left .inr

theorem Sound.setTable {w : Workbook} (sound : w.Sound) {id : String} {table : Table}
    (known : Assoc.has id w.sources = true ∨ Assoc.has id w.merges = true ∨
      Assoc.has id w.tables = true) : (w.setTable id table).Sound := by
  constructor
  case graph => exact sound.graph
  case apart => exact sound.apart
  case named => exact sound.named
  case recorded => exact sound.recorded
  case shown =>
    intro s d edge
    rw [Workbook.setTable, Assoc.has_set, sound.shown s d edge, Bool.or_true]
  case built =>
    intro d has
    rw [Workbook.setTable, Assoc.has_set, sound.built d has, Bool.or_true]
  case owned =>
    intro t has
    rw [Workbook.setTable, Assoc.has_set, Bool.or_eq_true, beq_iff_eq] at has
    rcases has with rfl | has
    · rcases known with raw | merged | shown
      · exact .inl raw
      · exact .inr merged
      · exact sound.owned t shown
    · exact sound.owned t has

theorem Sound.recordHeaders {w : Workbook} (sound : w.Sound) (id : String) (merge : Merge) :
    (w.recordHeaders id merge).Sound := by
  constructor
  case graph => exact sound.graph
  case apart => exact sound.apart
  case named => exact sound.named
  case shown => exact sound.shown
  case built => exact sound.built
  case owned => exact sound.owned
  case recorded =>
    intro s d edge
    rw [lookup_recordHeaders]
    split
    · exact ⟨_, rfl⟩
    · exact sound.recorded s d edge

theorem Sound.move {w w' : Workbook} (sound : w.Sound) (move : Move w w') : w'.Sound := by
  cases move with
  | source source unmerged => exact sound.placeSource unmerged
  | view id table known => exact sound.setTable known
  | headers id merge known => exact sound.recordHeaders id merge
  | store store => exact { sound with }

theorem Sound.moves {w w' : Workbook} (sound : w.Sound) (moves : Moves w w') : w'.Sound :=
  moves.invariant (fun _ _ sound move => sound.move move) sound

theorem Sound.not_source_of_merged {w : Workbook} (sound : w.Sound) {id : String} {merge : Merge}
    (known : w.merges.lookup id = some merge) : Assoc.has id w.sources = false := by
  cases raw : Assoc.has id w.sources with
  | false => rfl
  | true =>
      have unmerged := sound.apart id raw
      simp [Assoc.has, known] at unmerged

theorem removeTable_eq {w : Workbook} {id : String} (shown : Assoc.has id w.tables = true) :
    (w.removeTable id).1 = { w with
      sources := Assoc.drop id w.sources
      merges := Assoc.drop id w.merges
      tables := Assoc.drop id w.tables
      graph := w.graph.remove id
      headers := w.headers.filter fun entry => entry.1.1 != id && entry.1.2 != id
      store := w.store.delete id } := by
  rw [removeTable, if_pos shown]

theorem removeTable_unknown {w : Workbook} {id : String} (gone : Assoc.has id w.tables = false) :
    (w.removeTable id).1 = w := by
  rw [removeTable, if_neg (by simp [gone])]

theorem lookup_headers_removed (w : Workbook) (id t s : String) :
    (w.headers.filter fun entry => entry.1.1 != id && entry.1.2 != id).lookup (t, s) =
      if t ≠ id ∧ s ≠ id then w.headers.lookup (t, s) else none := by
  have kept := Assoc.lookup_filter
    (fun key : String × String => key.1 != id && key.2 != id) (t, s) w.headers
  rw [kept]
  by_cases left : t = id <;> by_cases right : s = id <;> simp [left, right]

theorem Sound.removeTable {w : Workbook} (sound : w.Sound) (id : String) :
    (w.removeTable id).1.Sound := by
  cases shown : Assoc.has id w.tables with
  | false => rwa [removeTable_unknown shown]
  | true =>
      rw [removeTable_eq shown]
      constructor
      case graph => exact sound.graph.remove id
      case apart =>
        intro t has
        simp only [Assoc.has_drop, Bool.and_eq_true] at has
        simp [sound.apart t has.2]
      case named =>
        intro s d edge
        obtain ⟨old, -, other⟩ := (Graph.edge_remove sound.graph.toMirrored).mp edge
        simpa [Assoc.lookup_drop, other] using sound.named s d old
      case shown =>
        intro s d edge
        obtain ⟨old, other, -⟩ := (Graph.edge_remove sound.graph.toMirrored).mp edge
        simp [sound.shown s d old, other]
      case built =>
        intro d has
        simp only [Assoc.has_drop, Bool.and_eq_true] at has ⊢
        exact ⟨has.1, sound.built d has.2⟩
      case owned =>
        intro t has
        simp only [Assoc.has_drop, Bool.and_eq_true] at has ⊢
        exact (sound.owned t has.2).imp (⟨has.1, ·⟩) (⟨has.1, ·⟩)
      case recorded =>
        intro s d edge
        obtain ⟨old, other, otherDerived⟩ := (Graph.edge_remove sound.graph.toMirrored).mp edge
        obtain ⟨headers, found⟩ := sound.recorded s d old
        exact ⟨headers, by rw [lookup_headers_removed, if_pos ⟨otherDerived, other⟩, found]⟩

theorem Sound.after {w : Workbook} (sound : w.Sound) (c : Call) : (w.after c).Sound := by
  cases c with
  | registerMerge id merge =>
      rcases w.registerMerge_cases id merge with ⟨same, -⟩ | ⟨table, checked, -, adopted⟩
      · rwa [Workbook.after, same]
      · rw [Workbook.after, adopted]
        exact sound.adopt checked
  | removeTable id => exact sound.removeTable id
  | registerSource | updateSource | updateTable | cascade | putRecord =>
      exact sound.moves (moves_after rfl)

theorem Sound.run {w : Workbook} (sound : w.Sound) (calls : List Call) : (w.run calls).Sound := by
  induction calls generalizing w with
  | nil => exact sound
  | cons c rest ih => exact ih (sound.after c)

theorem Reachable.sound {allowed : Call → Prop} {w : Workbook} (reachable : Reachable allowed w) :
    w.Sound := by
  induction reachable with
  | empty inference registry store => exact .empty inference registry store
  | call _ _ ih => exact ih.after _

end Gridbook.Workbook
