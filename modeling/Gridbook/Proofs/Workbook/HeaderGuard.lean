import Mathlib
import Gridbook.Proofs.Workbook.History
import Gridbook.Proofs.Workbook.Severance

/-! # What the check of headers covers

A cascade that is told true headers rebuilds a table only if its sources have the headers that the
last build of the table saw. This holds of the sources along edges. A source that was removed and
registered again is read without an edge, and nobody looks at its headers.
-/

namespace Gridbook

namespace Cascade

variable {c : Cascade} {past : List Build}

/-- The headers that a cascade goes by are those that the tables have. -/
def Truthful (c : Cascade) : Prop :=
  ∀ t headers, c.changed.lookup t = some headers → headers = c.workbook.headersOf t

theorem Truthful.start {w : Workbook} {id : String} :
    (start w id (w.headersOf id)).Truthful := by
  intro t headers told
  by_cases own : t = id
  · subst own
    simpa [Cascade.start, eq_comm] using told
  · simp [Cascade.start, List.lookup_cons, beq_false_of_ne own] at told

theorem Truthful.headersNow {s : String} (truthful : c.Truthful)
    (shown : Assoc.has s c.workbook.tables = true) :
    c.headersNow? s = some (c.workbook.headersOf s) := by
  cases told : c.changed.lookup s with
  | none => simp [headersNow?, told, shown]
  | some headers => simp [headersNow?, told, truthful s headers told]

theorem Truthful.accept {table : String} {merge : Merge} (truthful : c.Truthful)
    (sound : c.workbook.Sound) (known : c.workbook.merges.lookup table = some merge) (view : Table)
    (notices : List Notice) : (c.accept table view notices).Truthful := by
  have derived : Assoc.has table c.workbook.sources = false := sound.not_source_of_merged known
  have now (t : String) : (c.accept table view notices).workbook.headersOf t =
      (c.workbook.setTable table view).headersOf t := by
    rw [accept_workbook known]
    rfl
  intro t headers told
  rw [now]
  simp only [Cascade.accept, Assoc.lookup_set] at told
  by_cases own : t = table
  · subst own
    have shown : (c.workbook.setTable t view).tables.lookup t = some view := by
      simp [Workbook.setTable, Assoc.lookup_set]
    rw [Workbook.headersOf_of_merged (w := c.workbook.setTable t view) derived shown]
    simpa [eq_comm] using told
  · rw [if_neg (by simpa using own)] at told
    rw [Workbook.headersOf_setTable_of_ne own]
    exact truthful t headers told

theorem Truthful.seen_eq {table s : String} {b : Build} (truthful : c.Truthful)
    (sound : c.workbook.Sound) (remembers : c.workbook.Remembers past) (same : c.Matching table)
    (latest : Build.last past table = some b) (edge : c.workbook.graph.Edge s table) :
    c.workbook.headersOf s = b.seen.headersOf s := by
  have agree := same s edge
  rw [mismatchWith?, truthful.headersNow (sound.shown s table edge),
    remembers.recorded s table b edge latest] at agree
  by_contra differ
  simp [Ne.symm differ] at agree

/-- Each build of a cascade that is told true headers sees its sources, as far as edges tell, with
the headers that the last build of the table saw. -/
theorem Truthful.builds_seen {order : List String} {earlier later : List Build} {b : Build}
    (truthful : c.Truthful) (sound : c.workbook.Sound) (remembers : c.workbook.Remembers past)
    (shape : builds order c = earlier ++ b :: later) :
    ∃ merge last, c.workbook.merges.lookup b.table = some merge ∧
      b.seen.merges = c.workbook.merges ∧ b.seen.graph = c.workbook.graph ∧
      Build.last (past ++ earlier) b.table = some last ∧
      ∀ s, c.workbook.graph.Edge s b.table → b.seen.headersOf s = last.seen.headersOf s := by
  induction order generalizing c past earlier with
  | nil => simp [builds] at shape
  | cons table rest ih =>
      cases step : c.step table with
      | mk next stop =>
          have turn := turn_of_step step
          cases stop with
          | some fault => simp [builds, step] at shape
          | none =>
              have soundNext : next.workbook.Sound := sound.moves turn.moves
              rcases turn.left_or_accepted with
                ⟨workbook, changed, left⟩ | ⟨merge, view, notices, same, known, rfl⟩
              · rw [builds_of_left step left] at shape
                have truthfulNext : next.Truthful := by
                  rw [Truthful, workbook, changed]
                  exact truthful
                rw [← workbook] at remembers ⊢
                exact ih truthfulNext soundNext remembers shape
              · rw [builds_of_accepted step] at shape
                cases earlier with
                | nil =>
                    obtain ⟨rfl, -⟩ := List.cons.inj shape
                    have merged : Assoc.has table c.workbook.merges = true :=
                      Assoc.has_iff.mpr ⟨merge, known⟩
                    obtain ⟨last, latest⟩ := remembers.built table merged
                    refine ⟨merge, last, known, rfl, rfl, by simpa using latest, ?_⟩
                    intro s edge
                    exact truthful.seen_eq sound remembers same latest edge
                | cons first others =>
                    obtain ⟨rfl, rest⟩ := List.cons.inj shape
                    have here := remembers.rebuild sound known view
                    rw [← accept_workbook known view notices] at here
                    have later := ih (truthful.accept sound known view notices) soundNext here rest
                    rw [accept_workbook known, List.append_assoc] at later
                    exact later

end Cascade

namespace Workbook

theorem headersOf_setSource (w : Workbook) (source : Source) :
    (w.setSource source).1.headersOf source.id = source.columns := by
  simp [headersOf, sources_setSource, Assoc.lookup_set]

theorem cascadeBuilds_seen {w : Workbook} {past earlier later : List Build} {b : Build}
    (sound : w.Sound) (remembers : w.Remembers past) {id : String} {headers : List String}
    (told : headers = w.headersOf id) (shape : w.cascadeBuilds id headers = earlier ++ b :: later) :
    ∃ merge last, w.merges.lookup b.table = some merge ∧ b.seen.merges = w.merges ∧
      b.seen.graph = w.graph ∧ Build.last (past ++ earlier) b.table = some last ∧
      ∀ s, w.graph.Edge s b.table → b.seen.headersOf s = last.seen.headersOf s := by
  subst told
  rcases w.cascade_cases id (w.headersOf id) with ⟨-, none⟩ | ⟨order, -, -, builds⟩
  · simp [none] at shape
  · rw [builds] at shape
    exact Cascade.Truthful.start.builds_seen (c := Cascade.start w id (w.headersOf id)) sound
      remembers shape

/-- When a cascade that follows the replacement of a source rebuilds a table, the sources of that
table have the headers that its last build saw, unless one that was removed has come back with other
headers. The removed ones are exactly those that have no edge, and only along edges is checked. -/
theorem headers_kept_iff_none_returned_changed (inference : Inference) (registry : Registry)
    (store : Store) (calls : List Call) (source : Source) {earlier later : List Build} {b : Build}
    (rebuilt : ((empty inference registry store).run calls).builds (.updateSource source) =
      earlier ++ b :: later) :
    ∃ merge last, b.seen.merges.lookup b.table = some merge ∧
      Build.last ((empty inference registry store).history calls ++ earlier) b.table =
        some last ∧
      (∀ s ∈ merge.sourceIds, b.seen.graph.Edge s b.table ↔
        ¬ (empty inference registry store).Severed calls s b.table) ∧
      ((∀ s ∈ merge.sourceIds, b.seen.headersOf s = last.seen.headersOf s) ↔
        ¬ ∃ s ∈ merge.sourceIds, (empty inference registry store).Severed calls s b.table ∧
          b.seen.headersOf s ≠ last.seen.headersOf s) := by
  have start := Sound.empty inference registry store
  have sound := start.run calls
  have accounted := accounted_run start rfl calls
  have remembers := (Remembers.start inference registry store).run start calls
  rw [List.nil_append] at remembers
  generalize empty inference registry store = first at *
  rw [builds] at rebuilt
  split at rebuilt
  case isFalse => simp at rebuilt
  case isTrue registered =>
    have moves : Moves (first.run calls) ((first.run calls).setSource source).1 :=
      moves_setSource fun _ => registered
    have soundPlaced := sound.moves moves
    have placed : ((first.run calls).setSource source).1.Remembers (first.history calls) :=
      remembers.setSource fun _ => registered
    split at rebuilt
    case h_2 => simp at rebuilt
    case h_1 =>
      obtain ⟨merge, last, known, merges, graph, latest, seen⟩ :=
        cascadeBuilds_seen soundPlaced placed (headersOf_setSource _ source).symm rebuilt
      have edges : ∀ s ∈ merge.sourceIds, b.seen.graph.Edge s b.table ↔
          ¬ first.Severed calls s b.table := by
        intro s named
        rw [moves.merges] at known
        rw [graph, moves.graph, accounted b.table merge known s]
        simp [named]
      refine ⟨merge, last, by rw [merges, known], latest, edges, ?_⟩
      constructor
      · intro kept returned
        obtain ⟨s, named, -, differ⟩ := returned
        exact differ (kept s named)
      · intro none s named
        by_contra differ
        have joined : b.seen.graph.Edge s b.table := by
          rw [edges s named]
          exact fun severed => none ⟨s, named, severed, differ⟩
        rw [graph] at joined
        exact differ (seen s joined)

/-- The first source of a chain is replaced by itself. -/
theorem chain_headers_kept :
    let first := empty ⟨10, 2025⟩ Registry.standard (Store.empty .memory)
    (first.run chainCalls).builds (.updateSource (keySource "a")) =
        [⟨"m", chain⟩] ++ ⟨"n", chain⟩ :: [] ∧
      ∃ merge last, chain.merges.lookup "n" = some merge ∧
        Build.last (first.history chainCalls ++ [⟨"m", chain⟩]) "n" = some last ∧
        (∀ s ∈ merge.sourceIds, chain.graph.Edge s "n" ↔ ¬ first.Severed chainCalls s "n") ∧
        ((∀ s ∈ merge.sourceIds, chain.headersOf s = last.seen.headersOf s) ↔
          ¬ ∃ s ∈ merge.sourceIds, first.Severed chainCalls s "n" ∧
            chain.headersOf s ≠ last.seen.headersOf s) := by
  intro first
  have rebuilt : (first.run chainCalls).builds (.updateSource (keySource "a")) =
      [⟨"m", chain⟩] ++ ⟨"n", chain⟩ :: [] := by
    have before : first.run chainCalls = chain := by decide +kernel
    rw [before]
    cbv
  exact ⟨rebuilt, headers_kept_iff_none_returned_changed ⟨10, 2025⟩ Registry.standard
    (Store.empty .memory) chainCalls (keySource "a") rebuilt⟩

def widerSource (id : String) : Source := ⟨id, ["k", "x"], [], by simp [Rectangular]⟩

/-- A source is removed from under a merge and comes back with one more column. -/
def widerCalls : List Call :=
  [.registerSource (keySource "a"), .registerSource (keySource "b"),
    .registerMerge "m" (keyMerge "a" "b"), .removeTable "a", .registerSource (widerSource "a")]

def widened : Workbook where
  inference := ⟨10, 2025⟩
  registry := .standard
  store := .empty .memory
  sources := [("b", keySource "b"), ("a", widerSource "a")]
  merges := [("m", keyMerge "a" "b")]
  tables := [("b", textView ["k"]), ("m", textView ["k", "b_k"]), ("a", textView ["k", "x"])]
  graph := ⟨[("m", ["b"])], [("b", ["m"])]⟩
  headers := [(("m", "b"), ["k"])]

/-- The merge is rebuilt when its other source is replaced, although the removed one has come back
with other headers than those that the merge was built with. -/
theorem wider_source_unchecked :
    let first := empty ⟨10, 2025⟩ Registry.standard (Store.empty .memory)
    first.run widerCalls = widened ∧
      (first.run widerCalls).builds (.updateSource (keySource "b")) = [⟨"m", widened⟩] ∧
      widened.merges.lookup "m" = some (keyMerge "a" "b") ∧ "a" ∈ (keyMerge "a" "b").sourceIds ∧
      ∃ last, Build.last (first.history widerCalls) "m" = some last ∧
        last.seen.headersOf "a" = ["k"] ∧ widened.headersOf "a" = ["k", "x"] := by
  intro first
  have reached : first.run widerCalls = widened := by decide +kernel
  have rebuilt : (first.run widerCalls).builds (.updateSource (keySource "b")) =
      [⟨"m", widened⟩] := by
    rw [reached]
    cbv
  have known : Build.last (first.history widerCalls) "m" =
      some ⟨"m", first.run (widerCalls.take 2)⟩ := by decide +kernel
  exact ⟨reached, rebuilt, rfl, by decide +kernel, _, known, by decide +kernel, by decide +kernel⟩

end Workbook

end Gridbook
