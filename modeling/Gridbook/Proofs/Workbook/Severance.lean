import Gridbook.Proofs.Workbook.Soundness

/-! # Edges and merges

The edges into a merged table come from the tables that its merge names, except those that were
removed after the merge was registered. Such a table leaves the merge without an edge even when it
is registered again, and cycles are looked for along edges only, so a merge that reads the merged
table may then take its place.
-/

namespace Gridbook.Workbook

open Relation

def Reads (w : Workbook) (source derived : String) : Prop :=
  ∃ merge, w.merges.lookup derived = some merge ∧ source ∈ merge.sourceIds ∧
    Assoc.has source w.tables = true

/-- The edges into each merged table come from exactly the registered tables that its merge
names. -/
def EdgesAgree (w : Workbook) : Prop :=
  ∀ d merge, w.merges.lookup d = some merge →
    ∀ s, w.graph.Edge s d ↔ s ∈ merge.sourceIds ∧ Assoc.has s w.tables = true

/-- In the course of some calls a source was removed, and no later registration of the derived
table's merge succeeded. -/
def Severed (w : Workbook) (calls : List Call) (source derived : String) : Prop :=
  ∃ before after, calls = before ++ .removeTable source :: after ∧
    Assoc.has source (w.run before).tables = true ∧
    ∀ middle merge later, after = middle ++ .registerMerge derived merge :: later →
      ∃ fault, ((w.run (before ++ .removeTable source :: middle)).registerMerge derived
        merge).2.outcome = .error fault

theorem run_snoc (w : Workbook) (calls : List Call) (c : Call) :
    w.run (calls ++ [c]) = (w.run calls).after c := by
  simp [run]

theorem severed_snoc {w : Workbook} {calls : List Call} {c : Call} {s d : String} :
    w.Severed (calls ++ [c]) s d ↔
      (c = .removeTable s ∧ Assoc.has s (w.run calls).tables = true) ∨
        w.Severed calls s d ∧ ∀ merge, c = .registerMerge d merge →
          ∃ fault, ((w.run calls).registerMerge d merge).2.outcome = .error fault := by
  constructor
  · rintro ⟨before, after, shape, shown, failed⟩
    rcases List.eq_nil_or_concat after with rfl | ⟨init, last, rfl⟩
    · obtain ⟨rfl, same⟩ := List.append_inj' shape rfl
      exact .inl ⟨by simpa using same, shown⟩
    · have whole : calls ++ [c] = (before ++ .removeTable s :: init) ++ [last] := by
        simpa using shape
      obtain ⟨rfl, same⟩ := List.append_inj' whole rfl
      obtain rfl : c = last := by simpa using same
      refine .inr ⟨⟨before, init, rfl, shown, ?_⟩, ?_⟩
      · intro middle merge later split
        exact failed middle merge (later ++ [c]) (by simp [split])
      · rintro merge rfl
        exact failed init merge [] (by simp)
  · rintro (⟨rfl, shown⟩ | ⟨⟨before, after, rfl, shown, failed⟩, last⟩)
    · exact ⟨calls, [], rfl, shown, by simp⟩
    · refine ⟨before, after ++ [c], by simp, shown, ?_⟩
      intro middle merge later split
      rcases List.eq_nil_or_concat later with rfl | ⟨init, final, rfl⟩
      · obtain ⟨rfl, same⟩ := List.append_inj' split rfl
        exact last merge (by simpa using same)
      · have whole : after ++ [c] = (middle ++ .registerMerge d merge :: init) ++ [final] := by
          simpa using split
        obtain ⟨rfl, -⟩ := List.append_inj' whole rfl
        exact failed middle merge init rfl

theorem severed_quiet {w : Workbook} {calls : List Call} {c : Call} (quiet : c.isQuiet = true)
    {s d : String} : w.Severed (calls ++ [c]) s d ↔ w.Severed calls s d := by
  rw [severed_snoc]
  cases c <;> simp_all [Call.isQuiet]

theorem severed_refused {w : Workbook} {calls : List Call} {id : String} {merge : Merge}
    {fault : Fault} (refused : ((w.run calls).registerMerge id merge).2.outcome = .error fault)
    {s d : String} : w.Severed (calls ++ [.registerMerge id merge]) s d ↔ w.Severed calls s d := by
  rw [severed_snoc]
  constructor
  · rintro (⟨impossible, -⟩ | ⟨severed, -⟩)
    · cases impossible
    · exact severed
  · intro severed
    refine .inr ⟨severed, ?_⟩
    intro other same
    obtain ⟨rfl, rfl⟩ := Call.registerMerge.inj same
    exact ⟨fault, refused⟩

theorem severed_adopted {w : Workbook} {calls : List Call} {id : String} {merge : Merge}
    {table : Table} (adopted : ((w.run calls).registerMerge id merge).2.outcome = .ok table)
    {s d : String} :
    w.Severed (calls ++ [.registerMerge id merge]) s d ↔ w.Severed calls s d ∧ d ≠ id := by
  rw [severed_snoc]
  constructor
  · rintro (⟨impossible, -⟩ | ⟨severed, last⟩)
    · cases impossible
    · refine ⟨severed, ?_⟩
      rintro rfl
      obtain ⟨fault, refused⟩ := last merge rfl
      rw [adopted] at refused
      cases refused
  · rintro ⟨severed, other⟩
    refine .inr ⟨severed, ?_⟩
    intro m same
    exact absurd (Call.registerMerge.inj same).1.symm other

theorem severed_removed {w : Workbook} {calls : List Call} {id : String} {s d : String} :
    w.Severed (calls ++ [.removeTable id]) s d ↔
      s = id ∧ Assoc.has id (w.run calls).tables = true ∨ w.Severed calls s d := by
  rw [severed_snoc]
  constructor
  · rintro (⟨same, shown⟩ | ⟨severed, -⟩)
    · obtain rfl := Call.removeTable.inj same
      exact .inl ⟨rfl, shown⟩
    · exact .inr severed
  · rintro (⟨rfl, shown⟩ | severed)
    · exact .inl ⟨rfl, shown⟩
    · exact .inr ⟨severed, fun _ impossible => nomatch impossible⟩

/-- The edges into merged tables are those that their merges name and that no removal took away. -/
def Accounted (w : Workbook) (calls : List Call) : Prop :=
  ∀ d merge, (w.run calls).merges.lookup d = some merge →
    ∀ s, (w.run calls).graph.Edge s d ↔ s ∈ merge.sourceIds ∧ ¬ w.Severed calls s d

theorem Accounted.quiet {w : Workbook} {calls : List Call} (accounted : w.Accounted calls)
    {c : Call} (quiet : c.isQuiet = true) : w.Accounted (calls ++ [c]) := by
  intro d merge merged s
  have moves : Moves (w.run calls) ((w.run calls).after c) := moves_after quiet
  rw [run_snoc, moves.merges] at merged
  rw [run_snoc, moves.graph, severed_quiet quiet]
  exact accounted d merge merged s

theorem Accounted.registerMerge {w : Workbook} {calls : List Call} (accounted : w.Accounted calls)
    (id : String) (merge : Merge) : w.Accounted (calls ++ [.registerMerge id merge]) := by
  intro d known merged s
  rw [run_snoc] at merged ⊢
  simp only [after] at merged ⊢
  rcases (w.run calls).registerMerge_cases id merge with
    ⟨same, fault, refused⟩ | ⟨table, -, built, adopted⟩
  · rw [same] at merged ⊢
    rw [severed_refused refused]
    exact accounted d known merged s
  · have success : ((w.run calls).registerMerge id merge).2.outcome = .ok table := by
      rw [adopted, built]
    rw [severed_adopted success, adopted, edge_adopt]
    rw [adopted, lookup_merges_adopt] at merged
    by_cases own : d = id
    · subst own
      obtain rfl : merge = known := by simpa using merged
      simp
    · rw [if_neg (by simpa using own)] at merged
      simpa [own] using accounted d known merged s

theorem Accounted.removeTable {w : Workbook} {calls : List Call} (accounted : w.Accounted calls)
    (sound : (w.run calls).Sound) (id : String) : w.Accounted (calls ++ [.removeTable id]) := by
  intro d merge merged s
  rw [run_snoc] at merged ⊢
  simp only [after] at merged ⊢
  rw [severed_removed]
  cases shown : Assoc.has id (w.run calls).tables with
  | false =>
      rw [removeTable_unknown shown] at merged ⊢
      simpa using accounted d merge merged s
  | true =>
      rw [removeTable_eq shown] at merged ⊢
      simp only [Assoc.lookup_drop] at merged
      rw [Graph.edge_remove sound.graph.toMirrored]
      by_cases own : d = id
      · simp [own] at merged
      · rw [if_neg (by simpa using own)] at merged
        rw [accounted d merge merged s]
        simp only [own, and_true, ne_eq, not_or, not_false_eq_true]
        tauto

theorem accounted_run {w : Workbook} (sound : w.Sound) (start : w.merges = []) (calls : List Call) :
    w.Accounted calls := by
  induction calls using List.reverseRecOn with
  | nil =>
      intro d merge merged
      simp [run, start] at merged
  | append_singleton calls c ih =>
      cases c with
      | registerMerge id merge => exact ih.registerMerge id merge
      | removeTable id => exact ih.removeTable (sound.run calls) id
      | registerSource | updateSource | updateTable | cascade | putRecord => exact ih.quiet rfl

/-- Edges and merges agree, and no table reads itself over any number of merges, exactly as long
as no source that was removed from under a merge is registered again. -/
theorem edges_agree_iff_none_returned (inference : Inference) (registry : Registry) (store : Store)
    (calls : List Call) :
    (((empty inference registry store).run calls).EdgesAgree ∧
        ∀ t, ¬ TransGen ((empty inference registry store).run calls).Reads t t) ↔
      ∀ s d, ((empty inference registry store).run calls).Reads s d →
        ¬ (empty inference registry store).Severed calls s d := by
  have start := Sound.empty inference registry store
  have sound := start.run calls
  have accounted := accounted_run start rfl calls
  constructor
  · rintro ⟨agree, -⟩ s d ⟨merge, merged, named, shown⟩
    exact ((accounted d merge merged s).mp ((agree d merge merged s).mpr ⟨named, shown⟩)).2
  · intro kept
    have edges : ∀ s d, ((empty inference registry store).run calls).Reads s d →
        ((empty inference registry store).run calls).graph.Edge s d := by
      rintro s d ⟨merge, merged, named, shown⟩
      exact (accounted d merge merged s).mpr ⟨named, kept s d ⟨merge, merged, named, shown⟩⟩
    constructor
    · intro d merge merged s
      constructor
      · intro edge
        exact ⟨((accounted d merge merged s).mp edge).1, sound.shown s d edge⟩
      · rintro ⟨named, shown⟩
        exact edges s d ⟨merge, merged, named, shown⟩
    · intro t cycle
      exact sound.graph.acyclic t (TransGen.mono edges _ _ cycle)

/-- A source is removed from under a merge, and a merge of the merged table takes its place. -/
def returningCalls : List Call :=
  [.registerSource (keySource "a"), .registerSource (keySource "b"),
    .registerMerge "m" (keyMerge "a" "b"), .removeTable "a",
    .registerMerge "a" (keyMerge "m" "b")]

theorem returned_source_closes_cycle :
    let w := (empty ⟨10, 2025⟩ Registry.standard (Store.empty .memory)).run returningCalls
    TransGen w.Reads "a" "a" ∧ ¬ w.EdgesAgree := by
  intro w
  have first : w.merges.lookup "m" = some (keyMerge "a" "b") := by decide +kernel
  have second : w.merges.lookup "a" = some (keyMerge "m" "b") := by decide +kernel
  have back : w.Reads "a" "m" := ⟨_, first, by decide +kernel, by decide +kernel⟩
  have forth : w.Reads "m" "a" := ⟨_, second, by decide +kernel, by decide +kernel⟩
  refine ⟨.tail (.single back) forth, ?_⟩
  intro agree
  have edge : "a" ∈ w.graph.sourcesOf "m" :=
    (agree "m" _ first "a").mpr ⟨by decide +kernel, by decide +kernel⟩
  exact absurd edge (by decide +kernel)

end Gridbook.Workbook
