import Gridbook.Proofs.Cascade.Pass

/-! # The history of builds

The headers on record for an edge are those that the source had when the derived table was built
last, whatever calls came in between and whether they succeeded or failed.
-/

namespace Gridbook

/-- A merged table that was built, with the workbook that it was built from. -/
structure Build where
  table : String
  seen : Workbook
  deriving DecidableEq

def Build.last (past : List Build) (table : String) : Option Build :=
  past.reverse.find? (·.table == table)

theorem Build.last_snoc (past : List Build) (b : Build) (table : String) :
    Build.last (past ++ [b]) table = if b.table = table then some b else Build.last past table := by
  by_cases same : b.table = table <;> simp [Build.last, same]

namespace Cascade

def builds : List String → Cascade → List Build
  | [], _ => []
  | table :: rest, c =>
      match c.step table with
      | (next, none) =>
          if next.outcomes.getLast?.any Outcome.isUpdated then
            ⟨table, c.workbook⟩ :: builds rest next
          else builds rest next
      | (_, some _) => []

end Cascade

namespace Workbook

def cascadeBuilds (w : Workbook) (id : String) (headers : List String) : List Build :=
  if Assoc.has id w.tables then
    match w.graph.affected [id] with
    | .ok order => Cascade.builds order (Cascade.start w id headers)
    | .error _ => []
  else []

/-- The builds of a call that succeed, in order. -/
def builds (w : Workbook) : Call → List Build
  | .registerMerge id merge =>
      match (w.registerMerge id merge).2.outcome with
      | .ok _ => [⟨id, w⟩]
      | .error _ => []
  | .updateSource source =>
      if Assoc.has source.id w.sources then
        match (w.setSource source).2.outcome with
        | .ok _ => (w.setSource source).1.cascadeBuilds source.id source.columns
        | .error _ => []
      else []
  | .cascade id headers => w.cascadeBuilds id headers
  | .registerSource _ | .updateTable .. | .removeTable _ | .putRecord .. => []

def history (w : Workbook) : List Call → List Build
  | [] => []
  | c :: rest => w.builds c ++ (w.after c).history rest

/-- Every merged table has a last build, and the headers on record for its edges are those that
the build saw. -/
structure Remembers (w : Workbook) (past : List Build) : Prop where
  built : ∀ d, Assoc.has d w.merges = true → ∃ b, Build.last past d = some b
  recorded : ∀ s d b, w.graph.Edge s d → Build.last past d = some b →
    w.headers.lookup (d, s) = some (b.seen.headersOf s)

theorem cascade_cases (w : Workbook) (id : String) (headers : List String) :
    ((w.cascade id headers).1 = w ∧ w.cascadeBuilds id headers = []) ∨
      ∃ order, w.graph.affected [id] = .ok order ∧
        (w.cascade id headers).1 = (Cascade.steps order (Cascade.start w id headers)).1.workbook ∧
        w.cascadeBuilds id headers = Cascade.builds order (Cascade.start w id headers) := by
  cases known : Assoc.has id w.tables with
  | false => exact .inl (by simp [cascade, cascadeBuilds, known])
  | true =>
      cases found : w.graph.affected [id] with
      | error fault => exact .inl (by simp [cascade, cascadeBuilds, known, found])
      | ok order =>
          refine .inr ⟨order, rfl, ?_, by simp [cascadeBuilds, known, found]⟩
          simp only [cascade, known, if_true, found, Cascade.start]
          split <;> rename_i run <;> rw [run]

theorem updateSource_cases {w : Workbook} {source : Source}
    (known : Assoc.has source.id w.sources = true) :
    ((w.updateSource source).1 = (w.setSource source).1 ∧
        w.builds (.updateSource source) = [] ∧
        ∃ fault, (w.updateSource source).2.outcome = .error fault) ∨
      (w.updateSource source).1 =
          ((w.setSource source).1.cascade source.id source.columns).1 ∧
        w.builds (.updateSource source) =
          (w.setSource source).1.cascadeBuilds source.id source.columns ∧
        (w.updateSource source).2.outcome =
          ((w.setSource source).1.cascade source.id source.columns).2.outcome := by
  cases placed : w.setSource source with
  | mk v report =>
      obtain ⟨notices, outcome⟩ := report
      cases outcome with
      | error fault => exact .inl (by simp [updateSource, builds, known, placed])
      | ok view => exact .inr (by simp [updateSource, builds, known, placed])

end Workbook

namespace Cascade

variable {c next : Cascade} {table : String} {past : List Build}

/-- A turn leaves the workbook alone or adopts what it has built from sources that match. -/
theorem Turn.left_or_accepted (turn : c.Turn table next none) :
    (next.workbook = c.workbook ∧ next.changed = c.changed ∧
        next.outcomes.getLast?.any Outcome.isUpdated = false) ∨
      ∃ merge view notices, c.Matching table ∧ c.workbook.merges.lookup table = some merge ∧
        next = c.accept table view notices := by
  cases turn with
  | skipped | mismatched | failed => exact .inl ⟨rfl, rfl, by simp [block, Outcome.isUpdated]⟩
  | updated merge view notices _ same known _ => exact .inr ⟨merge, view, notices, same, known, rfl⟩

theorem builds_of_left {rest : List String} (step : c.step table = (next, none))
    (left : next.outcomes.getLast?.any Outcome.isUpdated = false) :
    builds (table :: rest) c = builds rest next := by
  simp [builds, step, left]

theorem builds_of_accepted {rest : List String} {view : Table} {notices : List Notice}
    (step : c.step table = (c.accept table view notices, none)) :
    builds (table :: rest) c = ⟨table, c.workbook⟩ :: builds rest (c.accept table view notices) := by
  have updated : (c.accept table view notices).outcomes.getLast?.any Outcome.isUpdated = true := by
    simp [accept, Outcome.isUpdated]
  simp [builds, step, updated]

theorem map_table_builds {order : List String} {d : Cascade} (run : steps order c = (d, none)) :
    (d.outcomes.filter Outcome.isUpdated).map Outcome.table =
      (c.outcomes.filter Outcome.isUpdated).map Outcome.table ++
        (builds order c).map Build.table := by
  induction order generalizing c with
  | nil =>
      cases run
      simp [builds]
  | cons table rest ih =>
      obtain ⟨next, step, run⟩ := steps_cons.mp run
      have turn := turn_of_step step
      obtain ⟨status, listed⟩ := turn.outcomes
      rw [ih run, listed]
      rcases turn.left_or_accepted with ⟨-, -, left⟩ | ⟨merge, view, notices, -, -, rfl⟩
      · rw [builds_of_left step left]
        have notUpdated : Outcome.isUpdated ⟨table, status⟩ = false := by simpa [listed] using left
        simp [notUpdated]
      · rw [builds_of_accepted step]
        obtain rfl : .updated view.rows.length = status := by simpa [accept] using listed
        have updated : Outcome.isUpdated ⟨table, .updated view.rows.length⟩ = true := rfl
        simp [updated]

end Cascade

theorem Pass.map_table_builds (p : Pass) :
    (p.before.cascadeBuilds p.id p.headers).map Build.table =
      p.result.tablesWhere Outcome.isUpdated := by
  obtain ⟨found, last, run, -, outcomes⟩ := p.exists_run
  have reported := Cascade.map_table_builds run
  rw [outcomes] at reported
  rw [Workbook.cascadeBuilds, if_pos p.known, found, CascadeResult.tablesWhere, reported]
  simp [Cascade.start]

namespace Workbook.Remembers

variable {w : Workbook} {past : List Build}

theorem rebuild (remembers : w.Remembers past) (sound : w.Sound) {table : String} {merge : Merge}
    (known : w.merges.lookup table = some merge) (view : Table) :
    ((w.setTable table view).recordHeaders table merge).Remembers (past ++ [⟨table, w⟩]) where
  built d merged := by
    rw [Build.last_snoc]
    split
    · exact ⟨_, rfl⟩
    · exact remembers.built d merged
  recorded s d b edge latest := by
    rw [Build.last_snoc] at latest
    rw [lookup_recordHeaders]
    by_cases own : table = d
    · subst own
      rw [if_pos rfl] at latest
      cases latest
      obtain ⟨other, merged, named⟩ := sound.named s table edge
      rw [known] at merged
      cases merged
      have apart : s ≠ table := sound.graph.acyclic.ne_of_edge edge
      rw [if_pos ⟨rfl, named⟩, headersOf_setTable_of_ne apart]
    · rw [if_neg own] at latest
      rw [if_neg (fun h => own h.1.symm)]
      exact remembers.recorded s d b edge latest

theorem congr {v : Workbook} (remembers : w.Remembers past) (merges : v.merges = w.merges)
    (graph : v.graph = w.graph) (headers : v.headers = w.headers) : v.Remembers past where
  built := by
    rw [merges]
    exact remembers.built
  recorded := by
    rw [graph, headers]
    exact remembers.recorded

theorem adopt (remembers : w.Remembers past) {id : String} {merge : Merge} {table : Table}
    (unrefused : w.mergeFault? id merge = none) :
    (w.adopt id merge table).Remembers (past ++ [⟨id, w⟩]) where
  built d merged := by
    rw [Build.last_snoc]
    split
    · exact ⟨_, rfl⟩
    · rename_i other
      rw [Assoc.has, lookup_merges_adopt, if_neg (by simpa using Ne.symm other)] at merged
      exact remembers.built d merged
  recorded s d b edge latest := by
    rw [Build.last_snoc] at latest
    rw [lookup_headers_adopt]
    by_cases own : id = d
    · subst own
      rw [if_pos rfl] at latest
      cases latest
      have named : s ∈ merge.sourceIds := by
        rcases edge_adopt.mp edge with ⟨-, other⟩ | ⟨named, -⟩
        · exact absurd rfl other
        · exact named
      have apart : s ≠ id := by
        rintro rfl
        have closes : w.graph.closesCycle s merge.sourceIds = true :=
          Graph.closesCycle_iff.mpr (.inl named)
        simp [(mergeFault?_eq_none.mp unrefused).2.1] at closes
      rw [if_pos ⟨rfl, named⟩, headersOf_setTable_of_ne apart]
    · rw [if_neg own] at latest
      rw [if_neg (fun h => own h.1.symm), if_neg (Ne.symm own)]
      rcases edge_adopt.mp edge with ⟨old, -⟩ | ⟨-, same⟩
      · exact remembers.recorded s d b old latest
      · exact absurd same.symm own

theorem removeTable (remembers : w.Remembers past) (sound : w.Sound) (id : String) :
    (w.removeTable id).1.Remembers past := by
  cases shown : Assoc.has id w.tables with
  | false => rwa [removeTable_unknown shown]
  | true =>
      rw [removeTable_eq shown]
      constructor
      case built =>
        intro d merged
        simp only [Assoc.has_drop, Bool.and_eq_true] at merged
        exact remembers.built d merged.2
      case recorded =>
        intro s d b edge latest
        obtain ⟨old, other, otherDerived⟩ := (Graph.edge_remove sound.graph.toMirrored).mp edge
        rw [lookup_headers_removed, if_pos ⟨otherDerived, other⟩]
        exact remembers.recorded s d b old latest

theorem steps {order : List String} {c : Cascade} (remembers : c.workbook.Remembers past)
    (sound : c.workbook.Sound) :
    (Cascade.steps order c).1.workbook.Remembers (past ++ Cascade.builds order c) := by
  induction order generalizing c past with
  | nil => simpa [Cascade.steps, Cascade.builds] using remembers
  | cons table rest ih =>
      cases step : c.step table with
      | mk next stop =>
          have turn := Cascade.turn_of_step step
          cases stop with
          | some fault =>
              have same : next.workbook = c.workbook := by
                cases turn with
                | escaped => rfl
              simpa [Cascade.steps, Cascade.builds, step, same] using remembers
          | none =>
              have soundNext : next.workbook.Sound := sound.moves turn.moves
              rcases turn.left_or_accepted with
                ⟨workbook, -, left⟩ | ⟨merge, view, notices, -, known, rfl⟩
              · rw [Cascade.steps, step, Cascade.builds_of_left step left]
                exact ih (workbook ▸ remembers) soundNext
              · have here := remembers.rebuild sound known view
                rw [← Cascade.accept_workbook known view notices] at here
                have later := ih here soundNext
                rw [Cascade.steps, step, Cascade.builds_of_accepted step]
                simpa using later

theorem cascade (remembers : w.Remembers past) (sound : w.Sound) (id : String)
    (headers : List String) :
    (w.cascade id headers).1.Remembers (past ++ w.cascadeBuilds id headers) := by
  rcases w.cascade_cases id headers with ⟨same, none⟩ | ⟨order, -, reached, builds⟩
  · rw [same, none, List.append_nil]
    exact remembers
  · rw [reached, builds]
    exact steps (c := Cascade.start w id headers) remembers sound

theorem setSource (remembers : w.Remembers past) {source : Source}
    (unmerged : Assoc.has source.id w.merges = true → Assoc.has source.id w.sources = true) :
    (w.setSource source).1.Remembers past := by
  have moves : Moves w (w.setSource source).1 := moves_setSource unmerged
  exact remembers.congr moves.merges moves.graph (w.headers_setSource source)

theorem updateSource (remembers : w.Remembers past) (sound : w.Sound) (source : Source) :
    (w.updateSource source).1.Remembers (past ++ w.builds (.updateSource source)) := by
  cases registered : Assoc.has source.id w.sources with
  | false => simpa [Workbook.updateSource, builds, registered] using remembers
  | true =>
      have unmerged : Assoc.has source.id w.merges = true → Assoc.has source.id w.sources = true :=
        fun _ => registered
      have placed := remembers.setSource unmerged
      have soundPlaced : (w.setSource source).1.Sound := sound.moves (moves_setSource unmerged)
      rcases updateSource_cases registered with ⟨same, none, -⟩ | ⟨cascaded, builds, -⟩
      · rwa [same, none, List.append_nil]
      · rw [cascaded, builds]
        exact placed.cascade soundPlaced source.id source.columns

theorem after (remembers : w.Remembers past) (sound : w.Sound) (c : Call) :
    (w.after c).Remembers (past ++ w.builds c) := by
  cases c with
  | registerSource source =>
      rw [builds, List.append_nil, Workbook.after, Workbook.registerSource]
      split
      · exact remembers
      · split
        · exact remembers
        · rename_i unmerged _
          exact remembers.setSource fun merged => absurd merged unmerged
  | registerMerge id merge =>
      rw [Workbook.after, builds]
      rcases w.registerMerge_cases id merge with
        ⟨same, fault, refused⟩ | ⟨table, unrefused, built, adopted⟩
      · rw [same, refused]
        simpa using remembers
      · simp only [adopted, built]
        exact remembers.adopt unrefused
  | updateSource source => exact remembers.updateSource sound source
  | cascade id headers => exact remembers.cascade sound id headers
  | updateTable id table widths =>
      have moves : Moves w (w.updateTable id table widths).1 := w.moves_updateTable id table widths
      have headers : (w.updateTable id table widths).1.headers = w.headers := by
        unfold Workbook.updateTable
        simp only
        split
        · split <;> rfl
        · rfl
      rw [builds, List.append_nil]
      exact remembers.congr moves.merges moves.graph headers
  | removeTable id =>
      rw [builds, List.append_nil]
      exact remembers.removeTable sound id
  | putRecord id text =>
      rw [builds, List.append_nil]
      exact remembers.congr rfl rfl rfl

theorem run (remembers : w.Remembers past) (sound : w.Sound) (calls : List Call) :
    (w.run calls).Remembers (past ++ w.history calls) := by
  induction calls generalizing w past with
  | nil => simpa [history, Workbook.run] using remembers
  | cons c rest ih =>
      have later := ih (remembers.after sound c) (sound.after c)
      rwa [List.append_assoc] at later

theorem start (inference : Inference) (registry : Registry) (store : Store) :
    (empty inference registry store).Remembers [] where
  built d merged := by simp [empty, Assoc.has] at merged
  recorded s d b edge := by simp [empty, Graph.Edge, Graph.sourcesOf, Graph.empty] at edge

end Workbook.Remembers

end Gridbook
