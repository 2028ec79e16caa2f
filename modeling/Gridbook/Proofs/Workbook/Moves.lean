import Gridbook.Proofs.Cascade.Turn

/-! # Calls and moves

Whatever a call does to a workbook, whether it succeeds or fails, is a chain of a few moves; only
the registration of a merge and the removal of a table change its edges and are no such moves. An
invariant is therefore checked against each of these once and then holds of every workbook that
calls lead to.
-/

namespace Gridbook

open Relation

/-- A call on a workbook, or a document that is put into its store from outside. -/
inductive Call where
  | registerSource (source : Source)
  | registerMerge (id : String) (merge : Merge)
  | updateSource (source : Source)
  | updateTable (id : String) (table : Table) (widths : Option Json)
  | cascade (id : String) (headers : List String)
  | removeTable (id : String)
  | putRecord (id text : String)

def Call.removes : Call → Bool
  | .removeTable _ => true
  | _ => false

/-- Whether a call leaves the merges and the edges of a workbook as they are. -/
def Call.isQuiet : Call → Bool
  | .registerMerge .. | .removeTable _ => false
  | _ => true

namespace Workbook

/-- The workbook after a call, whether it succeeds or fails. -/
def after (w : Workbook) : Call → Workbook
  | .registerSource source => (w.registerSource source).1
  | .registerMerge id merge => (w.registerMerge id merge).1
  | .updateSource source => (w.updateSource source).1
  | .updateTable id table widths => (w.updateTable id table widths).1
  | .cascade id headers => (w.cascade id headers).1
  | .removeTable id => (w.removeTable id).1
  | .putRecord id text => w.putRecord id text

def run (w : Workbook) (calls : List Call) : Workbook :=
  calls.foldl after w

/-- The workbooks to which calls of some kind lead from one without tables. -/
inductive Reachable (allowed : Call → Prop) : Workbook → Prop where
  | empty (inference : Inference) (registry : Registry) (store : Store) :
      Reachable allowed (.empty inference registry store)
  | call {w : Workbook} {c : Call} (before : Reachable allowed w) (permitted : allowed c) :
      Reachable allowed (w.after c)

theorem Reachable.run {allowed : Call → Prop} {w : Workbook} (before : Reachable allowed w)
    {calls : List Call} (permitted : ∀ c ∈ calls, allowed c) : Reachable allowed (w.run calls) := by
  induction calls generalizing w with
  | nil => exact before
  | cons c rest ih =>
      exact ih (before.call (permitted c List.mem_cons_self))
        fun d member => permitted d (List.mem_cons_of_mem _ member)

/-- One change of a workbook that leaves its merges and edges as they are. -/
inductive Move (w : Workbook) : Workbook → Prop where
  | source (source : Source)
      (unmerged : Assoc.has source.id w.merges = true → Assoc.has source.id w.sources = true) :
      Move w { w with sources := Assoc.set source.id source w.sources }
  | view (id : String) (table : Table)
      (known : Assoc.has id w.sources = true ∨ Assoc.has id w.merges = true ∨
        Assoc.has id w.tables = true) :
      Move w (w.setTable id table)
  | headers (id : String) (merge : Merge) (known : w.merges.lookup id = some merge) :
      Move w (w.recordHeaders id merge)
  | store (store : Store) : Move w { w with store }

abbrev Moves : Workbook → Workbook → Prop := ReflTransGen Move

theorem mergeFault?_eq_none {w : Workbook} {id : String} {merge : Merge} :
    w.mergeFault? id merge = none ↔
      Assoc.has id w.sources = false ∧ w.graph.closesCycle id merge.sourceIds = false ∧
        ∀ source ∈ merge.sourceIds, Assoc.has source w.tables = true := by
  unfold mergeFault?
  cases Assoc.has id w.sources <;> cases w.graph.closesCycle id merge.sourceIds <;> simp

theorem sources_setSource (w : Workbook) (source : Source) :
    (w.setSource source).1.sources = Assoc.set source.id source w.sources := by
  unfold setSource
  simp only
  split <;> rfl

theorem merges_setSource (w : Workbook) (source : Source) :
    (w.setSource source).1.merges = w.merges := by
  unfold setSource
  simp only
  split <;> rfl

theorem headers_setSource (w : Workbook) (source : Source) :
    (w.setSource source).1.headers = w.headers := by
  unfold setSource
  simp only
  split <;> rfl

theorem moves_setSource {w : Workbook} {source : Source}
    (unmerged : Assoc.has source.id w.merges = true → Assoc.has source.id w.sources = true) :
    Moves w (w.setSource source).1 := by
  have placed := ReflTransGen.single (Move.source source unmerged)
  unfold setSource
  simp only
  split
  · exact placed.tail (.view _ _ (.inl (by simp)))
  · exact placed

theorem moves_registerSource (w : Workbook) (source : Source) :
    Moves w (w.registerSource source).1 := by
  unfold registerSource
  split
  · exact .refl
  · split
    · exact .refl
    · rename_i unmerged _
      exact moves_setSource fun merged => absurd merged unmerged

theorem registerMerge_cases (w : Workbook) (id : String) (merge : Merge) :
    ((w.registerMerge id merge).1 = w ∧
        ∃ fault, (w.registerMerge id merge).2.outcome = .error fault) ∨
      ∃ table, w.mergeFault? id merge = none ∧ (w.build id merge).outcome = .ok table ∧
        w.registerMerge id merge = (w.adopt id merge table, w.build id merge) := by
  unfold registerMerge
  split <;> rename_i checked
  · exact .inl ⟨rfl, _, rfl⟩
  · simp only
    split <;> rename_i built
    · exact .inr ⟨_, checked, built, rfl⟩
    · exact .inl ⟨rfl, _, built⟩

theorem moves_updateTable (w : Workbook) (id : String) (table : Table) (widths : Option Json) :
    Moves w (w.updateTable id table widths).1 := by
  unfold updateTable
  split <;> rename_i shown
  · have placed := ReflTransGen.single (Move.view id table (.inr (.inr shown)))
    simp only
    split
    · exact placed.tail (.store _)
    · exact placed
  · exact .refl

end Workbook

theorem Cascade.accept_workbook {c : Cascade} {id : String} {merge : Merge}
    (known : c.workbook.merges.lookup id = some merge) (view : Table) (notices : List Notice) :
    (c.accept id view notices).workbook =
      (c.workbook.setTable id view).recordHeaders id merge := by
  simp only [accept, Workbook.setTable, known]

theorem Cascade.lookup_accept {c : Cascade} {id : String} {merge : Merge}
    (known : c.workbook.merges.lookup id = some merge) (view : Table) (notices : List Notice) :
    (c.accept id view notices).workbook.tables.lookup id = some view := by
  rw [accept_workbook known]
  simp [Workbook.recordHeaders, Workbook.setTable, Assoc.lookup_set]

theorem Cascade.Turn.moves {c next : Cascade} {table : String} {fault : Option Fault}
    (turn : c.Turn table next fault) : Workbook.Moves c.workbook next.workbook := by
  cases turn with
  | skipped | mismatched | failed | escaped => exact .refl
  | updated merge view notices _ _ known _ =>
      rw [accept_workbook known]
      have shown : Assoc.has table c.workbook.merges = true := Assoc.has_iff.mpr ⟨merge, known⟩
      exact .tail (.single (.view table view (.inr (.inl shown)))) (.headers table merge known)

namespace Workbook

theorem moves_cascade (w : Workbook) (id : String) (headers : List String) :
    Moves w (w.cascade id headers).1 := by
  unfold cascade
  split
  · split
    · exact .refl
    · rename_i order _
      have kept := Cascade.steps_invariant (P := fun c => Moves w c.workbook)
        (fun _ _ _ _ before turn => before.trans turn.moves) order
        (c := ⟨w, [(id, headers)], [], [], []⟩) .refl
      split <;> rename_i run
      · rwa [run] at kept
      · rwa [run] at kept
  · exact .refl

theorem moves_updateSource (w : Workbook) (source : Source) :
    Moves w (w.updateSource source).1 := by
  unfold updateSource
  split <;> rename_i registered
  · have placed : Moves w (w.setSource source).1 := moves_setSource fun _ => registered
    split <;> rename_i replaced
    · rwa [replaced] at placed
    · rw [replaced] at placed
      exact placed.trans (moves_cascade _ _ _)
  · exact .refl

theorem moves_after {w : Workbook} {c : Call} (quiet : c.isQuiet = true) : Moves w (w.after c) := by
  cases c with
  | registerSource source => exact w.moves_registerSource source
  | updateSource source => exact w.moves_updateSource source
  | updateTable id table widths => exact w.moves_updateTable id table widths
  | cascade id headers => exact w.moves_cascade id headers
  | registerMerge | removeTable => simp [Call.isQuiet] at quiet
  | putRecord id text => exact .single (.store _)

theorem Moves.invariant {P : Workbook → Prop} (move : ∀ w w', P w → Move w w' → P w')
    {w w' : Workbook} (start : P w) (moves : Moves w w') : P w' := by
  induction moves with
  | refl => exact start
  | tail _ last ih => exact move _ _ ih last

theorem Moves.merges {w w' : Workbook} (moves : Moves w w') : w'.merges = w.merges :=
  moves.invariant (P := fun v => v.merges = w.merges)
    (fun _ _ same move => by cases move <;> exact same) rfl

theorem Moves.graph {w w' : Workbook} (moves : Moves w w') : w'.graph = w.graph :=
  moves.invariant (P := fun v => v.graph = w.graph)
    (fun _ _ same move => by cases move <;> exact same) rfl

theorem Reachable.invariant {P : Workbook → Prop} {allowed : Call → Prop}
    (start : ∀ inference registry store, P (.empty inference registry store))
    (move : ∀ w w', P w → Move w w' → P w')
    (adopt : ∀ w id merge table, P w → w.mergeFault? id merge = none →
      (w.build id merge).outcome = .ok table → P (w.adopt id merge table))
    (remove : ∀ w id, allowed (.removeTable id) → P w → P (w.removeTable id).1)
    {w : Workbook} (reachable : Reachable allowed w) : P w := by
  induction reachable with
  | empty inference registry store => exact start inference registry store
  | @call w c _ permitted ih =>
      cases c with
      | registerMerge id merge =>
          simp only [after]
          rcases w.registerMerge_cases id merge with ⟨same, -⟩ | ⟨table, checked, built, adopted⟩
          · rwa [same]
          · rw [adopted]
            exact adopt w id merge table ih checked built
      | removeTable id => exact remove w id permitted ih
      | registerSource | updateSource | updateTable | cascade | putRecord =>
          exact Moves.invariant move ih (moves_after rfl)

def keySource (id : String) : Source := ⟨id, ["k"], [], by simp [Rectangular]⟩

/-- The join of two tables on that column. -/
def keyMerge (left right : String) : Merge :=
  ⟨left, ⟨some left, right, "k", "k", .inner, none, none, none, none⟩, []⟩

/-- Two sources, their join, and the join of that with the second source. -/
def chainCalls : List Call :=
  [.registerSource (keySource "a"), .registerSource (keySource "b"),
    .registerMerge "m" (keyMerge "a" "b"), .registerMerge "n" (keyMerge "m" "b")]

def textView (columns : List String) : Table where
  columns := columns
  rows := []
  info := columns.map fun name => .plain name .text none
  aligned := by simp
  rectangular := by simp [Rectangular]

def chain : Workbook where
  inference := ⟨10, 2025⟩
  registry := .standard
  store := .empty .memory
  sources := [("a", keySource "a"), ("b", keySource "b")]
  merges := [("m", keyMerge "a" "b"), ("n", keyMerge "m" "b")]
  tables := [("a", textView ["k"]), ("b", textView ["k"]), ("m", textView ["k", "b_k"]),
    ("n", textView ["k", "b_k", "b_b_k"])]
  graph := ⟨[("m", ["a", "b"]), ("n", ["m", "b"])], [("a", ["m"]), ("b", ["m", "n"]), ("m", ["n"])]⟩
  headers := [(("m", "a"), ["k"]), (("m", "b"), ["k"]), (("n", "m"), ["k", "b_k"]),
    (("n", "b"), ["k"])]

theorem chain_reachable {allowed : Call → Prop} (permitted : ∀ c ∈ chainCalls, allowed c) :
    Reachable allowed chain := by
  have built :
      (empty ⟨10, 2025⟩ Registry.standard (Store.empty .memory)).run chainCalls = chain := by
    decide +kernel
  rw [← built]
  exact .run (.empty ..) permitted

end Workbook

end Gridbook
