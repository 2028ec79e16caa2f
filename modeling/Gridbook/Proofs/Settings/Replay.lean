import Gridbook.Proofs.Formula.Parsing
import Gridbook.Settings.Replay

/-! # Where stored settings stop a table

A record that makes no sense is discarded and a formula that makes no sense gives error cells, so
that the only record that keeps more than its own table from being made is one that nests deeper
than can be read.
-/

namespace Gridbook

namespace Formula

theorem ofBare_confined (content : String) : ¬ Escapes (ofBare content) := by
  rintro ⟨fault, stopped, unconfined⟩
  obtain ⟨negative, digits, -, -, rfl⟩ := ofBare_error stopped
  cases unconfined

theorem ofTokens_confined (tokens : List Token) : ¬ Escapes (ofTokens tokens) := by
  rintro ⟨fault, stopped, unconfined⟩
  obtain ⟨trouble, rfl⟩ | ⟨token, among, content, shown, stands⟩ := ofTokens_error stopped
  · cases unconfined
  · exact ofBare_confined content ⟨fault, stands, unconfined⟩

theorem parse_confined (text : String) : ¬ Escapes (parse text) := by
  unfold parse
  split
  · simp [Fault.isConfined]
  · split
    · exact ofTokens_confined _
    · simp [Fault.isConfined]

theorem compile_confined (text : String) : ¬ Escapes (compile text) := by
  have parsed := parse_confined text
  unfold compile
  split <;> rename_i outcome
  · simp
  · simp
  · simpa [outcome] using parsed

theorem evaluateRows_confined (registry : Registry) (columns : List String) (text : String)
    (rows : List (List Cell)) : ¬ Escapes (evaluateRows registry columns text rows) :=
  Escapes.not_bind (compile_confined text) fun _ _ => Escapes.pure _

end Formula

namespace Table

theorem materialize_confined (registry : Registry) (name formula : String) (table : Table) :
    ¬ Escapes (table.materialize registry name formula) := by
  unfold materialize
  simp only
  split
  · simp [Fault.isConfined]
  · split
    · simp [Fault.isConfined]
    · split
      · simp [Fault.isConfined]
      · exact Escapes.not_bind (Formula.evaluateRows_confined _ _ _ _) fun _ _ => Escapes.pure _

theorem restoreField_confined (registry : Registry) (table : Table) (field : StoredField) :
    ¬ Escapes (restoreField registry table field).outcome := by
  unfold restoreField
  split
  · exact Escapes.report_not_bind (Escapes.report_note _) fun _ => Escapes.report_pure _
  · rw [Report.outcome_ofExcept]
    exact materialize_confined _ _ _ _

theorem replay_confined (registry : Registry) (settings : Settings) (table : Table) :
    ¬ Escapes (table.replay registry settings).outcome := by
  unfold replay
  simp only
  split
  · exact Escapes.report_not_foldlM _ (restoreField_confined registry) _
  · refine Escapes.report_not_bind (Escapes.report_note _) fun _ => ?_
    exact Escapes.report_not_foldlM _ (restoreField_confined registry) _

end Table

namespace Store

/-- The record of a table nests deeper than can be read. -/
def TooDeep (store : Store) (id : String) : Prop :=
  ∃ text container, store.text? id = some text ∧ Json.read text = .error (.tooDeep container)

theorem record_escapes_iff {store : Store} {id : String} :
    Escapes (store.record? id).outcome ↔ store.TooDeep id := by
  unfold record? TooDeep
  cases found : store.text? id with
  | none => simp
  | some text =>
      cases read : Json.read text with
      | ok record => cases record <;> simp [read]
      | error trouble =>
          cases trouble <;> cases store.medium <;> simp [read, Fault.isConfined]

theorem load_escapes_iff {store : Store} {id : String} :
    Escapes (store.load id).outcome ↔ store.TooDeep id := by
  rw [← record_escapes_iff, load, Escapes.report_bind]
  refine or_iff_left ?_
  rintro ⟨record?, -, there⟩
  cases record? with
  | none => simp at there
  | some record =>
      revert there
      simp only
      split <;> simp [Fault.isConfined]

end Store

end Gridbook
