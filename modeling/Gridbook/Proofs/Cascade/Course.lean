import Gridbook.Proofs.Cascade.Turn
import Gridbook.Proofs.Graph.BuildOrder
import Gridbook.Proofs.Workbook.Soundness

/-! # The course of a cascade

A turn changes the view of its own table and the headers on record for it, and nothing else of the
workbook. So at every turn the sources of a table are as earlier turns left them, and what a
cascade has noted of them agrees with its outcomes so far.
-/

namespace Gridbook

/-- A table is among the outcomes as rebuilt. -/
def Outcome.Rebuilt (outcomes : List Outcome) (table : String) : Prop :=
  ∃ o ∈ outcomes, o.table = table ∧ o.isUpdated = true

instance (outcomes : List Outcome) (table : String) :
    Decidable (Outcome.Rebuilt outcomes table) := by
  unfold Outcome.Rebuilt; infer_instance

def Outcome.Left (outcomes : List Outcome) (table : String) : Prop :=
  ∃ o ∈ outcomes, o.table = table ∧ (o.isFailed = true ∨ o.isSkipped = true)

namespace Cascade

/-- A cascade before its first turn. -/
def start (w : Workbook) (id : String) (headers : List String) : Cascade :=
  ⟨w, [(id, headers)], [], [], []⟩

section

variable {c next : Cascade} {table : String} {fault : Option Fault}

theorem Turn.workbook (turn : c.Turn table next fault) :
    next.workbook = { c.workbook with
      tables := next.workbook.tables, headers := next.workbook.headers } := by
  cases turn with
  | skipped | mismatched | failed | escaped => rfl
  | updated merge view notices _ _ known =>
      rw [accept_workbook known]
      rfl

theorem Turn.lookup_tables (turn : c.Turn table next fault) {other : String}
    (apart : other ≠ table) :
    next.workbook.tables.lookup other = c.workbook.tables.lookup other := by
  cases turn with
  | skipped | mismatched | failed | escaped => rfl
  | updated merge view notices _ _ known =>
      rw [accept_workbook known, Workbook.recordHeaders, Workbook.setTable]
      simp [Assoc.lookup_set, apart]

theorem Turn.lookup_headers (turn : c.Turn table next fault) {other : String}
    (apart : other ≠ table) (source : String) :
    next.workbook.headers.lookup (other, source) = c.workbook.headers.lookup (other, source) := by
  cases turn with
  | skipped | mismatched | failed | escaped => rfl
  | updated merge view notices _ _ known =>
      rw [accept_workbook known, Workbook.lookup_recordHeaders, if_neg (fun h => apart h.1)]
      rfl

theorem Turn.outcomes (turn : c.Turn table next none) :
    ∃ status, next.outcomes = c.outcomes ++ [⟨table, status⟩] := by
  cases turn with
  | skipped | mismatched | failed | updated => exact ⟨_, rfl⟩

end

theorem sound_of_steps {order : List String} {c d : Cascade} {stop : Option Fault}
    (sound : c.workbook.Sound) (run : steps order c = (d, stop)) : d.workbook.Sound := by
  have kept := steps_invariant (P := fun c => c.workbook.Sound)
    (fun _ _ _ _ sound turn => sound.moves turn.moves) order sound
  rwa [run] at kept

/-- What several turns leave alone, and how they are listed. -/
structure Frame (c d : Cascade) (tables : List String) : Prop where
  workbook : d.workbook = { c.workbook with
    tables := d.workbook.tables, headers := d.workbook.headers }
  lookup_tables : ∀ t, t ∉ tables → d.workbook.tables.lookup t = c.workbook.tables.lookup t
  lookup_headers : ∀ t, t ∉ tables → ∀ s,
    d.workbook.headers.lookup (t, s) = c.workbook.headers.lookup (t, s)
  outcomes : ∃ later, d.outcomes = c.outcomes ++ later ∧ later.map Outcome.table = tables

theorem frame_of_steps {tables : List String} {c d : Cascade} (run : steps tables c = (d, none)) :
    Frame c d tables := by
  induction tables generalizing c with
  | nil =>
      cases run
      exact ⟨rfl, fun _ _ => rfl, fun _ _ _ => rfl, [], by simp⟩
  | cons table rest ih =>
      obtain ⟨next, step, run⟩ := steps_cons.mp run
      have turn := turn_of_step step
      have frame := ih run
      constructor
      case workbook => rw [frame.workbook, turn.workbook]
      case lookup_tables =>
        intro t outside
        rw [List.mem_cons, not_or] at outside
        rw [frame.lookup_tables t outside.2, turn.lookup_tables outside.1]
      case lookup_headers =>
        intro t outside s
        rw [List.mem_cons, not_or] at outside
        rw [frame.lookup_headers t outside.2, turn.lookup_headers outside.1]
      case outcomes =>
        obtain ⟨status, now⟩ := turn.outcomes
        obtain ⟨later, listed, tables⟩ := frame.outcomes
        exact ⟨⟨table, status⟩ :: later, by simp [listed, now], by simp [tables]⟩

theorem isUpdated_eq_false_iff {o : Outcome} :
    o.isUpdated = false ↔ o.isFailed = true ∨ o.isSkipped = true := by
  obtain ⟨table, status⟩ := o
  cases status <;> simp [Outcome.isUpdated, Outcome.isFailed, Outcome.isSkipped]

theorem rebuilt_snoc {outcomes : List Outcome} {o : Outcome} {t : String} :
    Outcome.Rebuilt (outcomes ++ [o]) t ↔
      Outcome.Rebuilt outcomes t ∨ o.table = t ∧ o.isUpdated = true := by
  simp only [Outcome.Rebuilt, List.mem_append, List.mem_singleton, or_and_right, exists_or]
  simp

theorem left_snoc {outcomes : List Outcome} {o : Outcome} {t : String} :
    Outcome.Left (outcomes ++ [o]) t ↔
      Outcome.Left outcomes t ∨ o.table = t ∧ (o.isFailed = true ∨ o.isSkipped = true) := by
  simp only [Outcome.Left, List.mem_append, List.mem_singleton, or_and_right, exists_or]
  simp

/-- The notes of a cascade that started from a workbook agree with its outcomes so far. -/
structure Noted (w : Workbook) (id : String) (headers : List String) (c : Cascade) : Prop where
  blocked : ∀ t, t ∈ c.blocked ↔ Outcome.Left c.outcomes t
  kept : ∀ t, ¬ Outcome.Rebuilt c.outcomes t →
    c.workbook.tables.lookup t = w.tables.lookup t
  first : c.changed.lookup id = some headers
  rebuilt : ∀ t, t ≠ id → Outcome.Rebuilt c.outcomes t →
    c.changed.lookup t = (c.workbook.tables.lookup t).map Table.columns
  others : ∀ t, t ≠ id → ¬ Outcome.Rebuilt c.outcomes t → c.changed.lookup t = none

theorem Noted.start (w : Workbook) (id : String) (headers : List String) :
    Noted w id headers (start w id headers) where
  blocked t := by simp [Cascade.start, Outcome.Left]
  kept t _ := rfl
  first := by simp [Cascade.start]
  rebuilt t _ := by simp [Cascade.start, Outcome.Rebuilt]
  others t other _ := by simp [Cascade.start, other]

theorem Noted.block {w : Workbook} {id : String} {headers : List String} {c : Cascade}
    (noted : Noted w id headers c) (table : String) {status : Outcome.Status}
    (left : (Outcome.mk table status).isUpdated = false) (notices : List Notice) :
    Noted w id headers (c.block table status notices) := by
  have rebuilt (t : String) : Outcome.Rebuilt (c.outcomes ++ [⟨table, status⟩]) t ↔
      Outcome.Rebuilt c.outcomes t := by
    simp [rebuilt_snoc, left]
  constructor
  case blocked =>
    intro t
    simp only [Cascade.block, List.mem_append, List.mem_singleton]
    rw [left_snoc, noted.blocked, ← isUpdated_eq_false_iff]
    simp [left, eq_comm]
  case kept => exact fun t none => noted.kept t (fun h => none ((rebuilt t).mpr h))
  case first => exact noted.first
  case rebuilt => exact fun t other h => noted.rebuilt t other ((rebuilt t).mp h)
  case others => exact fun t other none => noted.others t other (fun h => none ((rebuilt t).mpr h))

theorem Noted.accept {w : Workbook} {id : String} {headers : List String} {c : Cascade}
    (noted : Noted w id headers c) {table : String} (other : table ≠ id) {merge : Merge}
    (known : c.workbook.merges.lookup table = some merge) (view : Table) (notices : List Notice) :
    Noted w id headers (c.accept table view notices) := by
  have tables (t : String) : (c.accept table view notices).workbook.tables.lookup t =
      if t == table then some view else c.workbook.tables.lookup t := by
    rw [accept_workbook known]
    exact Assoc.lookup_set table t view c.workbook.tables
  have changed (t : String) : (c.accept table view notices).changed.lookup t =
      if t == table then some view.columns else c.changed.lookup t :=
    Assoc.lookup_set table t view.columns c.changed
  have rebuilt (t : String) : Outcome.Rebuilt (c.accept table view notices).outcomes t ↔
      Outcome.Rebuilt c.outcomes t ∨ table = t := by
    simp [Cascade.accept, rebuilt_snoc, Outcome.isUpdated]
  constructor
  case blocked =>
    intro t
    simp only [Cascade.accept]
    rw [left_snoc, noted.blocked]
    simp [Outcome.isFailed, Outcome.isSkipped]
  case kept =>
    intro t none
    rw [rebuilt, not_or] at none
    rw [tables, if_neg (by simpa using Ne.symm none.2)]
    exact noted.kept t none.1
  case first =>
    rw [changed, if_neg (by simpa using Ne.symm other)]
    exact noted.first
  case rebuilt =>
    intro t apart h
    rw [changed, tables]
    by_cases same : t = table
    · simp [same]
    · rw [rebuilt] at h
      simpa [same] using noted.rebuilt t apart (h.resolve_right (Ne.symm same))
  case others =>
    intro t apart none
    rw [rebuilt, not_or] at none
    rw [changed, if_neg (by simpa using Ne.symm none.2)]
    exact noted.others t apart none.1

theorem Noted.turn {w : Workbook} {id : String} {headers : List String} {c next : Cascade}
    {table : String} (noted : Noted w id headers c) (other : table ≠ id)
    (turn : c.Turn table next none) : Noted w id headers next := by
  cases turn with
  | skipped | mismatched | failed => exact noted.block table rfl _
  | updated merge view notices _ _ known => exact noted.accept other known view notices

theorem noted_of_steps {w : Workbook} {id : String} {headers : List String} {tables : List String}
    (others : id ∉ tables) {c d : Cascade} (noted : Noted w id headers c)
    (run : steps tables c = (d, none)) : Noted w id headers d := by
  induction tables generalizing c with
  | nil =>
      cases run
      exact noted
  | cons table rest ih =>
      rw [List.mem_cons, not_or] at others
      obtain ⟨next, step, run⟩ := steps_cons.mp run
      exact ih others.2 (noted.turn (Ne.symm others.1) (turn_of_step step)) run

end Cascade

end Gridbook
