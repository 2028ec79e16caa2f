import Gridbook.Proofs.Cascade.Course

/-! # Finished cascades

A cascade that gives a result has taken every table downstream of the change in its turn. Between
the turn of a table and the end nothing happens to the tables from which it is built, so what is
known of them at the end was so at that turn.
-/

namespace Gridbook

open Relation

theorem Workbook.cascade_of_steps {w : Workbook} {id : String} {headers order : List String}
    {c : Cascade} (known : Assoc.has id w.tables = true) (found : w.graph.affected [id] = .ok order)
    (run : Cascade.steps order (Cascade.start w id headers) = (c, none)) :
    w.cascade id headers =
      (c.workbook, ⟨c.notices, .ok ⟨id, c.outcomes, w.graph.depth [id]⟩⟩) := by
  rw [Cascade.start] at run
  simp only [Workbook.cascade, known, if_true, found, run]

/-- A cascade that has given a result. -/
structure Pass where
  before : Workbook
  id : String
  headers : List String
  after : Workbook
  notices : List Notice
  result : CascadeResult
  finished : before.cascade id headers = (after, ⟨notices, .ok result⟩)

namespace Pass

/-- The tables that have an outcome, in order. -/
def tables (p : Pass) : List String :=
  p.result.outcomes.map Outcome.table

def atTurn (p : Pass) (table : String) : Cascade :=
  (Cascade.steps (p.tables.takeWhile (· != table)) (Cascade.start p.before p.id p.headers)).1

def ofOutcome (w : Workbook) (id : String) (headers : List String) (result : CascadeResult)
    (outcome : (w.cascade id headers).2.outcome = .ok result) : Pass where
  before := w
  id := id
  headers := headers
  after := (w.cascade id headers).1
  notices := (w.cascade id headers).2.notices
  result := result
  finished := by rw [← outcome]

theorem known (p : Pass) : Assoc.has p.id p.before.tables = true := by
  have finished := p.finished
  unfold Workbook.cascade at finished
  split at finished
  · assumption
  · simp [Report.fail] at finished

theorem exists_run (p : Pass) :
    p.before.graph.affected [p.id] = .ok p.tables ∧
      ∃ last, Cascade.steps p.tables (Cascade.start p.before p.id p.headers) = (last, none) ∧
        last.workbook = p.after ∧ last.outcomes = p.result.outcomes := by
  have finished := p.finished
  unfold Workbook.cascade at finished
  split at finished
  · split at finished
    · simp [Report.fail] at finished
    · rename_i order found
      split at finished <;> rename_i last run
      · simp only [Prod.mk.injEq, Report.mk.injEq, Except.ok.injEq] at finished
        obtain ⟨workbook, -, result⟩ := finished
        have outcomes : last.outcomes = p.result.outcomes := by rw [← result]
        obtain ⟨later, listed, ordered⟩ := (Cascade.frame_of_steps run).outcomes
        have order_eq : order = p.tables := by
          simp only [List.nil_append] at listed
          rw [tables, ← outcomes, listed, ordered]
        rw [order_eq] at found run
        exact ⟨found, last, run, workbook, outcomes⟩
      · simp at finished
  · simp [Report.fail] at finished

variable {p : Pass}

theorem affected (sound : p.before.Sound) : p.before.graph.Affected [p.id] p.tables := by
  obtain ⟨order, found, affected⟩ := Graph.affected_spec sound.graph [p.id]
  rw [p.exists_run.1, Except.ok.injEq] at found
  rwa [found]

theorem mem_tables_iff (sound : p.before.Sound) {t : String} :
    t ∈ p.tables ↔ TransGen p.before.graph.Edge p.id t :=
  (affected sound).mem_iff_of_single sound.graph.acyclic

theorem id_not_mem (sound : p.before.Sound) : p.id ∉ p.tables :=
  fun member => sound.graph.acyclic p.id ((mem_tables_iff sound).mp member)

/-- The turn of one table, between what happened earlier and what happened later. -/
structure Moment (p : Pass) (earlier : List Outcome) (o : Outcome) (later : List Outcome)
    (c next : Cascade) : Prop where
  shape : p.result.outcomes = earlier ++ o :: later
  first : Cascade.steps (earlier.map Outcome.table) (Cascade.start p.before p.id p.headers) =
    (c, none)
  here : c.outcomes = earlier
  turn : c.Turn o.table next none
  listed : next.outcomes = earlier ++ [o]
  rest : ∃ last, Cascade.steps (later.map Outcome.table) next = (last, none) ∧
    last.workbook = p.after

theorem exists_moment_step {earlier later : List Outcome} {o : Outcome}
    (shape : p.result.outcomes = earlier ++ o :: later) :
    ∃ c next, Moment p earlier o later c next ∧ c.step o.table = (next, none) := by
  obtain ⟨-, last, run, workbook, outcomes⟩ := p.exists_run
  have parts : p.tables = earlier.map Outcome.table ++ o.table :: later.map Outcome.table := by
    simp [tables, shape]
  rw [parts, Cascade.steps_append] at run
  obtain ⟨c, first, run⟩ := run
  obtain ⟨next, step, rest⟩ := Cascade.steps_cons.mp run
  have turn := Cascade.turn_of_step step
  obtain ⟨here, listedHere, namesHere⟩ := (Cascade.frame_of_steps first).outcomes
  obtain ⟨status, listedNext⟩ := turn.outcomes
  obtain ⟨after, listedAfter, namesAfter⟩ := (Cascade.frame_of_steps rest).outcomes
  -- The outcomes of the three stretches are as long as the parts of the shape, so they agree.
  have whole : c.outcomes ++ [⟨o.table, status⟩] ++ after = earlier ++ [o] ++ later := by
    rw [← listedNext, ← listedAfter, outcomes, shape]
    simp
  have lengthHere : c.outcomes.length = earlier.length := by
    simpa [Cascade.start, listedHere] using congrArg List.length namesHere
  obtain ⟨both, -⟩ := List.append_inj whole (by simp [lengthHere])
  obtain ⟨same, now⟩ := List.append_inj both lengthHere
  exact ⟨c, next, ⟨shape, first, same, turn, by rw [listedNext, both], last, rest, workbook⟩, step⟩

theorem exists_moment {earlier later : List Outcome} {o : Outcome}
    (shape : p.result.outcomes = earlier ++ o :: later) :
    ∃ c next, Moment p earlier o later c next := by
  obtain ⟨c, next, moment, -⟩ := exists_moment_step shape
  exact ⟨c, next, moment⟩

namespace Moment

variable {earlier later : List Outcome} {o : Outcome} {c next : Cascade}

theorem tables_eq (moment : Moment p earlier o later c next) :
    p.tables = earlier.map Outcome.table ++ o.table :: later.map Outcome.table := by
  simp [tables, moment.shape]

theorem workbook (moment : Moment p earlier o later c next) :
    c.workbook = { p.before with tables := c.workbook.tables, headers := c.workbook.headers } :=
  (Cascade.frame_of_steps moment.first).workbook

theorem graph (moment : Moment p earlier o later c next) :
    c.workbook.graph = p.before.graph := by
  rw [moment.workbook]

theorem source_not_mem (sound : p.before.Sound) (moment : Moment p earlier o later c next)
    {s : String} (edge : p.before.graph.Edge s o.table) :
    s ∉ o.table :: later.map Outcome.table := by
  intro ahead
  have shape := moment.tables_eq
  have nodup := (affected sound).nodup
  rw [shape] at nodup
  have member : s ∈ p.tables := by
    rw [shape]
    exact List.mem_append_right _ ahead
  have behind := (affected sound).sources_before _ _ _ shape s edge member
  exact List.disjoint_of_nodup_append nodup behind ahead

theorem not_mem_earlier (sound : p.before.Sound) (moment : Moment p earlier o later c next) :
    o.table ∉ earlier.map Outcome.table := by
  intro behind
  have nodup := (affected sound).nodup
  rw [moment.tables_eq] at nodup
  exact List.disjoint_of_nodup_append nodup behind List.mem_cons_self

theorem atTurn_eq (sound : p.before.Sound) (moment : Moment p earlier o later c next) :
    p.atTurn o.table = c := by
  have outside := moment.not_mem_earlier sound
  have taken : p.tables.takeWhile (· != o.table) = earlier.map Outcome.table := by
    rw [moment.tables_eq, List.takeWhile_append_of_pos]
    · simp
    · intro t behind
      simpa using fun same : t = o.table => outside (same ▸ behind)
  rw [atTurn, taken, moment.first]

theorem noted (sound : p.before.Sound) (moment : Moment p earlier o later c next) :
    Cascade.Noted p.before p.id p.headers c := by
  refine Cascade.noted_of_steps ?_ (.start p.before p.id p.headers) moment.first
  intro behind
  apply id_not_mem sound
  rw [moment.tables_eq]
  exact List.mem_append_left _ behind

theorem sound_now (sound : p.before.Sound) (moment : Moment p earlier o later c next) :
    c.workbook.Sound :=
  Cascade.sound_of_steps (c := Cascade.start p.before p.id p.headers) sound moment.first

theorem outcome_iff (sound : p.before.Sound) (moment : Moment p earlier o later c next)
    {s : String} (edge : p.before.graph.Edge s o.table) (kind : Outcome → Prop) :
    (∃ other ∈ c.outcomes, other.table = s ∧ kind other) ↔
      ∃ other ∈ p.result.outcomes, other.table = s ∧ kind other := by
  have outside := moment.source_not_mem sound edge
  rw [moment.here, moment.shape]
  constructor
  · rintro ⟨other, member, same, of_kind⟩
    exact ⟨other, List.mem_append_left _ member, same, of_kind⟩
  · rintro ⟨other, member, same, of_kind⟩
    rcases List.mem_append.mp member with behind | ahead
    · exact ⟨other, behind, same, of_kind⟩
    · exact absurd (List.mem_map_of_mem (f := Outcome.table) ahead) (same ▸ outside)

theorem rebuilt_iff (sound : p.before.Sound) (moment : Moment p earlier o later c next)
    {s : String} (edge : p.before.graph.Edge s o.table) :
    Outcome.Rebuilt c.outcomes s ↔ Outcome.Rebuilt p.result.outcomes s :=
  moment.outcome_iff sound edge _

theorem left_iff (sound : p.before.Sound) (moment : Moment p earlier o later c next)
    {s : String} (edge : p.before.graph.Edge s o.table) :
    Outcome.Left c.outcomes s ↔ Outcome.Left p.result.outcomes s :=
  moment.outcome_iff sound edge _

theorem lookup_source (sound : p.before.Sound) (moment : Moment p earlier o later c next)
    {s : String} (edge : p.before.graph.Edge s o.table) :
    p.after.tables.lookup s = c.workbook.tables.lookup s := by
  have outside := moment.source_not_mem sound edge
  rw [List.mem_cons, not_or] at outside
  obtain ⟨last, rest, workbook⟩ := moment.rest
  rw [← workbook, (Cascade.frame_of_steps rest).lookup_tables s outside.2,
    moment.turn.lookup_tables outside.1]

theorem lookup_recorded (sound : p.before.Sound) (moment : Moment p earlier o later c next)
    (s : String) :
    c.workbook.headers.lookup (o.table, s) = p.before.headers.lookup (o.table, s) :=
  (Cascade.frame_of_steps moment.first).lookup_headers o.table (moment.not_mem_earlier sound) s

theorem status_eq (moment : Moment p earlier o later c next) (status : Outcome.Status)
    (listed : next.outcomes = c.outcomes ++ [⟨o.table, status⟩]) : o.status = status := by
  rw [moment.listed, moment.here, List.append_cancel_left_eq, List.singleton_inj] at listed
  rw [listed]

theorem not_mem_later (sound : p.before.Sound) (moment : Moment p earlier o later c next) :
    o.table ∉ later.map Outcome.table := by
  have nodup := (affected sound).nodup
  rw [moment.tables_eq] at nodup
  exact (List.nodup_cons.mp (List.nodup_append.mp nodup).2.1).1

theorem lookup_table (sound : p.before.Sound) (moment : Moment p earlier o later c next) :
    p.after.tables.lookup o.table = next.workbook.tables.lookup o.table := by
  have outside := moment.not_mem_later sound
  obtain ⟨last, rest, workbook⟩ := moment.rest
  rw [← workbook, (Cascade.frame_of_steps rest).lookup_tables o.table outside]

theorem lookup_headers (sound : p.before.Sound) (moment : Moment p earlier o later c next)
    (s : String) :
    p.after.headers.lookup (o.table, s) = next.workbook.headers.lookup (o.table, s) := by
  have outside := moment.not_mem_later sound
  obtain ⟨last, rest, workbook⟩ := moment.rest
  rw [← workbook, (Cascade.frame_of_steps rest).lookup_headers o.table outside]

end Moment

end Pass

end Gridbook
