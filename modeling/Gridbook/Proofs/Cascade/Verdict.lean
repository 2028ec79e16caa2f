import Mathlib
import Gridbook.Proofs.Cascade.Pass

/-! # Verdicts of a cascade

The turn of a table looks at what earlier turns noted. Said of the finished cascade instead: which
tables have an outcome, in which order, and exactly when a table is skipped, found to differ from
a source, failed or rebuilt.
-/

namespace Gridbook.Pass

open Relation

/-- A direct source of a table failed or was skipped. -/
def Waits (p : Pass) (table : String) : Prop :=
  ∃ source, p.before.graph.Edge source table ∧ Outcome.Left p.result.outcomes source

/-- The headers of a source after the change: those of the changed table as given, of a rebuilt
table as rebuilt, and of any other table as they were. -/
def newHeaders (p : Pass) (source : String) : Option (List String) :=
  if source = p.id then some p.headers
  else if Outcome.Rebuilt p.result.outcomes source then
    (p.after.tables.lookup source).map Table.columns
  else some (p.before.headersOf source)

/-- A direct source of a table has other headers than those on record for the table. -/
def Differs (p : Pass) (table source : String) : Prop :=
  p.before.graph.Edge source table ∧
    p.before.headers.lookup (table, source) ≠ p.newHeaders source

/-- A mismatch tells of the first source, by name, that differs, with both of its headers. -/
def TellsFirst (p : Pass) (table : String) (mismatch : HeaderMismatch) : Prop :=
  mismatch.table = table ∧ p.Differs table mismatch.source ∧
    (∀ other, p.Differs table other → ¬ other < mismatch.source) ∧
    p.before.headers.lookup (table, mismatch.source) = some mismatch.old ∧
    p.newHeaders mismatch.source = some mismatch.new

def rebuild (p : Pass) (table : String) : Except Fault Table :=
  ((p.atTurn table).build table).outcome

/-- The outcome of a table is the one that its sources call for. -/
structure Verdict (p : Pass) (o : Outcome) : Prop where
  skipped : o.isSkipped = true ↔ p.Waits o.table
  blamed : ∀ stale, o.status = .skipped stale →
    ∀ s, s ∈ stale ↔ p.before.graph.Edge s o.table ∧ Outcome.Left p.result.outcomes s
  mismatched : (∃ mismatch, o.status = .mismatched mismatch) ↔
    ¬ p.Waits o.table ∧ ∃ source, p.Differs o.table source
  first : ∀ mismatch, o.status = .mismatched mismatch → p.TellsFirst o.table mismatch
  failed : ∀ fault, o.status = .failed fault ↔
    ¬ p.Waits o.table ∧ (¬ ∃ source, p.Differs o.table source) ∧
      p.rebuild o.table = .error fault ∧ fault.isConfined = true
  updated : ∀ rows, o.status = .updated rows ↔
    ¬ p.Waits o.table ∧ (¬ ∃ source, p.Differs o.table source) ∧
      ∃ view, p.rebuild o.table = .ok view ∧ p.after.tables.lookup o.table = some view ∧
        view.rows.length = rows

namespace Verdict

variable {p : Pass} {o : Outcome}

theorem of_skipped {stale : List String} (status : o.status = .skipped stale)
    (waits : p.Waits o.table)
    (members : ∀ s, s ∈ stale ↔
      p.before.graph.Edge s o.table ∧ Outcome.Left p.result.outcomes s) : p.Verdict o := by
  constructor
  case skipped => simp [Outcome.isSkipped, status, waits]
  case blamed =>
    intro listed told
    rw [status] at told
    cases told
    exact members
  case mismatched => simp [status, waits]
  case first => simp [status]
  case failed => simp [status, waits]
  case updated => simp [status, waits]

theorem of_mismatched {mismatch : HeaderMismatch} (status : o.status = .mismatched mismatch)
    (waitsNot : ¬ p.Waits o.table) (tells : p.TellsFirst o.table mismatch) : p.Verdict o := by
  have differs : ∃ source, p.Differs o.table source := ⟨_, tells.2.1⟩
  constructor
  case skipped => simp [Outcome.isSkipped, status, waitsNot]
  case blamed => simp [status]
  case mismatched => simp [status, waitsNot, differs]
  case first => simp [status, tells]
  case failed => simp only [status, differs]; simp
  case updated => simp only [status, differs]; simp

theorem of_failed {fault : Fault} (status : o.status = .failed fault)
    (waitsNot : ¬ p.Waits o.table) (agree : ¬ ∃ source, p.Differs o.table source)
    (error : p.rebuild o.table = .error fault) (confined : fault.isConfined = true) :
    p.Verdict o := by
  constructor
  case skipped => simp [Outcome.isSkipped, status, waitsNot]
  case blamed => simp [status]
  case mismatched => simp only [status, agree]; simp
  case first => simp [status]
  case failed =>
    intro other
    constructor
    · intro told
      rw [status] at told
      cases told
      exact ⟨waitsNot, agree, error, confined⟩
    · rintro ⟨-, -, told, -⟩
      rw [error] at told
      cases told
      exact status
  case updated => simp [status, error]

theorem of_updated {view : Table} (status : o.status = .updated view.rows.length)
    (waitsNot : ¬ p.Waits o.table) (agree : ¬ ∃ source, p.Differs o.table source)
    (built : p.rebuild o.table = .ok view)
    (shown : p.after.tables.lookup o.table = some view) : p.Verdict o := by
  constructor
  case skipped => simp [Outcome.isSkipped, status, waitsNot]
  case blamed => simp [status]
  case mismatched => simp only [status, agree]; simp
  case first => simp [status]
  case failed => simp [status, built]
  case updated =>
    intro rows
    constructor
    · intro told
      rw [status] at told
      cases told
      exact ⟨waitsNot, agree, view, built, shown, rfl⟩
    · rintro ⟨-, -, other, told, -, rfl⟩
      rw [built] at told
      cases told
      exact status

end Verdict

namespace Moment

variable {p : Pass} {earlier later : List Outcome} {o : Outcome} {c next : Cascade}

theorem edge_iff (moment : Moment p earlier o later c next) {s t : String} :
    c.workbook.graph.Edge s t ↔ p.before.graph.Edge s t := by
  rw [moment.graph]

theorem clear_iff (sound : p.before.Sound) (moment : Moment p earlier o later c next) :
    c.Clear o.table ↔ ¬ p.Waits o.table := by
  constructor
  · rintro clear ⟨source, edge, left⟩
    apply clear source (moment.edge_iff.mpr edge)
    exact ((moment.noted sound).blocked source).mpr ((moment.left_iff sound edge).mpr left)
  · intro waitsNot source now blocked
    have edge := moment.edge_iff.mp now
    have left := ((moment.noted sound).blocked source).mp blocked
    exact waitsNot ⟨source, edge, (moment.left_iff sound edge).mp left⟩

theorem headersNow_eq (sound : p.before.Sound) (moment : Moment p earlier o later c next)
    {s : String} (edge : p.before.graph.Edge s o.table) :
    c.headersNow? s = p.newHeaders s ∧ ∃ new, p.newHeaders s = some new := by
  have noted := moment.noted sound
  have shown := (moment.sound_now sound).shown s o.table (moment.edge_iff.mpr edge)
  obtain ⟨view, known⟩ := Assoc.has_iff.mp shown
  by_cases changed : s = p.id
  case pos =>
    subst changed
    simp [Cascade.headersNow?, newHeaders, noted.first]
  by_cases rebuilt : Outcome.Rebuilt p.result.outcomes s
  case pos =>
    have now := noted.rebuilt s changed ((moment.rebuilt_iff sound edge).mpr rebuilt)
    have final := moment.lookup_source sound edge
    simp [Cascade.headersNow?, newHeaders, changed, rebuilt, now, final, known]
  case neg =>
    have here := mt (moment.rebuilt_iff sound edge).mp rebuilt
    have none := noted.others s changed here
    have kept := noted.kept s here
    have same : c.workbook.headersOf s = p.before.headersOf s := by
      rw [Workbook.headersOf, Workbook.headersOf, kept, moment.workbook]
    simp [Cascade.headersNow?, newHeaders, changed, rebuilt, none, shown, same]

theorem mismatchWith_eq (sound : p.before.Sound) (moment : Moment p earlier o later c next)
    {s : String} (edge : p.before.graph.Edge s o.table) :
    ∃ old new, p.before.headers.lookup (o.table, s) = some old ∧ p.newHeaders s = some new ∧
      c.mismatchWith? o.table s = if old = new then none else some ⟨o.table, s, old, new⟩ := by
  obtain ⟨old, recorded⟩ := sound.recorded s o.table edge
  obtain ⟨now, new, known⟩ := moment.headersNow_eq sound edge
  refine ⟨old, new, recorded, known, ?_⟩
  rw [Cascade.mismatchWith?, now, known, moment.lookup_recorded sound, recorded]
  rfl

theorem mismatchWith_eq_none_iff (sound : p.before.Sound)
    (moment : Moment p earlier o later c next) {s : String}
    (edge : p.before.graph.Edge s o.table) :
    c.mismatchWith? o.table s = none ↔ ¬ p.Differs o.table s := by
  obtain ⟨old, new, recorded, known, found⟩ := moment.mismatchWith_eq sound edge
  rw [found, Differs, recorded, known]
  by_cases same : old = new <;> simp [same, edge]

theorem matching_iff (sound : p.before.Sound) (moment : Moment p earlier o later c next) :
    c.Matching o.table ↔ ¬ ∃ source, p.Differs o.table source := by
  rw [not_exists]
  constructor
  · intro matching source differs
    have edge := differs.1
    have none := matching source (moment.edge_iff.mpr edge)
    exact (moment.mismatchWith_eq_none_iff sound edge).mp none differs
  · intro agree source now
    have edge := moment.edge_iff.mp now
    exact (moment.mismatchWith_eq_none_iff sound edge).mpr (agree source)

theorem tellsFirst (sound : p.before.Sound) (moment : Moment p earlier o later c next)
    {mismatch : HeaderMismatch} (first : c.FirstMismatch o.table mismatch) :
    p.TellsFirst o.table mismatch := by
  obtain ⟨source, now, told, others⟩ := first
  have edge := moment.edge_iff.mp now
  obtain ⟨old, new, recorded, known, found⟩ := moment.mismatchWith_eq sound edge
  rw [found] at told
  split at told
  · cases told
  · rename_i differ
    cases told
    refine ⟨rfl, ⟨edge, ?_⟩, ?_, recorded, known⟩
    · simpa [recorded, known] using differ
    · intro other differs smaller
      have none := others other (moment.edge_iff.mpr differs.1) smaller
      exact (moment.mismatchWith_eq_none_iff sound differs.1).mp none differs

theorem verdict (sound : p.before.Sound) (moment : Moment p earlier o later c next) :
    p.Verdict o := by
  have clear_iff := moment.clear_iff sound
  have matching_iff := moment.matching_iff sound
  have here : p.rebuild o.table = (c.build o.table).outcome := by
    rw [rebuild, moment.atTurn_eq sound]
  cases moment.turn with
  | skipped stale members left =>
      have waits := not_not.mp (mt clear_iff.mpr left)
      refine .of_skipped (moment.status_eq (.skipped stale) rfl) waits ?_
      intro s
      rw [members, moment.edge_iff, (moment.noted sound).blocked]
      exact and_congr_right fun edge => moment.left_iff sound edge
  | mismatched mismatch clear first =>
      exact .of_mismatched (moment.status_eq (.mismatched mismatch) rfl) (clear_iff.mp clear)
        (moment.tellsFirst sound first)
  | failed fault notices clear same stopped confined =>
      have error : p.rebuild o.table = .error fault := by rw [here, stopped]
      exact .of_failed (moment.status_eq (.failed fault) rfl) (clear_iff.mp clear)
        (matching_iff.mp same) error confined
  | updated merge view notices clear same known rebuilt =>
      have built : p.rebuild o.table = .ok view := by
        rw [here, Cascade.build, known]
        exact congrArg Report.outcome rebuilt
      have shown : p.after.tables.lookup o.table = some view := by
        rw [moment.lookup_table sound, Cascade.lookup_accept known]
      exact .of_updated (moment.status_eq (.updated view.rows.length) rfl) (clear_iff.mp clear)
        (matching_iff.mp same) built shown

end Moment

/-- The outcomes of a finished cascade name each table downstream of the change once and behind
its sources, and every one of them is the one that the sources of its table call for. -/
theorem outcomes_decided (p : Pass) (reachable : Workbook.Reachable (fun _ => True) p.before) :
    p.tables.Nodup ∧ (∀ t, t ∈ p.tables ↔ TransGen p.before.graph.Edge p.id t) ∧
      (∀ earlier t later, p.tables = earlier ++ t :: later →
        ∀ source, p.before.graph.Edge source t → source ∈ p.tables → source ∈ earlier) ∧
      ∀ o ∈ p.result.outcomes, p.Verdict o := by
  have sound := reachable.sound
  have affected := affected sound
  refine ⟨affected.nodup, fun t => mem_tables_iff sound, affected.sources_before, ?_⟩
  intro o member
  obtain ⟨earlier, later, shape⟩ := List.append_of_mem member
  obtain ⟨c, next, moment⟩ := exists_moment shape
  exact moment.verdict sound

/-- A source at the end of a chain comes with a renamed column. -/
def renamed : Pass :=
  .ofOutcome .chain "a" ["z"]
    ⟨"a", [⟨"m", .mismatched ⟨"m", "a", ["k"], ["z"]⟩⟩, ⟨"n", .skipped ["m"]⟩], 2⟩ (by cbv)

theorem renamed_blocks_chain :
    renamed.TellsFirst "m" ⟨"m", "a", ["k"], ["z"]⟩ ∧ renamed.Waits "n" := by
  have decided := (outcomes_decided renamed (Workbook.chain_reachable fun _ _ => trivial)).2.2.2
  exact ⟨(decided ⟨"m", _⟩ List.mem_cons_self).first _ rfl,
    (decided ⟨"n", _⟩ (.tail _ List.mem_cons_self)).skipped.mp rfl⟩

end Gridbook.Pass
