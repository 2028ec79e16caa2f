import Mathlib
import Gridbook.Proofs.Settings.Document
import Gridbook.Proofs.Text.Percent

/-! # Stores as maps

A store that starts without records and is only given settings that can be written behaves as a map
from table ids to settings, whatever its medium. A shelf is that map. A call that fails changes
neither the store nor the shelf, and calls for tables fail whose files the file system refuses.
-/

namespace Gridbook

namespace Store

/-- What can be asked of a store. -/
inductive Call where
  | save (id : String) (settings : Settings)
  | load (id : String)
  | update (id : String) (f : Option Settings → Except Fault Settings)
  | delete (id : String)

def Call.id : Call → String
  | save id _ | load id | update id _ | delete id => id

variable {store : Store} {id other : String} {settings : Settings}

/-- The store behind a call and the settings that the call gives back. A name that the file system
refuses is met first, but settings are written out before. -/
def perform (system : FileSystem) (store : Store) : Call → Report (Store × Option Settings)
  | .save id settings => do
      let next ← store.save id settings
      store.medium.reach system id
      return (next, none)
  | .load id => do
      store.medium.reach system id
      return (store, ← store.load id)
  | .update id f => do
      store.medium.reach system id
      let (next, settings) ← store.update id f
      return (next, some settings)
  | .delete id => do
      store.medium.reach system id
      return (store.delete id, none)

def after (system : FileSystem) (store : Store) (call : Call) : Store :=
  match (store.perform system call).outcome with
  | .ok (next, _) => next
  | .error _ => store

def answer (system : FileSystem) (store : Store) (call : Call) : Report (Option Settings) :=
  Prod.snd <$> store.perform system call

def run (system : FileSystem) (store : Store) (calls : List Call) : Store :=
  calls.foldl (after system) store

def answers (system : FileSystem) (store : Store) : List Call → List (Report (Option Settings))
  | [] => []
  | call :: rest => store.answer system call :: (store.after system call).answers system rest

end Store

/-- Settings by table. -/
def Shelf := String → Option Settings

namespace Shelf

open Store (Call)

def empty : Shelf := fun _ => none

/-- A shelf with other settings, or none, for one table. -/
def set (shelf : Shelf) (id : String) (settings : Option Settings) : Shelf :=
  fun other => if other = id then settings else shelf other

/-- The shelf behind a call and the settings that the call gives back, if the table can be reached.
-/
def perform (reach : String → Except Fault Unit) (shelf : Shelf) (call : Call) :
    Except Fault (Shelf × Option Settings) := do
  reach call.id
  match call with
  | .save id settings => return (shelf.set id (some settings), none)
  | .load id => return (shelf, shelf id)
  | .update id f =>
      let settings ← f (shelf id)
      return (shelf.set id (some settings), some settings)
  | .delete id => return (shelf.set id none, none)

def after (reach : String → Except Fault Unit) (shelf : Shelf) (call : Call) : Shelf :=
  match shelf.perform reach call with
  | .ok (next, _) => next
  | .error _ => shelf

def answer (reach : String → Except Fault Unit) (shelf : Shelf) (call : Call) :
    Except Fault (Option Settings) :=
  Prod.snd <$> shelf.perform reach call

def run (reach : String → Except Fault Unit) (shelf : Shelf) (calls : List Call) : Shelf :=
  calls.foldl (after reach) shelf

def answers (reach : String → Except Fault Unit) (shelf : Shelf) :
    List Call → List (Except Fault (Option Settings))
  | [] => []
  | call :: rest => shelf.answer reach call :: (shelf.after reach call).answers reach rest

/-- The settings that a call saves, or that it writes out before it fails. -/
def saved (reach : String → Except Fault Unit) (shelf : Shelf) : Call → List Settings
  | .save _ settings => [settings]
  | .update id f => (do reach id; f (shelf id)).toOption.toList
  | .load _ | .delete _ => []

def allSaved (reach : String → Except Fault Unit) (shelf : Shelf) : List Call → List Settings
  | [] => []
  | call :: rest => shelf.saved reach call ++ (shelf.after reach call).allSaved reach rest

end Shelf

namespace Store

variable {store : Store} {id other : String} {settings : Settings}

theorem fileName_injective : Function.Injective fileName := by
  intro a b same
  exact Text.Percent.encode_injective ((String.append_left_inj _).mp same)

theorem key_injective (store : Store) : Function.Injective store.key := by
  obtain ⟨medium, records⟩ := store
  cases medium with
  | memory => exact fun a b same => same
  | files => exact fileName_injective

theorem text?_put (store : Store) (id other text : String) :
    (store.put id text).text? other = if other = id then some text else store.text? other := by
  have keyed : (store.put id text).key other = store.key other := rfl
  simp only [text?, keyed]
  simp only [put, Assoc.lookup_set, beq_iff_eq, store.key_injective.eq_iff]

theorem text?_delete (store : Store) (id other : String) :
    (store.delete id).text? other = if other = id then none else store.text? other := by
  have keyed : (store.delete id).key other = store.key other := rfl
  simp only [text?, keyed]
  simp only [delete, Assoc.lookup_drop, beq_iff_eq, store.key_injective.eq_iff]

/-- A store answers for a table by what it holds for that table alone. -/
theorem load_congr {next : Store} (medium : next.medium = store.medium)
    (held : next.text? id = store.text? id) : next.load id = store.load id := by
  simp only [load, record?, medium, held]

theorem load_of_none (missing : store.text? id = none) : store.load id = pure none := by
  simp only [load, record?, missing, pure_bind]

theorem load_of_text (storable : settings.Storable)
    (held : store.text? id = some (settings.toJson.render store.layout)) :
    store.load id = pure (some settings) := by
  have record : store.record? id = pure (some settings.toJson) := by
    simp only [record?, held, Settings.read_render storable]
    rfl
  simp only [load, record, pure_bind, Settings.ofRecord_toJson storable]

theorem record_short {record : Json} (found : (store.record? id).outcome = .ok (some record)) :
    record.Short := by
  unfold record? at found
  split at found
  case h_1 => cases found
  case h_2 text held =>
    split at found
    case h_1 => cases found
    case h_2 _ _ given _ read =>
      cases found
      exact Json.read_short read
    case h_3 => cases found
    case h_4 => cases found

theorem load_widths (loaded : (store.load id).outcome = .ok (some settings)) :
    Settings.WritableWidths settings.widths := by
  obtain ⟨record, found, loaded⟩ := report_bind_ok_iff.mp loaded
  cases record with
  | none => cases loaded
  | some record =>
      refine Settings.ofRecord_widths (record_short found) ?_
      simp only at loaded
      split at loaded
      case h_1 given =>
        cases loaded
        exact given
      case h_2 => cases loaded
      case h_3 =>
        obtain ⟨_, -, same⟩ := report_bind_ok_iff.mp loaded
        cases same

theorem save_of_storable (storable : settings.Storable) (store : Store) (id : String) :
    store.save id settings = .ok (store.put id (settings.toJson.render store.layout)) :=
  bind_ok_iff.mpr ⟨_, Settings.text_of_storable storable store.layout, rfl⟩

/-- A store of a medium holds what lies on a shelf, and nothing else. -/
structure Holds (medium : Medium) (store : Store) (shelf : Shelf) : Prop where
  medium : store.medium = medium
  text : ∀ id, store.text? id = (shelf id).map fun settings => settings.toJson.render store.layout
  storable : ∀ id settings, shelf id = some settings → settings.Storable

namespace Holds

variable {medium : Medium} {shelf : Shelf} {system : FileSystem}

theorem empty (medium : Medium) : Holds medium (Store.empty medium) Shelf.empty :=
  ⟨rfl, fun _ => rfl, fun _ _ found => nomatch found⟩

theorem load (holds : Holds medium store shelf) (id : String) :
    store.load id = pure (shelf id) := by
  have text := holds.text id
  cases found : shelf id with
  | none => exact load_of_none (by rw [text, found, Option.map_none])
  | some settings =>
      exact load_of_text (holds.storable id settings found) (by rw [text, found, Option.map_some])

theorem put (holds : Holds medium store shelf) (storable : settings.Storable) (id : String) :
    Holds medium (store.put id (settings.toJson.render store.layout))
      (shelf.set id (some settings)) := by
  constructor
  · exact holds.medium
  · intro other
    rw [text?_put, Shelf.set, holds.text other]
    split <;> rfl
  · intro other given found
    unfold Shelf.set at found
    split at found
    · exact Option.some.inj found ▸ storable
    · exact holds.storable other given found

theorem delete (holds : Holds medium store shelf) (id : String) :
    Holds medium (store.delete id) (shelf.set id none) := by
  constructor
  · exact holds.medium
  · intro other
    rw [text?_delete, Shelf.set, holds.text other]
    split <;> rfl
  · intro other given found
    unfold Shelf.set at found
    split at found
    · cases found
    · exact holds.storable other given found

theorem perform_refused (holds : Holds medium store shelf) {call : Call} {fault : Fault}
    (refused : medium.reach system call.id = .error fault)
    (storable : ∀ settings ∈ shelf.saved (medium.reach system) call, settings.Storable) :
    shelf.perform (medium.reach system) call = .error fault ∧
      store.perform system call = Report.fail fault := by
  obtain rfl := holds.medium
  constructor
  · simp only [Shelf.perform, refused]
    rfl
  · cases call with
    | save id settings =>
        have storable := storable settings (List.mem_singleton_self settings)
        simp only [Call.id] at refused
        simp only [Store.perform, save_of_storable storable, Report.lift_ok, pure_bind, refused]
        rfl
    | load id | update id f | delete id =>
        simp only [Call.id] at refused
        rw [Store.perform, refused]
        rfl

theorem perform (holds : Holds medium store shelf) (system : FileSystem) (call : Call)
    (storable : ∀ settings ∈ shelf.saved (medium.reach system) call, settings.Storable) :
    match shelf.perform (medium.reach system) call with
    | .ok (next, given) =>
        ∃ behind, store.perform system call = pure (behind, given) ∧ Holds medium behind next
    | .error fault => store.perform system call = Report.fail fault := by
  cases reached : medium.reach system call.id with
  | error fault =>
      obtain ⟨onShelf, inStore⟩ := holds.perform_refused reached storable
      rw [onShelf]
      exact inStore
  | ok admitted =>
      obtain rfl := holds.medium
      cases call with
      | save id settings =>
          have storable := storable settings (List.mem_singleton_self settings)
          simp only [Call.id] at reached
          simp only [Shelf.perform, Call.id, reached]
          refine ⟨_, ?_, holds.put storable id⟩
          simp only [Store.perform, save_of_storable storable, reached, Report.lift_ok, pure_bind]
      | load id =>
          simp only [Call.id] at reached
          simp only [Shelf.perform, Call.id, reached]
          refine ⟨store, ?_, holds⟩
          simp only [Store.perform, holds.load id, reached, Report.lift_ok, pure_bind]
      | update id f =>
          simp only [Call.id] at reached
          cases made : f (shelf id) with
          | error fault =>
              simp only [Shelf.perform, Call.id, reached, Store.perform, Store.update,
                holds.load id, Report.lift_ok, pure_bind, made]
              rfl
          | ok settings =>
              have storable := storable settings
                (by simp [Shelf.saved, reached, made, bind, Except.bind, Except.toOption])
              simp only [Shelf.perform, Call.id, reached, made]
              refine ⟨_, ?_, holds.put storable id⟩
              simp only [Store.perform, Store.update, holds.load id, reached, pure_bind, made,
                save_of_storable storable, Report.lift_ok]
      | delete id =>
          simp only [Call.id] at reached
          simp only [Shelf.perform, Call.id, reached]
          refine ⟨_, ?_, holds.delete id⟩
          simp only [Store.perform, reached, Report.lift_ok, pure_bind]

theorem after (holds : Holds medium store shelf) (system : FileSystem) (call : Call)
    (storable : ∀ settings ∈ shelf.saved (medium.reach system) call, settings.Storable) :
    Holds medium (store.after system call) (shelf.after (medium.reach system) call) := by
  have performed := holds.perform system call storable
  unfold Store.after Shelf.after
  cases done : shelf.perform (medium.reach system) call with
  | error fault =>
      rw [done] at performed
      rw [performed]
      exact holds
  | ok result =>
      rw [done] at performed
      obtain ⟨behind, performed, holds⟩ := performed
      rw [performed]
      exact holds

theorem answer (holds : Holds medium store shelf) (system : FileSystem) (call : Call)
    (storable : ∀ settings ∈ shelf.saved (medium.reach system) call, settings.Storable) :
    store.answer system call = Report.ofExcept (shelf.answer (medium.reach system) call) := by
  have performed := holds.perform system call storable
  unfold Store.answer Shelf.answer
  cases done : shelf.perform (medium.reach system) call with
  | error fault =>
      rw [done] at performed
      rw [performed]
      rfl
  | ok result =>
      rw [done] at performed
      obtain ⟨behind, performed, holds⟩ := performed
      rw [performed]
      rfl

theorem run (holds : Holds medium store shelf) (system : FileSystem) {calls : List Call}
    (storable : ∀ settings ∈ shelf.allSaved (medium.reach system) calls, settings.Storable) :
    Holds medium (store.run system calls) (shelf.run (medium.reach system) calls) := by
  induction calls generalizing store shelf with
  | nil => exact holds
  | cons call rest ih =>
      simp only [Shelf.allSaved, List.mem_append] at storable
      have now := holds.after system call fun settings among => storable settings (.inl among)
      exact ih now fun settings among => storable settings (.inr among)

theorem answers (holds : Holds medium store shelf) (system : FileSystem) {calls : List Call}
    (storable : ∀ settings ∈ shelf.allSaved (medium.reach system) calls, settings.Storable) :
    store.answers system calls =
      (shelf.answers (medium.reach system) calls).map Report.ofExcept := by
  induction calls generalizing store shelf with
  | nil => rfl
  | cons call rest ih =>
      simp only [Shelf.allSaved, List.mem_append] at storable
      have own := fun settings among => storable settings (.inl among)
      have later := ih (holds.after system call own) fun settings among =>
        storable settings (.inr among)
      rw [Store.answers, holds.answer system call own, later]
      rfl

end Holds

/-- A call leaves the store as it is, or replaces or forgets the document of its own table. -/
theorem after_cases (system : FileSystem) (store : Store) (call : Call) :
    store.after system call = store ∨
      (∃ text, store.after system call = store.put call.id text) ∨
        store.after system call = store.delete call.id := by
  unfold after
  split
  case h_2 => exact .inl rfl
  case h_1 next given done =>
    have saves : ∀ {id settings next}, store.save id settings = .ok next →
        ∃ text, next = store.put id text := by
      intro id settings next saved
      obtain ⟨text, -, made⟩ := bind_ok_iff.mp saved
      cases made
      exact ⟨text, rfl⟩
    cases call with
    | save id settings =>
        obtain ⟨_, saved, done⟩ := report_bind_ok_iff.mp done
        obtain ⟨_, -, made⟩ := report_bind_ok_iff.mp done
        cases made
        exact .inr (.inl (saves saved))
    | load id =>
        obtain ⟨_, -, done⟩ := report_bind_ok_iff.mp done
        obtain ⟨_, -, made⟩ := report_bind_ok_iff.mp done
        cases made
        exact .inl rfl
    | update id f =>
        obtain ⟨_, -, done⟩ := report_bind_ok_iff.mp done
        obtain ⟨_, updated, made⟩ := report_bind_ok_iff.mp done
        cases made
        obtain ⟨current, -, updated⟩ := report_bind_ok_iff.mp updated
        obtain ⟨settings, -, updated⟩ := report_bind_ok_iff.mp updated
        obtain ⟨_, saved, made⟩ := report_bind_ok_iff.mp updated
        cases made
        exact .inr (.inl (saves saved))
    | delete id =>
        obtain ⟨_, -, made⟩ := report_bind_ok_iff.mp done
        cases made
        exact .inr (.inr rfl)

theorem medium_after (system : FileSystem) (store : Store) (call : Call) :
    (store.after system call).medium = store.medium := by
  rcases store.after_cases system call with same | ⟨text, put⟩ | deleted
  · rw [same]
  · rw [put]
    rfl
  · rw [deleted]
    rfl

theorem answer_load (system : FileSystem) (store : Store) (id : String) :
    store.answer system (.load id) = (do
      store.medium.reach system id
      store.load id) := by
  simp only [answer, perform, map_eq_pure_bind, bind_assoc, pure_bind, bind_pure]

theorem load_after (system : FileSystem) (store : Store) {call : Call} (apart : other ≠ call.id) :
    (store.after system call).answer system (.load other) = store.answer system (.load other) := by
  have loaded : (store.after system call).load other = store.load other := by
    rcases store.after_cases system call with same | ⟨text, put⟩ | deleted
    · rw [same]
    · rw [put]
      exact load_congr rfl (by rw [text?_put, if_neg apart])
    · rw [deleted]
      exact load_congr rfl (by rw [text?_delete, if_neg apart])
  rw [answer_load, answer_load, medium_after, loaded]

theorem reach_of_taken {system : FileSystem} {id : String}
    (taken : system.takes (fileName id) = true) (medium : Medium) :
    medium.reach system id = .ok () := by
  cases medium with
  | memory => rfl
  | files => exact if_pos taken

theorem takes_of_short {id : String} {bytes : Nat} (short : 3 * id.utf8ByteSize + 5 ≤ bytes) :
    (FileSystem.limited bytes).takes (fileName id) = true := by
  have encoded := Text.Percent.utf8ByteSize_encode_le id
  have ending : ".json".utf8ByteSize = 5 := rfl
  rw [FileSystem.limited, decide_eq_true_eq, fileName, String.utf8ByteSize_append, ending]
  omega

theorem answers_congr {reach reach' : String → Except Fault Unit} {calls : List Call}
    (same : ∀ call ∈ calls, reach call.id = reach' call.id) (shelf : Shelf) :
    shelf.answers reach calls = shelf.answers reach' calls := by
  induction calls generalizing shelf with
  | nil => rfl
  | cons call rest ih =>
      rw [List.forall_mem_cons] at same
      have performed : shelf.perform reach call = shelf.perform reach' call := by
        simp only [Shelf.perform, same.1]
      rw [Shelf.answers, Shelf.answers, Shelf.answer, Shelf.answer, Shelf.after, Shelf.after,
        performed, ih same.2]

/-- A store of either medium that starts without records answers every call as the map does, as long
as what is saved can be written. Afterwards it gives for every table what the map has for it, and no
further call changes what it gives for another table. Only a table whose file the system refuses
cannot be reached, where the medium is files; if there is none among the tables of the calls, the
two media answer the same. -/
theorem refines_shelf (system : FileSystem) (calls : List Call)
    (storable : ∀ medium : Medium, ∀ settings ∈ Shelf.empty.allSaved (medium.reach system) calls,
      settings.Storable) :
    (∀ medium : Medium,
      (empty medium).answers system calls =
        (Shelf.empty.answers (medium.reach system) calls).map Report.ofExcept ∧
      (∀ id, ((empty medium).run system calls).answer system (.load id) = Report.ofExcept (do
        medium.reach system id
        return Shelf.empty.run (medium.reach system) calls id)) ∧
      ∀ call other, other ≠ call.id →
        (((empty medium).run system calls).after system call).answer system (.load other) =
          ((empty medium).run system calls).answer system (.load other)) ∧
    ((∀ call ∈ calls, system.takes (fileName call.id) = true) →
      (empty .memory).answers system calls = (empty .files).answers system calls) := by
  have each (medium : Medium) : (empty medium).answers system calls =
      (Shelf.empty.answers (medium.reach system) calls).map Report.ofExcept :=
    (Holds.empty medium).answers system (storable medium)
  refine ⟨fun medium => ⟨each medium, ?_, ?_⟩, ?_⟩
  · intro id
    have holds := (Holds.empty medium).run system (storable medium)
    rw [answer_load, holds.medium, holds.load]
    cases medium.reach system id <;> rfl
  · exact fun call other => load_after system _
  · intro taken
    rw [each, each, answers_congr fun call among => ?_]
    rw [reach_of_taken (taken call among), reach_of_taken (taken call among)]

/-- Settings are saved, changed and forgotten for tables of which one has a name that must be
encoded. -/
def Call.sample : List Call :=
  [.save "a" { Settings.empty with widths := [(0, 120)] }, .save "b/c" Settings.empty,
    .update "a" fun current =>
      .ok { Settings.empty with widths := (1, 80) :: current.elim [] Settings.widths },
    .load "a", .delete "b/c", .load "b/c"]

/-- The calls give back what was saved last, where names may have 255 bytes. -/
theorem sample_answered :
    (∀ medium : Medium, ∀ settings ∈
      Shelf.empty.allSaved (medium.reach (.limited 255)) Call.sample, settings.Storable) ∧
    (∀ call ∈ Call.sample, (FileSystem.limited 255).takes (fileName call.id) = true) ∧
    (empty .memory).answers (.limited 255) Call.sample =
      (empty .files).answers (.limited 255) Call.sample ∧
    (empty .files).answers (.limited 255) Call.sample = [pure none, pure none,
      pure (some { Settings.empty with widths := [(1, 80), (0, 120)] }),
      pure (some { Settings.empty with widths := [(1, 80), (0, 120)] }), pure none, pure none] := by
  have taken : ∀ call ∈ Call.sample, (FileSystem.limited 255).takes (fileName call.id) = true := by
    have short : ∀ call ∈ Call.sample, 3 * call.id.utf8ByteSize + 5 ≤ 255 := by
      simp only [Call.sample, List.forall_mem_cons, Call.id]
      decide
    exact fun call among => takes_of_short (short call among)
  have storable : ∀ medium : Medium, ∀ settings ∈
      Shelf.empty.allSaved (medium.reach (.limited 255)) Call.sample, settings.Storable := by
    intro medium
    have saved : Shelf.empty.allSaved (medium.reach (.limited 255)) Call.sample =
        [{ Settings.empty with widths := [(0, 120)] }, Settings.empty,
          { Settings.empty with widths := [(1, 80), (0, 120)] }] := by
      cases medium <;> cbv
    rw [saved]
    simp only [List.forall_mem_cons]
    exact ⟨⟨rfl, by decide, by decide⟩, ⟨rfl, by decide, by decide⟩, ⟨rfl, by decide, by decide⟩,
      by simp⟩
  have refines := refines_shelf (.limited 255) Call.sample storable
  exact ⟨storable, taken, refines.2 taken, (refines.2 taken).symm.trans (refines.1 .memory).1⟩

/-- A name of twenty-eight characters each of which is encoded in nine is too long. -/
example : (FileSystem.limited 255).takes
    (fileName (String.ofList (List.replicate 28 '漢'))) = false := by
  decide +kernel

end Store

end Gridbook
