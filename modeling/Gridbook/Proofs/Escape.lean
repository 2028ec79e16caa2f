import Gridbook.Proofs.Stopping

/-! # Faults that escape

A fault that is not confined to the table on which it arises ends whatever runs there. The rules for
all kinds of faults hold for this one.
-/

namespace Gridbook

/-- A computation stops with a fault that is not confined to its table. -/
def Escapes (outcome : Except Fault α) : Prop :=
  ∃ fault, outcome = .error fault ∧ fault.isConfined = false

namespace Escapes

@[simp] theorem ok (a : α) : ¬ Escapes (.ok a : Except Fault α) :=
  Stops.ok a

@[simp] theorem pure (a : α) : ¬ Escapes (Pure.pure a : Except Fault α) :=
  Stops.pure a

@[simp] theorem error {fault : Fault} :
    Escapes (.error fault : Except Fault α) ↔ fault.isConfined = false :=
  Stops.error

theorem bind {x : Except Fault α} {f : α → Except Fault β} :
    Escapes (x >>= f) ↔ Escapes x ∨ ∃ a, x = .ok a ∧ Escapes (f a) :=
  Stops.bind

theorem not_bind {x : Except Fault α} {f : α → Except Fault β} (first : ¬ Escapes x)
    (later : ∀ a, x = .ok a → ¬ Escapes (f a)) : ¬ Escapes (x >>= f) :=
  Stops.not_bind first later

@[simp] theorem map {x : Except Fault α} {f : α → β} : Escapes (f <$> x) ↔ Escapes x :=
  Stops.map

theorem report_bind {r : Report α} {f : α → Report β} :
    Escapes (r >>= f).outcome ↔
      Escapes r.outcome ∨ ∃ a, r.outcome = .ok a ∧ Escapes (f a).outcome :=
  Stops.report_bind

@[simp] theorem report_pure (a : α) : ¬ Escapes (Pure.pure a : Report α).outcome :=
  Stops.report_pure a

@[simp] theorem report_map {r : Report α} {f : α → β} :
    Escapes (f <$> r).outcome ↔ Escapes r.outcome :=
  Stops.report_map

theorem report_not_bind {r : Report α} {f : α → Report β} (first : ¬ Escapes r.outcome)
    (later : ∀ a, ¬ Escapes (f a).outcome) : ¬ Escapes (r >>= f).outcome :=
  Stops.report_not_bind first later

theorem report_not_mapM {f : α → Report β} (items : List α)
    (confined : ∀ a, ¬ Escapes (f a).outcome) : ¬ Escapes (items.mapM f).outcome :=
  Stops.report_not_mapM items confined

theorem report_not_foldlM {step : β → α → Report β} (items : List α)
    (confined : ∀ b a, ¬ Escapes (step b a).outcome) (start : β) :
    ¬ Escapes (items.foldlM step start).outcome :=
  Stops.report_not_foldlM items confined start

@[simp] theorem report_note (notice : Notice) : ¬ Escapes (Report.note notice).outcome :=
  Stops.report_note notice

@[simp] theorem report_fail {fault : Fault} :
    Escapes (Report.fail fault : Report α).outcome ↔ fault.isConfined = false :=
  Stops.report_fail

end Escapes

end Gridbook
