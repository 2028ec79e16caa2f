import Gridbook.Notice

/-! # Where computations stop

A computation that stops with a fault of some kind is followed to the step at which the fault
arises, and one that succeeds to its steps. The kind may be any.
-/

namespace Gridbook

theorem bind_ok_iff {ε : Type} {x : Except ε α} {f : α → Except ε β} {b : β} :
    x >>= f = .ok b ↔ ∃ a, x = .ok a ∧ f a = .ok b := by
  cases x with
  | error fault => simp [bind, Except.bind]
  | ok a => simp [bind, Except.bind]

theorem report_bind_ok_iff {r : Report α} {f : α → Report β} {b : β} :
    (r >>= f).outcome = .ok b ↔ ∃ a, r.outcome = .ok a ∧ (f a).outcome = .ok b := by
  obtain ⟨notices, outcome⟩ := r
  cases outcome with
  | error fault => simp [bind]
  | ok a => simp [bind]

theorem mapM_ok_cons {f : α → Except Fault β} {first : α} {rest : List α} {values : List β}
    (passed : (first :: rest).mapM f = .ok values) :
    ∃ value others, f first = .ok value ∧ rest.mapM f = .ok others ∧ values = value :: others := by
  rw [List.mapM_cons, bind_ok_iff] at passed
  obtain ⟨value, here, passed⟩ := passed
  obtain ⟨others, later, passed⟩ := bind_ok_iff.mp passed
  cases passed
  exact ⟨value, others, here, later, rfl⟩

theorem mapM_ok_length {f : α → Except Fault β} {items : List α} {values : List β}
    (passed : items.mapM f = .ok values) : values.length = items.length := by
  induction items generalizing values with
  | nil =>
      cases passed
      rfl
  | cons first rest ih =>
      obtain ⟨value, others, -, later, rfl⟩ := mapM_ok_cons passed
      simp [ih later]

theorem mapM_ok_mem {f : α → Except Fault β} {items : List α} {values : List β}
    (passed : items.mapM f = .ok values) {value : β} (member : value ∈ values) :
    ∃ item ∈ items, f item = .ok value := by
  induction items generalizing values with
  | nil =>
      cases passed
      cases member
  | cons first rest ih =>
      obtain ⟨now, others, here, later, rfl⟩ := mapM_ok_cons passed
      rcases List.mem_cons.mp member with rfl | member
      · exact ⟨first, List.mem_cons_self, here⟩
      · obtain ⟨item, among, found⟩ := ih later member
        exact ⟨item, List.mem_cons_of_mem first among, found⟩

theorem mapM_ok_map {f : α → Except Fault β} {g : α → β} {items : List α}
    (each : ∀ item ∈ items, f item = .ok (g item)) : items.mapM f = .ok (items.map g) := by
  induction items with
  | nil => rfl
  | cons first rest ih =>
      obtain ⟨here, later⟩ := List.forall_mem_cons.mp each
      rw [List.mapM_cons, here, ih later]
      rfl

theorem mapM_ok_each {f : α → Except Fault β} {items : List α} {values : List β}
    (passed : items.mapM f = .ok values) : ∀ item ∈ items, ∃ value, f item = .ok value := by
  induction items generalizing values with
  | nil => simp
  | cons first rest ih =>
      obtain ⟨value, others, here, later, rfl⟩ := mapM_ok_cons passed
      exact List.forall_mem_cons.mpr ⟨⟨value, here⟩, ih later⟩

/-- A pass whose steps have a result under a condition, and then a known one, has one under all the
conditions. -/
theorem mapM_ok_iff {f : α → Except Fault β} {P : α → Prop} {g : α → β} {items : List α}
    (each : ∀ a ∈ items, ∀ b, f a = .ok b ↔ P a ∧ b = g a) {values : List β} :
    items.mapM f = .ok values ↔ (∀ a ∈ items, P a) ∧ values = items.map g := by
  constructor
  · intro passed
    have known : ∀ a ∈ items, P a := by
      intro a member
      obtain ⟨b, found⟩ := mapM_ok_each passed a member
      exact ((each a member b).mp found).1
    have mapped := mapM_ok_map fun a member => (each a member (g a)).mpr ⟨known a member, rfl⟩
    exact ⟨known, Except.ok.inj (passed.symm.trans mapped)⟩
  · rintro ⟨known, rfl⟩
    exact mapM_ok_map fun a member => (each a member (g a)).mpr ⟨known a member, rfl⟩

theorem mapM_map_ok {α : Type} (values : List α) :
    (values.map (Except.ok : α → Except Fault α)).mapM id = .ok values := by
  rw [List.mapM_map]
  exact (mapM_ok_map (g := id) fun _ _ => rfl).trans (congrArg Except.ok (List.map_id values))

/-- A pass whose steps agree up to a change of their values agrees up to that change. -/
theorem mapM_map_of {f : α → Except Fault β} {g : α → Except Fault γ} {h : β → γ} {items : List α}
    (each : ∀ a ∈ items, g a = h <$> f a) : items.mapM g = List.map h <$> items.mapM f := by
  induction items with
  | nil => rfl
  | cons first rest ih =>
      rw [List.forall_mem_cons] at each
      rw [List.mapM_cons, List.mapM_cons, each.1, ih each.2]
      cases f first with
      | error fault => rfl
      | ok value => cases rest.mapM f <;> rfl

theorem foldlM_ok_mem {step : β → α → Except Fault β} {items : List α} {start result : β}
    (passed : items.foldlM step start = .ok result) {item : α} (member : item ∈ items) :
    ∃ before after, step before item = .ok after := by
  induction items generalizing start with
  | nil => cases member
  | cons first rest ih =>
      rw [List.foldlM_cons, bind_ok_iff] at passed
      obtain ⟨next, stepped, passed⟩ := passed
      rcases List.mem_cons.mp member with rfl | member
      · exact ⟨start, next, stepped⟩
      · exact ih passed member

theorem foldlM_ok_of_step {step : β → α → Except Fault β} {P : β → Prop}
    (each : ∀ b a c, step b a = .ok c → P c) {first : α} {rest : List α} {start result : β}
    (passed : (first :: rest).foldlM step start = .ok result) : P result := by
  induction rest generalizing first start with
  | nil =>
      rw [List.foldlM_cons, bind_ok_iff] at passed
      obtain ⟨next, stepped, passed⟩ := passed
      cases passed
      exact each _ _ _ stepped
  | cons second rest ih =>
      rw [List.foldlM_cons, bind_ok_iff] at passed
      obtain ⟨next, -, passed⟩ := passed
      exact ih passed

/-- A computation stops with a fault of some kind. -/
def Stops (kind : Fault → Prop) (outcome : Except Fault α) : Prop :=
  ∃ fault, outcome = .error fault ∧ kind fault

namespace Stops

variable {kind : Fault → Prop}

@[simp] theorem ok (a : α) : ¬ Stops kind (.ok a : Except Fault α) := by
  rintro ⟨fault, stopped, -⟩
  cases stopped

@[simp] theorem pure (a : α) : ¬ Stops kind (Pure.pure a : Except Fault α) := ok a

@[simp] theorem error {fault : Fault} :
    Stops kind (.error fault : Except Fault α) ↔ kind fault := by
  constructor
  · rintro ⟨other, stopped, of_kind⟩
    cases stopped
    exact of_kind
  · intro of_kind
    exact ⟨fault, rfl, of_kind⟩

theorem bind {x : Except Fault α} {f : α → Except Fault β} :
    Stops kind (x >>= f) ↔ Stops kind x ∨ ∃ a, x = .ok a ∧ Stops kind (f a) := by
  cases x with
  | error fault => simp [Bind.bind, Except.bind]
  | ok a => simp [Bind.bind, Except.bind]

theorem not_bind {x : Except Fault α} {f : α → Except Fault β} (first : ¬ Stops kind x)
    (later : ∀ a, x = .ok a → ¬ Stops kind (f a)) : ¬ Stops kind (x >>= f) := by
  rw [bind]
  rintro (here | ⟨a, passed, there⟩)
  · exact first here
  · exact later a passed there

@[simp] theorem map {x : Except Fault α} {f : α → β} : Stops kind (f <$> x) ↔ Stops kind x := by
  cases x <;> simp [Functor.map, Except.map]

theorem mapM {f : α → Except Fault β} {items : List α} :
    Stops kind (items.mapM f) ↔ ∃ before a after, items = before ++ a :: after ∧
      (∀ b ∈ before, ∃ value, f b = .ok value) ∧ Stops kind (f a) := by
  induction items with
  | nil => simp
  | cons first rest ih =>
      rw [List.mapM_cons, bind]
      simp only [bind, pure, and_false, exists_false, or_false, ih]
      constructor
      · rintro (here | ⟨value, passed, before, a, after, rfl, earlier, there⟩)
        · exact ⟨[], first, rest, rfl, by simp, here⟩
        · refine ⟨first :: before, a, after, rfl, ?_, there⟩
          intro b member
          rcases List.mem_cons.mp member with rfl | member
          · exact ⟨value, passed⟩
          · exact earlier b member
      · rintro ⟨before, a, after, shape, earlier, there⟩
        cases before with
        | nil =>
            cases shape
            exact .inl there
        | cons b before =>
            cases shape
            obtain ⟨value, passed⟩ := earlier first List.mem_cons_self
            refine .inr ⟨value, passed, before, a, after, rfl, ?_, there⟩
            exact fun b member => earlier b (List.mem_cons_of_mem _ member)

theorem not_mapM {f : α → Except Fault β} {items : List α}
    (each : ∀ a ∈ items, ¬ Stops kind (f a)) : ¬ Stops kind (items.mapM f) := by
  rw [mapM]
  rintro ⟨before, a, after, rfl, -, here⟩
  exact each a (List.mem_append_right before List.mem_cons_self) here

theorem allM {test : α → Except Fault Bool} {items : List α} :
    Stops kind (items.allM test) ↔ ∃ before a after, items = before ++ a :: after ∧
      (∀ b ∈ before, test b = .ok true) ∧ Stops kind (test a) := by
  induction items with
  | nil => simp [List.allM]
  | cons first rest ih =>
      rw [List.allM, bind]
      constructor
      · rintro (here | ⟨passes, tested, later⟩)
        · exact ⟨[], first, rest, rfl, by simp, here⟩
        · cases passes with
          | false => simp at later
          | true =>
              obtain ⟨before, a, after, rfl, earlier, there⟩ := ih.mp later
              refine ⟨first :: before, a, after, rfl, ?_, there⟩
              intro b member
              rcases List.mem_cons.mp member with rfl | member
              · exact tested
              · exact earlier b member
      · rintro ⟨before, a, after, shape, earlier, there⟩
        cases before with
        | nil =>
            cases shape
            exact .inl there
        | cons b before =>
            cases shape
            refine .inr ⟨true, earlier first List.mem_cons_self, ih.mpr ?_⟩
            refine ⟨before, a, after, rfl, ?_, there⟩
            exact fun b member => earlier b (List.mem_cons_of_mem _ member)

theorem exists_ok_iff {x : Except Fault α} : (∃ a, x = .ok a) ↔ ¬ Stops (fun _ => True) x := by
  cases x <;> simp

theorem exists_mapM_ok {f : α → Except Fault β} {items : List α}
    (each : ∀ a ∈ items, ∃ value, f a = .ok value) : ∃ values, items.mapM f = .ok values :=
  exists_ok_iff.mpr (not_mapM fun a member => exists_ok_iff.mp (each a member))

theorem not_foldlM {step : β → α → Except Fault β} {items : List α} {P : β → Prop} {start : β}
    (holds : P start) (kept : ∀ b a c, a ∈ items → P b → step b a = .ok c → P c)
    (each : ∀ b a, a ∈ items → P b → ¬ Stops kind (step b a)) :
    ¬ Stops kind (items.foldlM step start) := by
  induction items generalizing start with
  | nil => simp
  | cons first rest ih =>
      rw [List.foldlM_cons, bind]
      rintro (here | ⟨next, stepped, later⟩)
      · exact each start first List.mem_cons_self holds here
      · refine ih (kept start first next List.mem_cons_self holds stepped) ?_ ?_ later
        · exact fun b a c member => kept b a c (List.mem_cons_of_mem _ member)
        · exact fun b a member => each b a (List.mem_cons_of_mem _ member)

theorem report_bind {r : Report α} {f : α → Report β} :
    Stops kind (r >>= f).outcome ↔
      Stops kind r.outcome ∨ ∃ a, r.outcome = .ok a ∧ Stops kind (f a).outcome := by
  obtain ⟨notices, outcome⟩ := r
  cases outcome with
  | error fault => simp [Bind.bind]
  | ok a => simp [Bind.bind]

@[simp] theorem report_pure (a : α) : ¬ Stops kind (Pure.pure a : Report α).outcome := ok a

@[simp] theorem report_map {r : Report α} {f : α → β} :
    Stops kind (f <$> r).outcome ↔ Stops kind r.outcome := by
  rw [map_eq_pure_bind, report_bind]
  refine or_iff_left ?_
  rintro ⟨a, -, there⟩
  exact ok (f a) there

theorem report_not_bind {r : Report α} {f : α → Report β} (first : ¬ Stops kind r.outcome)
    (later : ∀ a, ¬ Stops kind (f a).outcome) : ¬ Stops kind (r >>= f).outcome := by
  rw [report_bind]
  rintro (here | ⟨a, -, there⟩)
  · exact first here
  · exact later a there

theorem report_not_mapM {f : α → Report β} (items : List α)
    (each : ∀ a, ¬ Stops kind (f a).outcome) : ¬ Stops kind (items.mapM f).outcome := by
  induction items with
  | nil => exact ok []
  | cons first rest ih =>
      rw [List.mapM_cons]
      refine report_not_bind (each first) fun _ => ?_
      exact report_not_bind ih fun _ => report_pure _

theorem report_not_foldlM {step : β → α → Report β} (items : List α)
    (each : ∀ b a, ¬ Stops kind (step b a).outcome) (start : β) :
    ¬ Stops kind (items.foldlM step start).outcome := by
  induction items generalizing start with
  | nil => exact ok start
  | cons first rest ih =>
      rw [List.foldlM_cons]
      exact report_not_bind (each start first) ih

@[simp] theorem report_note (notice : Notice) : ¬ Stops kind (Report.note notice).outcome := ok ()

@[simp] theorem report_fail {fault : Fault} :
    Stops kind (Report.fail fault : Report α).outcome ↔ kind fault := error

end Stops

end Gridbook
