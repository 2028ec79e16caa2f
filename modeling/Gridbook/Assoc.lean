/-! # Association lists

Finite maps as lists of entries, for maps whose order is seen. A key stays where it was first
set, and only the first entry of a key counts.
-/

namespace Gridbook.Assoc

variable {κ α : Type} [BEq κ]

/-- Sets the value of a key. A key that is there already keeps its place. -/
def set (key : κ) (value : α) : List (κ × α) → List (κ × α)
  | [] => [(key, value)]
  | (k, old) :: rest => if k == key then (k, value) :: rest else (k, old) :: set key value rest

def drop (key : κ) (entries : List (κ × α)) : List (κ × α) :=
  entries.filter fun entry => entry.1 != key

def has (key : κ) (entries : List (κ × α)) : Bool :=
  (entries.lookup key).isSome

theorem has_iff {key : κ} {entries : List (κ × α)} :
    has key entries = true ↔ ∃ value, entries.lookup key = some value :=
  Option.isSome_iff_exists

variable [LawfulBEq κ]

theorem lookup_set (key other : κ) (value : α) (entries : List (κ × α)) :
    (set key value entries).lookup other =
      if other == key then some value else entries.lookup other := by
  induction entries with
  | nil => cases h : other == key <;> simp [set, List.lookup_cons, h]
  | cons entry rest ih =>
      obtain ⟨k, old⟩ := entry
      by_cases hk : k = key
      · subst hk
        cases h : other == k <;> simp [set, List.lookup_cons, h]
      · by_cases h : other = k
        · subst h
          simp [set, hk]
        · simp [set, List.lookup_cons, hk, beq_false_of_ne h, ih]

theorem lookup_drop (key other : κ) (entries : List (κ × α)) :
    (drop key entries).lookup other =
      if other == key then none else entries.lookup other := by
  induction entries with
  | nil => simp [drop]
  | cons entry rest ih =>
      obtain ⟨k, old⟩ := entry
      have hd : drop key ((k, old) :: rest) =
          if k == key then drop key rest else (k, old) :: drop key rest := by
        by_cases hk : k = key <;> simp [drop, hk]
      rw [hd]
      by_cases hk : k = key
      · by_cases ho : other = key
        · subst ho
          rw [if_pos (by simp [hk]), ih]
          simp
        · simp [hk, ih, List.lookup_cons, beq_false_of_ne ho]
      · by_cases ho : other = k
        · simp [hk, ho]
        · simp [hk, ih, List.lookup_cons, beq_false_of_ne ho]

theorem mem_of_lookup {key : κ} {value : α} {entries : List (κ × α)}
    (found : entries.lookup key = some value) : (key, value) ∈ entries := by
  obtain ⟨before, after, rfl, -⟩ := List.lookup_eq_some_iff.mp found
  simp

theorem set_of_lookup {key : κ} {value : α} {entries : List (κ × α)}
    (found : entries.lookup key = some value) : set key value entries = entries := by
  induction entries with
  | nil => simp at found
  | cons entry rest ih =>
      obtain ⟨k, old⟩ := entry
      by_cases same : k = key
      · subst same
        simp at found
        simp [set, found]
      · rw [List.lookup_cons, beq_false_of_ne (Ne.symm same)] at found
        simp [set, same, ih found]

theorem set_of_fresh {key : κ} {value : α} {entries : List (κ × α)}
    (fresh : key ∉ entries.map Prod.fst) : set key value entries = entries ++ [(key, value)] := by
  induction entries with
  | nil => rfl
  | cons entry rest ih =>
      obtain ⟨k, old⟩ := entry
      rw [List.map_cons, List.mem_cons, not_or] at fresh
      rw [set, if_neg (by simpa using Ne.symm fresh.1), ih fresh.2, List.cons_append]

/-- Setting keys that are all different one by one puts their entries behind the others. -/
theorem foldl_set_of_nodup {before entries : List (κ × α)}
    (distinct : ((before ++ entries).map Prod.fst).Nodup) :
    entries.foldl (fun found entry => set entry.1 entry.2 found) before = before ++ entries := by
  induction entries generalizing before with
  | nil => simp
  | cons entry rest ih =>
      have fresh : entry.1 ∉ before.map Prod.fst := by
        rw [List.map_append, List.map_cons] at distinct
        exact fun among => (List.nodup_append.mp distinct).2.2 _ among _ List.mem_cons_self rfl
      rw [List.foldl_cons, set_of_fresh fresh, ih (by simpa using distinct)]
      simp

theorem mem_of_mem_set {key : κ} {value : α} {entries : List (κ × α)} {entry : κ × α}
    (member : entry ∈ set key value entries) : entry = (key, value) ∨ entry ∈ entries := by
  induction entries with
  | nil => exact .inl (List.mem_singleton.mp member)
  | cons first rest ih =>
      obtain ⟨k, old⟩ := first
      by_cases same : k = key
      · subst same
        rw [set, if_pos (by simp)] at member
        rcases List.mem_cons.mp member with rfl | later
        · exact .inl rfl
        · exact .inr (List.mem_cons_of_mem _ later)
      · rw [set, if_neg (by simpa using same)] at member
        rcases List.mem_cons.mp member with rfl | later
        · exact .inr List.mem_cons_self
        · exact (ih later).imp_right (List.mem_cons_of_mem _)

theorem nodup_keys_set {key : κ} {value : α} {entries : List (κ × α)}
    (distinct : (entries.map Prod.fst).Nodup) :
    ((set key value entries).map Prod.fst).Nodup := by
  induction entries with
  | nil => simp [set]
  | cons first rest ih =>
      obtain ⟨k, old⟩ := first
      obtain ⟨fresh, distinct⟩ := List.nodup_cons.mp distinct
      by_cases same : k = key
      · rw [set, if_pos (by simpa using same)]
        exact List.nodup_cons.mpr ⟨fresh, distinct⟩
      · rw [set, if_neg (by simpa using same)]
        refine List.nodup_cons.mpr ⟨?_, ih distinct⟩
        intro among
        obtain ⟨entry, member, named⟩ := List.mem_map.mp among
        rcases mem_of_mem_set member with rfl | member
        · exact same named.symm
        · exact fresh (List.mem_map.mpr ⟨entry, member, named⟩)

theorem lookup_foldl_set (entries before : List (κ × α)) (key : κ) :
    (entries.foldl (fun found entry => set entry.1 entry.2 found) before).lookup key =
      (entries.reverse ++ before).lookup key := by
  induction entries generalizing before with
  | nil => rfl
  | cons entry rest ih =>
      obtain ⟨k, value⟩ := entry
      rw [List.foldl_cons, ih, List.lookup_append, lookup_set, List.reverse_cons,
        List.append_assoc, List.lookup_append, List.singleton_append, List.lookup_cons]
      cases key == k <;> rfl

theorem lookup_filter (keep : κ → Bool) (key : κ) (entries : List (κ × α)) :
    (entries.filter fun entry => keep entry.1).lookup key =
      if keep key then entries.lookup key else none := by
  induction entries with
  | nil => simp
  | cons entry rest ih =>
      obtain ⟨k, value⟩ := entry
      by_cases same : key = k
      · subst same
        cases kept : keep key <;> simp [kept, ih]
      · cases kept : keep k <;> simp [kept, ih, List.lookup_cons, beq_false_of_ne same]

theorem lookup_map (change : κ → α → β) (key : κ) (entries : List (κ × α)) :
    (entries.map fun entry => (entry.1, change entry.1 entry.2)).lookup key =
      (entries.lookup key).map (change key) := by
  induction entries with
  | nil => rfl
  | cons entry rest ih =>
      obtain ⟨k, value⟩ := entry
      by_cases same : key = k
      · subst same
        simp
      · simp [ih, List.lookup_cons, beq_false_of_ne same]

@[simp] theorem has_set (key other : κ) (value : α) (entries : List (κ × α)) :
    has other (set key value entries) = (other == key || has other entries) := by
  simp only [has, lookup_set]
  cases other == key <;> simp

@[simp] theorem has_drop (key other : κ) (entries : List (κ × α)) :
    has other (drop key entries) = (other != key && has other entries) := by
  simp only [has, lookup_drop, bne]
  cases other == key <;> simp

end Gridbook.Assoc
