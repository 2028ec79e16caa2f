import Gridbook.Proofs.Formula.Reading

/-! # Which column a name stands for

Columns are found under their own names and under their simplified forms alike, and where two keys
are the same the later column has them. So a column may be hidden, even from its own name, by a
later one that simplifies to that name. Any other name stands for the last column that simplifies
to what the name simplifies to.
-/

namespace Gridbook

theorem simplifiedName_simplifiedName (name : String) :
    simplifiedName (simplifiedName name) = simplifiedName name := by
  have each (c : Char) :
      (if (if c.isAlphanum || c == '_' then c else '_').isAlphanum ||
          (if c.isAlphanum || c == '_' then c else '_') == '_'
        then (if c.isAlphanum || c == '_' then c else '_') else '_') =
      if c.isAlphanum || c == '_' then c else '_' := by
    cases kept : c.isAlphanum || c == '_' <;> simp [kept]
  simp only [simplifiedName, String.toList_ofList, List.map_map, Function.comp_def, each]

namespace ColumnLookup

structure Last (passes : String → Prop) (columns : List String) (i : Nat) : Prop where
  passed : ∃ column, columns[i]? = some column ∧ passes column
  none_later : ∀ j column, i < j → columns[j]? = some column → ¬ passes column

namespace Last

variable {passes others : String → Prop} {columns : List String} {i j : Nat}

theorem le_of_passes (last : Last passes columns i) {column : String}
    (here : columns[j]? = some column) (passed : passes column) : j ≤ i := by
  by_contra later
  exact last.none_later j column (by omega) here passed

theorem unique (last : Last passes columns i) (other : Last passes columns j) : i = j := by
  obtain ⟨first, atFirst, passedFirst⟩ := last.passed
  obtain ⟨second, atSecond, passedSecond⟩ := other.passed
  have one := last.le_of_passes atSecond passedSecond
  have two := other.le_of_passes atFirst passedFirst
  omega

theorem congr (same : ∀ column ∈ columns, passes column ↔ others column) :
    Last passes columns i ↔ Last others columns i := by
  constructor
  · rintro ⟨⟨column, here, passed⟩, none_later⟩
    refine ⟨⟨column, here, (same column (List.mem_of_getElem? here)).mp passed⟩, ?_⟩
    intro j later after there passed
    exact none_later j later after there ((same later (List.mem_of_getElem? there)).mpr passed)
  · rintro ⟨⟨column, here, passed⟩, none_later⟩
    refine ⟨⟨column, here, (same column (List.mem_of_getElem? here)).mpr passed⟩, ?_⟩
    intro j later after there passed
    exact none_later j later after there ((same later (List.mem_of_getElem? there)).mp passed)

theorem snoc_of_passes {column : String} (passed : passes column) :
    Last passes (columns ++ [column]) i ↔ i = columns.length := by
  have atEnd : (columns ++ [column])[columns.length]? = some column := by simp
  have last : Last passes (columns ++ [column]) columns.length := by
    refine ⟨⟨column, atEnd, passed⟩, ?_⟩
    intro j other after there
    have inside := (List.getElem?_eq_some_iff.mp there).1
    simp only [List.length_append, List.length_singleton] at inside
    omega
  constructor
  · exact fun found => found.unique last
  · rintro rfl
    exact last

theorem snoc_of_not {column : String} (failed : ¬ passes column) :
    Last passes (columns ++ [column]) i ↔ Last passes columns i := by
  -- The new column is at none of the positions that count.
  have old {k : Nat} {found : String} (passed : passes found) :
      (columns ++ [column])[k]? = some found ↔ columns[k]? = some found := by
    rcases Nat.lt_trichotomy k columns.length with before | rfl | behind
    · rw [List.getElem?_append_left before]
    · have other : column ≠ found := fun same => failed (same ▸ passed)
      simp [other]
    · rw [List.getElem?_eq_none (by simp; omega), List.getElem?_eq_none (by omega)]
  constructor
  · rintro ⟨⟨found, here, passed⟩, none_later⟩
    exact ⟨⟨found, (old passed).mp here, passed⟩,
      fun j later after there passed => none_later j later after ((old passed).mpr there) passed⟩
  · rintro ⟨⟨found, here, passed⟩, none_later⟩
    exact ⟨⟨found, (old passed).mpr here, passed⟩,
      fun j later after there passed => none_later j later after ((old passed).mp there) passed⟩

end Last

/-- A column goes by a key: under its own name or under its simplified form. -/
def GoesBy (key column : String) : Prop :=
  column = key ∨ simplifiedName column = key

theorem goesBy_iff {key column : String} :
    GoesBy key column ↔ (key == simplifiedName column) = true ∨ (key == column) = true := by
  rw [GoesBy, or_comm, beq_iff_eq, beq_iff_eq, eq_comm, @eq_comm _ column]

theorem lookup_entries_iff (columns : List String) (key : String) :
    (∀ i, (ofColumns columns).entries.lookup key = some i ↔ Last (GoesBy key) columns i) ∧
      ((ofColumns columns).entries.lookup key = none ↔
        ∀ column ∈ columns, ¬ GoesBy key column) := by
  induction columns using List.reverseRecOn with
  | nil =>
      have unpassed (i : Nat) : ¬ Last (GoesBy key) [] i := by
        rintro ⟨⟨column, here, -⟩, -⟩
        simp at here
      simp [ofColumns, unpassed]
  | append_singleton columns column ih =>
      obtain ⟨found, missing⟩ := ih
      rw [entries_snoc]
      simp only [List.lookup_cons, List.forall_mem_append, List.forall_mem_singleton]
      by_cases goes : GoesBy key column
      · simp only [Last.snoc_of_passes goes]
        rcases goesBy_iff.mp goes with simplified | own
        · simp [simplified, goes, eq_comm]
        · cases key == simplifiedName column <;> simp [own, goes, eq_comm]
      · simp only [Last.snoc_of_not goes]
        obtain ⟨simplified, own⟩ := not_or.mp (mt goesBy_iff.mpr goes)
        rw [Bool.not_eq_true] at simplified own
        simp only [simplified, own, goes, not_false_eq_true, and_true]
        exact ⟨found, missing⟩

section Names

variable {columns : List String} {name : String}

theorem index?_of_mem (among : name ∈ columns) (k : Nat) :
    (ofColumns columns).index? name = some k ↔ Last (GoesBy name) columns k := by
  obtain ⟨found, missing⟩ := lookup_entries_iff columns name
  rw [← found, index?]
  cases here : (ofColumns columns).entries.lookup name with
  | some i => rfl
  | none => exact absurd (.inl rfl) (missing.mp here name among)

theorem index?_of_not_mem (absent : name ∉ columns) (k : Nat) :
    (ofColumns columns).index? name = some k ↔
      Last (simplifiedName · = simplifiedName name) columns k := by
  obtain ⟨found, -⟩ := lookup_entries_iff columns name
  rw [index?]
  cases here : (ofColumns columns).entries.lookup name with
  | some i =>
      have last := (found i).mp here
      have only : ∀ column ∈ columns, GoesBy name column ↔ simplifiedName column = name := by
        intro column among
        have other : column ≠ name := fun same => absent (same ▸ among)
        simp [GoesBy, other]
      obtain ⟨column, -, simplified⟩ := ((Last.congr only).mp last).passed
      -- A name to which a column simplifies is simplified itself.
      have simple : simplifiedName name = name := by
        rw [← simplified, simplifiedName_simplifiedName]
      rw [simple, ← Last.congr only]
      constructor
      · intro same
        obtain rfl := Option.some.inj same
        exact last
      · exact fun other => congrArg some (last.unique other)
  | none =>
      have only : ∀ column ∈ columns, GoesBy (simplifiedName name) column ↔
          simplifiedName column = simplifiedName name := by
        intro column _
        refine or_iff_right_of_imp ?_
        rintro rfl
        exact simplifiedName_simplifiedName name
      have simplified := (lookup_entries_iff columns (simplifiedName name)).1 k
      rw [← Last.congr only, ← simplified]
      rfl

theorem index?_eq_none_iff : (ofColumns columns).index? name = none ↔
    ∀ column ∈ columns, simplifiedName column ≠ simplifiedName name := by
  have both : (ofColumns columns).index? name = none ↔
      (ofColumns columns).entries.lookup name = none ∧
        (ofColumns columns).entries.lookup (simplifiedName name) = none := by
    rw [index?]
    cases (ofColumns columns).entries.lookup name <;> simp
  rw [both, (lookup_entries_iff columns name).2, (lookup_entries_iff columns _).2]
  constructor
  · exact fun missing column among same => missing.2 column among (.inr same)
  · intro missing
    constructor
    · rintro column among (rfl | same)
      · exact missing column among rfl
      · exact missing column among (by rw [← same, simplifiedName_simplifiedName])
    · rintro column among (rfl | same)
      · exact missing _ among (simplifiedName_simplifiedName name)
      · exact missing column among same

/-- Among different columns, the name of one stands for that column, unless a later one simplifies
to it: then it stands for the last such. Any other name stands for the last column that simplifies
to the same, and for none if there is none. -/
theorem index?_ofColumns_iff (distinct : columns.Nodup) (name : String) :
    (∀ i k, columns[i]? = some name → ((ofColumns columns).index? name = some k ↔
      (k = i ∧ ∀ j column, i < j → columns[j]? = some column → simplifiedName column ≠ name) ∨
        (i < k ∧ Last (simplifiedName · = name) columns k))) ∧
    (name ∉ columns → ∀ k, (ofColumns columns).index? name = some k ↔
      Last (simplifiedName · = simplifiedName name) columns k) ∧
    ((ofColumns columns).index? name = none ↔
      ∀ column ∈ columns, simplifiedName column ≠ simplifiedName name) := by
  refine ⟨?_, fun absent k => index?_of_not_mem absent k, index?_eq_none_iff⟩
  intro i k here
  rw [index?_of_mem (List.mem_of_getElem? here)]
  have once {j : Nat} (there : columns[j]? = some name) : j = i := by
    have inside := (List.getElem?_eq_some_iff.mp here).1
    exact ((List.getElem?_inj inside distinct).mp (here.trans there.symm)).symm
  constructor
  · intro last
    have upto := last.le_of_passes here (.inl rfl)
    have later {j : Nat} {column : String} (after : k < j) (there : columns[j]? = some column) :
        simplifiedName column ≠ name :=
      fun same => last.none_later j column after there (.inr same)
    rcases Nat.eq_or_lt_of_le upto with rfl | behind
    · exact .inl ⟨rfl, fun j column => later⟩
    · obtain ⟨column, found, rfl | simplified⟩ := last.passed
      · exact absurd (once found) (by omega)
      · exact .inr ⟨behind, ⟨column, found, simplified⟩, fun j column => later⟩
  · rintro (⟨rfl, unhidden⟩ | ⟨behind, last⟩)
    · refine ⟨⟨name, here, .inl rfl⟩, ?_⟩
      rintro j column after there (rfl | simplified)
      · exact absurd (once there) (by omega)
      · exact unhidden j column after there simplified
    · obtain ⟨column, found, simplified⟩ := last.passed
      refine ⟨⟨column, found, .inr simplified⟩, ?_⟩
      rintro j column after there (rfl | simplified)
      · exact absurd (once there) (by omega)
      · exact last.none_later j column after there simplified

end Names

/-- A later column takes a name from the column that has it. -/
theorem later_column_hides : ["a_b", "a b"].Nodup ∧ ["a_b", "a b"][0]? = some "a_b" ∧
    (ofColumns ["a_b", "a b"]).index? "a_b" = some 1 := by
  refine ⟨by decide, rfl, by decide +kernel⟩

/-- A name of no column stands for the second of the two columns that simplify to it, and the name
of the first of them for that one. -/
theorem unit_price_found : ["Unit Price", "Qty", "Unit-Price"].Nodup ∧
    (ofColumns ["Unit Price", "Qty", "Unit-Price"]).index? "Unit_Price" = some 2 ∧
      (ofColumns ["Unit Price", "Qty", "Unit-Price"]).index? "Unit Price" = some 0 := by
  have distinct : ["Unit Price", "Qty", "Unit-Price"].Nodup := by decide
  have forms : simplifiedName "Qty" = "Qty" ∧ simplifiedName "Unit-Price" = "Unit_Price" ∧
      simplifiedName "Unit_Price" = "Unit_Price" := by decide +kernel
  refine ⟨distinct, ?_, ?_⟩
  · refine ((index?_ofColumns_iff distinct "Unit_Price").2.1 (by decide) 2).mpr ?_
    refine ⟨⟨"Unit-Price", rfl, by rw [forms.2.1, forms.2.2]⟩, ?_⟩
    intro j column after there
    have inside := (List.getElem?_eq_some_iff.mp there).1
    simp only [List.length_cons, List.length_nil] at inside
    omega
  · refine ((index?_ofColumns_iff distinct "Unit Price").1 0 0 rfl).mpr (.inl ⟨rfl, ?_⟩)
    intro j column after there
    obtain ⟨m, rfl⟩ : ∃ m, j = m + 1 := ⟨j - 1, by omega⟩
    have among : column ∈ ["Qty", "Unit-Price"] := by
      rw [List.getElem?_cons_succ] at there
      exact List.mem_of_getElem? there
    rcases List.mem_cons.mp among with rfl | among
    · simp [forms]
    · obtain rfl := List.mem_singleton.mp among
      simp [forms]

end ColumnLookup

end Gridbook
