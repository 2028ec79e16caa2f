import Gridbook.Proofs.Merge.Composition
import Gridbook.Proofs.Merge.Outcome

/-! # Output names

A join names its columns one after the other, and a name that is taken gets the table's name in
front of it until it stands apart. As each try is longer than the one before and only so many names
are taken, this comes to an end, and no two columns of a result have one name.
-/

namespace Gridbook

namespace Join

variable {join : Join} {left right : JoinSide} {table name label : String} {taken : List String}

/-- A name behind some copies of a table's name. -/
def prefixed (table name : String) : Nat → String
  | 0 => name
  | copies + 1 => table ++ "_" ++ prefixed table name copies

/-- A label is a column's name behind the fewest copies of the table's name that set it apart from
the names that are taken. -/
def Apart (table name : String) (taken : List String) (label : String) : Prop :=
  ∃ copies, label = prefixed table name copies ∧ label ∉ taken ∧
    ∀ fewer < copies, prefixed table name fewer ∈ taken

/-- The labels of columns in order, each of which is set apart from all those before it. A column is
given by its own name and the name of its table. -/
inductive Labelled : List String → List (String × String) → List String → Prop
  | nil {taken : List String} : Labelled taken [] []
  | cons {taken labels : List String} {table name label : String} {rest : List (String × String)}
      (apart : Apart table name taken label) (later : Labelled (taken ++ [label]) rest labels) :
      Labelled taken ((table, name) :: rest) (label :: labels)

/-- The columns that a join takes over, with the names of their tables. -/
def selection (join : Join) (left right : JoinSide) : List (String × String) :=
  ((join.fromLeft left).map fun name => (left.name, name)) ++
    (join.fromRight right).map fun name => (right.name, name)

theorem prefixed_again (table name : String) (copies : Nat) :
    prefixed table (table ++ "_" ++ name) copies = prefixed table name (copies + 1) := by
  induction copies with
  | zero => rfl
  | succ copies ih => exact congrArg (table ++ "_" ++ ·) ih

/-- Each copy makes a name longer by the table's name and an underscore. -/
theorem length_prefixed (table name : String) (copies : Nat) :
    (prefixed table name copies).length = name.length + copies * (table.length + 1) := by
  induction copies with
  | zero => simp [prefixed]
  | succ copies ih =>
      have one : "_".length = 1 := rfl
      rw [prefixed, String.length_append, String.length_append, ih, one, Nat.succ_mul]
      omega

theorem prefixed_ne (table name : String) (copies : Nat) :
    prefixed table name (copies + 1) ≠ name := by
  intro same
  have longer := length_prefixed table name (copies + 1)
  rw [same, Nat.succ_mul] at longer
  omega

/-- The search for a free name finds the one with the fewest copies. A name that was tried may be
left out of the search, since all later ones are longer. -/
theorem outputName_apart (table : String) (taken : List String) (name : String) :
    Apart table name taken (outputName table taken name) := by
  fun_induction outputName table taken name with
  | case1 taken name tried ih =>
      obtain ⟨copies, found, free, fewest⟩ := ih
      rw [prefixed_again] at found
      refine ⟨copies + 1, found, ?_, ?_⟩
      · intro member
        have other : outputName table (taken.erase name) (table ++ "_" ++ name) ≠ name := by
          rw [found]
          exact prefixed_ne table name copies
        exact free ((List.mem_erase_of_ne other).mpr member)
      · intro fewer less
        cases fewer with
        | zero => exact tried
        | succ fewer =>
            rw [← prefixed_again]
            exact List.mem_of_mem_erase (fewest fewer (by omega))
  | case2 taken name free =>
      exact ⟨0, rfl, free, fun fewer less => absurd less (Nat.not_lt_zero fewer)⟩

namespace Labelled

variable {rest more : List (String × String)} {labels others : List String}

theorem outputNames (table : String) (taken names : List String) :
    Labelled taken (names.map fun name => (table, name)) (outputNames table taken names) := by
  induction names generalizing taken with
  | nil => exact .nil
  | cons name rest ih => exact .cons (outputName_apart table taken name) (ih _)

theorem append (first : Labelled taken rest labels) (second : Labelled (taken ++ labels) more others) :
    Labelled taken (rest ++ more) (labels ++ others) := by
  induction first with
  | nil => simpa using second
  | cons apart _ ih => exact .cons apart (ih (by simpa using second))

theorem distinct (labelled : Labelled taken rest labels) :
    labels.Nodup ∧ ∀ label ∈ labels, label ∉ taken := by
  induction labelled with
  | nil => simp
  | @cons taken labels table name label rest apart _ ih =>
      obtain ⟨nodup, free⟩ := ih
      obtain ⟨copies, -, new, -⟩ := apart
      constructor
      · apply List.nodup_cons.mpr ⟨?_, nodup⟩
        intro again
        exact free label again (by simp)
      · intro other member old
        rcases List.mem_cons.mp member with rfl | member
        · exact new old
        · exact free other member (List.mem_append_left _ old)

end Labelled

theorem labels_labelled (join : Join) (left right : JoinSide) :
    Labelled [] (join.selection left right) (join.labels left right) := by
  apply Labelled.append (Labelled.outputNames left.name [] (join.fromLeft left))
  exact Labelled.outputNames right.name _ (join.fromRight right)

end Join

namespace Merge

theorem joined_columns_nodup {merge : Merge} {sources : List (String × Source)} {found : Source}
    (joined : merge.joined sources = .ok found) : found.columns.Nodup := by
  obtain ⟨side, ran, -, columns, -⟩ := joined_ok_iff.mp joined
  obtain ⟨left, -, stepped⟩ := bind_ok_iff.mp ran
  rw [columns]
  refine foldlM_ok_of_step (P := fun side => side.columns.Nodup) ?_ stepped
  intro before join side stepped
  obtain ⟨right, -, stepped⟩ := bind_ok_iff.mp stepped
  obtain ⟨⟨columns, rows⟩, ran, stepped⟩ := bind_ok_iff.mp stepped
  cases stepped
  obtain ⟨-, rfl, -⟩ := Join.run_eq_ok_iff.mp ran
  exact (join.labels_labelled before _).distinct.1

/-- A merge gets to inference, with columns of different names, unless something is missing. -/
theorem run_cases (merge : Merge) (inference : Inference) (sources : List (String × Source)) :
    (∃ found, merge.joined sources = .ok found ∧ found.columns.Nodup ∧
      merge.run inference sources = Table.ofSource inference found) ∨
    ∃ fault, fault.Missing ∧ merge.run inference sources = .error fault := by
  cases joined : merge.joined sources with
  | ok found =>
      refine .inl ⟨found, rfl, joined_columns_nodup joined, ?_⟩
      rw [run, joined]
      rfl
  | error fault =>
      refine .inr ⟨fault, joined_fault joined, ?_⟩
      rw [run, joined]
      rfl

end Merge

namespace Join

variable {join : Join} {left right : JoinSide}

/-- A join of even sides that have its columns comes to an end: its columns are those that it takes
over in order, each under its own name behind the fewest copies of its table's name that set it
apart from the names before it, so that all names are different, and every row has a cell for each
of them. A merge of any length therefore never stops because a row has too few or too many cells. -/
theorem columns_set_apart (leftEven : left.Even) (rightEven : right.Even)
    (leftKnown : ∀ name ∈ join.leftKey :: join.fromLeft left, name ∈ left.columns)
    (rightKnown : ∀ name ∈ join.rightKey :: join.fromRight right, name ∈ right.columns) :
    (∃ columns rows, join.run left right = .ok (columns, rows) ∧ columns.Nodup ∧
      Labelled [] (join.selection left right) columns ∧ Rectangular columns rows) ∧
    ∀ (merge : Merge) (inference : Inference) (sources : List (String × Source)),
      (∃ found, merge.joined sources = .ok found ∧ found.columns.Nodup ∧
        merge.run inference sources = Table.ofSource inference found) ∨
      ∃ fault, fault.Missing ∧ merge.run inference sources = .error fault := by
  have finds := finds_of_even leftEven rightEven leftKnown rightKnown
  have ran : join.run left right = .ok (join.labels left right, _) :=
    run_eq_ok_iff.mpr ⟨finds, rfl, rfl⟩
  have labelled := join.labels_labelled left right
  exact ⟨⟨_, _, ran, labelled.distinct.1, labelled, run_even ran⟩, Merge.run_cases⟩

/-- A stock of items, one column of which is named as if a join had renamed it. -/
def stock : JoinSide where
  name := "s"
  columns := ["item", "s_item"]
  rows := [[.text "pen", .int 3], [.text "ink", .int 4]]

def prices : JoinSide where
  name := ""
  columns := ["item", "_item"]
  rows := [[.text "pen", .int 5]]

/-- Takes the item over twice from the left and everything from the right. -/
def stockWithPrices : Join :=
  ⟨some "stock", "prices", "item", "item", .left, none, none, some ["item", "item", "s_item"], none⟩

/-- A name that was made free pushes the next one on, and an empty table name still sets apart. -/
theorem stock_set_apart : stock.Even ∧ prices.Even ∧ ∃ rows,
    stockWithPrices.run stock prices =
      .ok (["item", "s_item", "s_s_item", "_item", "__item"], rows) ∧
    Labelled [] [("s", "item"), ("s", "item"), ("s", "s_item"), ("", "item"), ("", "_item")]
      ["item", "s_item", "s_s_item", "_item", "__item"] ∧ ∀ row ∈ rows, row.length = 5 := by
  have leftEven : stock.Even := by decide
  have rightEven : prices.Even := by decide
  obtain ⟨⟨columns, rows, ran, -, labelled, even⟩, -⟩ :=
    @columns_set_apart stockWithPrices _ _ leftEven rightEven (by decide) (by decide)
  have known : stockWithPrices.run stock prices =
      .ok (["item", "s_item", "s_s_item", "_item", "__item"],
        [[.text "pen", .text "pen", .int 3, .text "pen", .int 5],
          [.text "ink", .text "ink", .int 4, .null, .null]]) := by decide +kernel
  cases ran.symm.trans known
  exact ⟨leftEven, rightEven, _, known, labelled, even⟩

end Join

end Gridbook
