import Gridbook.Proofs.Escape
import Gridbook.Table

/-! # Where inference stops

Guessing the type of a column goes through the sample up to three times. It stops with a fault
that nobody catches at an integer beyond the doubles that only numbers precede, and at a text with
too long a number that only dates precede. Every other cell is dealt with.
-/

namespace Gridbook

namespace Cell

variable {thisYear : Nat} {kind : Fault → Prop} {c : Cell}

theorem looksNumeric_stops_iff :
    Stops kind c.looksNumeric ↔
      ∃ n, c = .int n ∧ Double.ofInt? n = none ∧ kind .integerBeyondDouble := by
  cases c with
  | int n =>
      simp only [looksNumeric, intNumber, Stops.bind]
      cases known : Double.ofInt? n <;> simp [known]
  | null | bool | text | float | date | moment | error => simp [looksNumeric]

theorem looksBoolean_stops_iff :
    Stops kind c.looksBoolean ↔
      ∃ n, c = .int n ∧ Json.maxIntegerDigits < digitCount n.natAbs ∧ kind .integerTooLong := by
  have plain : Stops kind c.looksBoolean ↔ c.text? = none ∧ kind .integerTooLong := by
    simp only [looksBoolean, token, Cell.plain, Stops.bind]
    cases c.text? <;> simp
  rw [plain]
  cases c with
  | int n => simp [text?, intText?]
  | null | bool | text | float | date | moment | error => simp [text?]

theorem looksDate_stops_iff :
    Stops kind (c.looksDate thisYear) ↔
      ∃ s refusal, c = .text s ∧ Date.ofText thisYear s = .error refusal ∧
        kind (.decimal refusal) := by
  cases c with
  | text s =>
      simp only [looksDate]
      cases read : Date.ofText thisYear s <;> simp [read]
  | null | bool | int | float | date | moment | error => simp [looksDate]

end Cell

namespace ColumnType

variable {thisYear : Nat} {kind : Fault → Prop} {cells : List Cell}

/-- An integer beyond the doubles stands behind nothing but numbers. -/
def BeyondNumbers (cells : List Cell) : Prop :=
  ∃ before n after, cells = before ++ .int n :: after ∧
    (∀ c ∈ before, c.looksNumeric = .ok true) ∧ Double.ofInt? n = none

/-- Not all cells are numbers, and an integer that is too long to be written out stands behind
nothing but truth values. -/
def BeyondTruths (cells : List Cell) : Prop :=
  cells.allM Cell.looksNumeric = .ok false ∧
    ∃ before n after, cells = before ++ .int n :: after ∧
      (∀ c ∈ before, c.looksBoolean = .ok true) ∧ Json.maxIntegerDigits < digitCount n.natAbs

/-- Not all cells are numbers and not all are truth values, and a text that is too long a number
for a date stands behind nothing but dates. -/
def BeyondDates (thisYear : Nat) (cells : List Cell) : Prop :=
  cells.allM Cell.looksNumeric = .ok false ∧ cells.allM Cell.looksBoolean = .ok false ∧
    ∃ before s after refusal, cells = before ++ .text s :: after ∧
      (∀ c ∈ before, c.looksDate thisYear = .ok true) ∧ Date.ofText thisYear s = .error refusal

theorem numbers_stop_iff :
    Stops kind (cells.allM Cell.looksNumeric) ↔
      BeyondNumbers cells ∧ kind .integerBeyondDouble := by
  simp only [Stops.allM, Cell.looksNumeric_stops_iff]
  constructor
  · rintro ⟨before, c, after, shape, numbers, n, rfl, beyond, of_kind⟩
    exact ⟨⟨before, n, after, shape, numbers, beyond⟩, of_kind⟩
  · rintro ⟨⟨before, n, after, shape, numbers, beyond⟩, of_kind⟩
    exact ⟨before, .int n, after, shape, numbers, n, rfl, beyond, of_kind⟩

theorem truths_stop_iff :
    cells.allM Cell.looksNumeric = .ok false ∧ Stops kind (cells.allM Cell.looksBoolean) ↔
      BeyondTruths cells ∧ kind .integerTooLong := by
  rw [BeyondTruths, and_assoc]
  refine and_congr_right fun _ => ?_
  simp only [Stops.allM, Cell.looksBoolean_stops_iff]
  constructor
  · rintro ⟨before, c, after, shape, truths, n, rfl, long, of_kind⟩
    exact ⟨⟨before, n, after, shape, truths, long⟩, of_kind⟩
  · rintro ⟨⟨before, n, after, shape, truths, long⟩, of_kind⟩
    exact ⟨before, .int n, after, shape, truths, n, rfl, long, of_kind⟩

theorem dates_stop_iff :
    Stops kind (cells.allM (Cell.looksDate thisYear)) ↔
      ∃ before s after refusal, cells = before ++ .text s :: after ∧
        (∀ c ∈ before, c.looksDate thisYear = .ok true) ∧ Date.ofText thisYear s = .error refusal ∧
          kind (.decimal refusal) := by
  simp only [Stops.allM, Cell.looksDate_stops_iff]
  constructor
  · rintro ⟨before, c, after, shape, dates, s, refusal, rfl, read, of_kind⟩
    exact ⟨before, s, after, refusal, shape, dates, read, of_kind⟩
  · rintro ⟨before, s, after, refusal, shape, dates, read, of_kind⟩
    exact ⟨before, .text s, after, shape, dates, s, refusal, rfl, read, of_kind⟩

/-- Inference stops on one of its passes. Each is made only if the one before it has failed. -/
theorem ofSample_stops_iff :
    Stops kind (ofSample thisYear cells) ↔
      Stops kind (cells.allM Cell.looksNumeric) ∨
        cells.allM Cell.looksNumeric = .ok false ∧
          (Stops kind (cells.allM Cell.looksBoolean) ∨
            cells.allM Cell.looksBoolean = .ok false ∧
              Stops kind (cells.allM (Cell.looksDate thisYear))) := by
  unfold ofSample
  cases cells with
  | nil => simp
  | cons first rest =>
      rw [if_neg (by simp), Stops.bind]
      refine or_congr_right ?_
      constructor
      · rintro ⟨numeric, numbers, later⟩
        cases numeric with
        | true => simp at later
        | false =>
            rw [if_neg (by simp), Stops.bind] at later
            refine ⟨numbers, later.imp_right ?_⟩
            rintro ⟨truth, truths, later⟩
            cases truth with
            | true => simp at later
            | false =>
                rw [if_neg (by simp), Stops.bind] at later
                refine ⟨truths, later.resolve_right ?_⟩
                rintro ⟨date, -, later⟩
                cases date <;> simp at later
      · rintro ⟨numbers, later⟩
        refine ⟨false, numbers, ?_⟩
        rw [if_neg (by simp), Stops.bind]
        refine later.imp_right ?_
        rintro ⟨truths, dates⟩
        refine ⟨false, truths, ?_⟩
        rw [if_neg (by simp), Stops.bind]
        exact .inl dates

theorem ofSample_escapes_iff :
    Escapes (ofSample thisYear cells) ↔ BeyondNumbers cells ∨ BeyondDates thisYear cells := by
  change Stops (fun fault => fault.isConfined = false) (ofSample thisYear cells) ↔ _
  rw [ofSample_stops_iff, numbers_stop_iff, and_or_left, truths_stop_iff, dates_stop_iff,
    BeyondDates]
  simp [Fault.isConfined]

/-- Inference gives a type unless it comes to an integer that is too large for a number or too long
to be written out, or to a text with too long a number. -/
theorem ofSample_fails_iff :
    (¬ ∃ type, ofSample thisYear cells = .ok type) ↔
      BeyondNumbers cells ∨ BeyondTruths cells ∨ BeyondDates thisYear cells := by
  rw [Stops.exists_ok_iff, Classical.not_not, ofSample_stops_iff, numbers_stop_iff, and_or_left,
    truths_stop_iff, dates_stop_iff, BeyondDates]
  simp

theorem infer_escapes_iff {inference : Inference} :
    Escapes (infer inference cells) ↔
      BeyondNumbers (sample inference.sampleSize cells) ∨
        BeyondDates inference.thisYear (sample inference.sampleSize cells) :=
  ofSample_escapes_iff

end ColumnType

namespace Source

/-- Inference comes through every column. -/
def Inferable (source : Source) (inference : Inference) : Prop :=
  ∀ i < source.columns.length, ∀ cells,
    ColumnType.sample inference.sampleSize (source.column i) = cells →
    ¬ ColumnType.BeyondNumbers cells ∧ ¬ ColumnType.BeyondTruths cells ∧
      ¬ ColumnType.BeyondDates inference.thisYear cells

/-- Inference stops with a fault that escapes at a column that it comes to. -/
def Untypable (source : Source) (inference : Inference) : Prop :=
  ∃ i < source.columns.length,
    (∀ j < i, ∃ type, ColumnType.infer inference (source.column j) = .ok type) ∧
      (ColumnType.BeyondNumbers (ColumnType.sample inference.sampleSize (source.column i)) ∨
        ColumnType.BeyondDates inference.thisYear
          (ColumnType.sample inference.sampleSize (source.column i)))

end Source

namespace Table

theorem inferInfo_escapes_iff {inference : Inference} {source : Source} {start : Nat}
    {names : List String} :
    Escapes (inferInfo inference source start names) ↔
      ∃ k < names.length,
        (∀ j < k, ∃ type, ColumnType.infer inference (source.column (start + j)) = .ok type) ∧
          Escapes (ColumnType.infer inference (source.column (start + k))) := by
  induction names generalizing start with
  | nil => simp [inferInfo]
  | cons name rest ih =>
      rw [inferInfo, Escapes.bind]
      simp only [Escapes.bind, Escapes.pure, and_false, exists_false, or_false, ih]
      constructor
      · rintro (here | ⟨type, typed, k, inside, earlier, there⟩)
        · exact ⟨0, by simp, by simp, here⟩
        · refine ⟨k + 1, by simpa using inside, ?_, ?_⟩
          · intro j before
            cases j with
            | zero => exact ⟨type, typed⟩
            | succ j =>
                have := earlier j (by omega)
                rwa [Nat.add_right_comm] at this
          · rwa [Nat.add_right_comm] at there
      · rintro ⟨k, inside, earlier, there⟩
        cases k with
        | zero => exact .inl there
        | succ k =>
            obtain ⟨type, typed⟩ := earlier 0 (by omega)
            refine .inr ⟨type, typed, k, by simpa using inside, ?_, ?_⟩
            · intro j before
              have := earlier (j + 1) (by omega)
              rwa [Nat.add_right_comm]
            · rwa [Nat.add_right_comm]

theorem ofSource_escapes_iff {inference : Inference} {source : Source} :
    Escapes (ofSource inference source) ↔ source.Untypable inference := by
  have inferred : Escapes (ofSource inference source) ↔
      Escapes (inferInfo inference source 0 source.columns) := by
    unfold ofSource
    split <;> rename_i found
    · simp [found]
    · simp [found]
  rw [inferred, inferInfo_escapes_iff]
  simp only [Nat.zero_add, ColumnType.infer_escapes_iff]
  rfl

theorem inferInfo_ok_iff {inference : Inference} {source : Source} {start : Nat}
    {names : List String} :
    (∃ info, inferInfo inference source start names = .ok info) ↔
      ∀ k < names.length, ∃ type,
        ColumnType.infer inference (source.column (start + k)) = .ok type := by
  induction names generalizing start with
  | nil => simp [inferInfo]
  | cons name rest ih =>
      have step : (∃ info, inferInfo inference source start (name :: rest) = .ok info) ↔
          (∃ type, ColumnType.infer inference (source.column start) = .ok type) ∧
            ∃ info, inferInfo inference source (start + 1) rest = .ok info := by
        rw [inferInfo]
        cases ColumnType.infer inference (source.column start) <;>
          cases inferInfo inference source (start + 1) rest <;>
            simp [bind, Except.bind, pure, Except.pure]
      rw [step, ih]
      constructor
      · rintro ⟨here, later⟩ k inside
        cases k with
        | zero => exact here
        | succ k =>
            rw [Nat.add_comm k 1, ← Nat.add_assoc]
            exact later k (Nat.lt_of_succ_lt_succ inside)
      · intro each
        refine ⟨each 0 (Nat.succ_pos _), fun k inside => ?_⟩
        rw [Nat.add_assoc, Nat.add_comm 1 k]
        exact each (k + 1) (Nat.succ_lt_succ inside)

theorem ofSource_frame {inference : Inference} {source : Source} {table : Table}
    (made : ofSource inference source = .ok table) :
    table.columns = source.columns ∧ table.rows = source.rows := by
  unfold ofSource at made
  split at made
  · cases made
    exact ⟨rfl, rfl⟩
  · cases made

/-- A source has a view without settings exactly if inference comes through its columns. -/
theorem ofSource_ok_iff {inference : Inference} {source : Source} :
    (∃ table, ofSource inference source = .ok table) ↔ source.Inferable inference := by
  have inferred : (∃ table, ofSource inference source = .ok table) ↔
      ∃ info, inferInfo inference source 0 source.columns = .ok info := by
    unfold ofSource
    split <;> rename_i found <;> simp [found]
  rw [inferred, inferInfo_ok_iff, Source.Inferable]
  refine forall_congr' fun i => imp_congr_right fun _ => ?_
  rw [Nat.zero_add, forall_eq', ColumnType.infer, ← not_or, ← not_or,
    ← ColumnType.ofSample_fails_iff, Classical.not_not]

end Table

end Gridbook
