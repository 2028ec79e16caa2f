import Gridbook.Proofs.Column.Inference
import Gridbook.Proofs.Number.Range

/-! # What the type of a column depends on

Inference looks at the first values that are not blank and at nothing else. Two orders of the same
values never have different types, but one of them may have none: every order has a type exactly if
there is no value at which a pass can stop.
-/

namespace Gridbook

section Passes

variable {test : α → Except Fault Bool} {items : List α}

theorem allM_eq_true_iff : items.allM test = .ok true ↔ ∀ a ∈ items, test a = .ok true := by
  induction items with
  | nil => simp [List.allM, pure, Except.pure]
  | cons first rest ih =>
      rw [List.allM, bind_ok_iff, List.forall_mem_cons, ← ih]
      constructor
      · rintro ⟨passes, tested, later⟩
        cases passes with
        | false => cases later
        | true => exact ⟨tested, later⟩
      · rintro ⟨tested, later⟩
        exact ⟨true, tested, later⟩

theorem allM_ok {passes : Bool} (finished : items.allM test = .ok passes) :
    passes = true ↔ ∀ a ∈ items, test a = .ok true := by
  rw [← allM_eq_true_iff, finished, Except.ok.injEq]

theorem allM_eq_false (finishes : ¬ Stops (fun _ => True) (items.allM test))
    (other : ¬ ∀ a ∈ items, test a = .ok true) : items.allM test = .ok false := by
  obtain ⟨passes, finished⟩ := Stops.exists_ok_iff.mpr finishes
  cases passes with
  | false => exact finished
  | true => exact absurd (allM_eq_true_iff.mp finished) other

end Passes

/-- Whether a cell counts for the type of its column. -/
def Cell.isFilled (c : Cell) : Bool := !c.isEmpty

namespace ColumnType

variable {thisYear : Nat} {cells others : List Cell} {type : ColumnType}

/-- The type of a sample, the first that fits, without regard to the order of its values. -/
def classify (thisYear : Nat) (cells : List Cell) : ColumnType :=
  if cells = [] then .text
  else if ∀ c ∈ cells, c.looksNumeric = .ok true then
    if ∃ c ∈ cells, c.bearsCurrencySign = true then .currency else .number
  else if ∀ c ∈ cells, c.looksBoolean = .ok true then .boolean
  else if ∀ c ∈ cells, c.looksDate thisYear = .ok true then .date
  else .text

theorem classify_perm (perm : others.Perm cells) :
    classify thisYear others = classify thisYear cells := by
  have empty : others = [] ↔ cells = [] := by
    rw [← List.length_eq_zero_iff, perm.length_eq, List.length_eq_zero_iff]
  simp only [classify, empty, perm.mem_iff]

theorem ofSample_eq_classify (typed : ofSample thisYear cells = .ok type) :
    type = classify thisYear cells := by
  unfold ofSample at typed
  split at typed
  case isTrue none =>
    cases typed
    rw [classify, if_pos (by simpa using none)]
  case isFalse some =>
    rw [classify, if_neg (by simpa using some)]
    obtain ⟨numeric, pass, typed⟩ := bind_ok_iff.mp typed
    simp only [← allM_ok pass]
    cases numeric with
    | true =>
        cases typed
        simp
    | false =>
        obtain ⟨truth, pass, typed⟩ := bind_ok_iff.mp typed
        simp only [← allM_ok pass]
        cases truth with
        | true =>
            cases typed
            rfl
        | false =>
            obtain ⟨date, pass, typed⟩ := bind_ok_iff.mp typed
            simp only [← allM_ok pass]
            cases date <;>
              · cases typed
                rfl

/-- No value is one at which a pass can stop, whatever the values in front of it. -/
structure Steady (thisYear : Nat) (cells : List Cell) : Prop where
  inRange : ∀ n, Cell.int n ∈ cells → (Double.ofInt? n).isSome = true
  readable : (∀ c ∈ cells, c.looksNumeric = .ok true) ∨ (∀ c ∈ cells, c.looksBoolean = .ok true) ∨
    ∀ s, Cell.text s ∈ cells → ∃ date, Date.ofText thisYear s = .ok date

theorem Steady.perm (perm : others.Perm cells) (steady : Steady thisYear cells) :
    Steady thisYear others := by
  obtain ⟨inRange, readable⟩ := steady
  simp only [← perm.mem_iff] at inRange readable
  exact ⟨inRange, readable⟩

theorem digitCount_le_of_inRange {n : Int} (inRange : (Double.ofInt? n).isSome = true) :
    digitCount n.natAbs ≤ Json.maxIntegerDigits := by
  have bits := Double.log2_lt_of_ofInt? inRange
  have digits := digitCount_le_log2 n.natAbs
  rw [Json.maxIntegerDigits]
  omega

theorem Steady.typed (steady : Steady thisYear cells) :
    ∃ type, ofSample thisYear cells = .ok type := by
  by_contra failed
  obtain ⟨before, n, after, rfl, -, beyond⟩ | ⟨-, before, n, after, rfl, -, long⟩ |
    ⟨numbers, truths, before, s, after, refusal, rfl, -, read⟩ := ofSample_fails_iff.mp failed
  · have inRange := steady.inRange n (by simp)
    rw [beyond] at inRange
    cases inRange
  · have short := digitCount_le_of_inRange (steady.inRange n (by simp))
    omega
  · obtain all | all | dates := steady.readable
    · rw [allM_eq_true_iff.mpr all] at numbers
      cases numbers
    · rw [allM_eq_true_iff.mpr all] at truths
      cases truths
    · obtain ⟨date, found⟩ := dates s (by simp)
      rw [read] at found
      cases found

/-- A sample has a type in every order exactly if there is no value at which a pass can stop. -/
theorem typed_in_every_order_iff :
    (∀ others, others.Perm cells → ∃ type, ofSample thisYear others = .ok type) ↔
      Steady thisYear cells := by
  constructor
  · intro each
    have inRange : ∀ n, Cell.int n ∈ cells → (Double.ofInt? n).isSome = true := by
      intro n among
      by_contra beyond
      have first := each (.int n :: cells.erase (.int n)) (List.perm_cons_erase among).symm
      refine ofSample_fails_iff.mpr (.inl ?_) first
      exact ⟨[], n, _, rfl, by simp, by simpa using beyond⟩
    refine ⟨inRange, ?_⟩
    by_contra unreadable
    simp only [not_or] at unreadable
    obtain ⟨numbers, truths, dates⟩ := unreadable
    obtain ⟨s, among, unread⟩ :
        ∃ s, Cell.text s ∈ cells ∧ ¬ ∃ date, Date.ofText thisYear s = .ok date := by
      simpa using dates
    obtain ⟨refusal, read⟩ : ∃ refusal, Date.ofText thisYear s = .error refusal := by
      cases found : Date.ofText thisYear s with
      | error refusal => exact ⟨refusal, rfl⟩
      | ok date => exact absurd ⟨date, found⟩ unread
    -- With that text in front, two passes fail and the third stops at once.
    have perm := (List.perm_cons_erase among).symm
    have typed := Stops.exists_ok_iff.mp (each _ perm)
    simp only [← perm.mem_iff] at numbers truths
    rw [ofSample_stops_iff, not_or] at typed
    have noNumbers := allM_eq_false typed.1 numbers
    have noTruths := allM_eq_false (fun stops => typed.2 ⟨noNumbers, .inl stops⟩) truths
    refine typed.2 ⟨noNumbers, .inr ⟨noTruths, dates_stop_iff.mpr ?_⟩⟩
    exact ⟨[], s, _, refusal, rfl, by simp, read, trivial⟩
  · intro steady others perm
    exact (steady.perm perm).typed

/-- The first values of a column that count, so many at most. -/
def leading (count : Nat) (cells : List Cell) : List Cell :=
  (cells.filter Cell.isFilled).take count

theorem sample_eq_leading {sampleSize : Int} (positive : 1 ≤ sampleSize) (cells : List Cell) :
    sample sampleSize cells = leading sampleSize.toNat cells := by
  have size : max 1 sampleSize.toNat = sampleSize.toNat := by omega
  rw [sample, size]
  rfl

theorem leading_blank (count : Nat) {blank : Cell} (empty : blank.isEmpty = true)
    (before after : List Cell) :
    leading count (before ++ blank :: after) = leading count (before ++ after) := by
  have passed : blank.isFilled = false := by rw [Cell.isFilled, empty, Bool.not_true]
  simp [leading, passed]

theorem leading_perm {count : Nat} (few : cells.countP Cell.isFilled ≤ count)
    (perm : others.Perm cells) : (leading count others).Perm (leading count cells) := by
  have counted := perm.countP_eq Cell.isFilled
  rw [List.countP_eq_length_filter] at few
  rw [List.countP_eq_length_filter, List.countP_eq_length_filter] at counted
  rw [leading, leading, List.take_of_length_le few, List.take_of_length_le (counted.trans_le few)]
  exact perm.filter Cell.isFilled

/-- Every order of the values that count is an order of the leading values of the column. -/
theorem exists_perm_leading {count : Nat} (few : cells.countP Cell.isFilled ≤ count)
    (perm : others.Perm (leading count cells)) :
    ∃ column : List Cell, column.Perm cells ∧ leading count column = others := by
  rw [List.countP_eq_length_filter] at few
  rw [leading, List.take_of_length_le few] at perm
  refine ⟨others ++ cells.filter fun c => !c.isFilled, ?_, ?_⟩
  · exact (perm.append_right _).trans (List.filter_append_perm Cell.isFilled cells)
  · have filled : others.filter Cell.isFilled = others :=
      List.filter_eq_self.mpr fun c among => List.of_mem_filter (perm.mem_iff.mp among)
    have short : others.length ≤ count := perm.length_eq.trans_le few
    simp [leading, List.filter_append, filled, short]

/-- The type of a column depends on its first values that are not blank, and only while inference
comes through them: on nothing behind them, on no blank among them, and on their order not at all if
they are all there are and no value is one at which a pass can stop. -/
theorem infer_settled {inference : Inference} (positive : 1 ≤ inference.sampleSize)
    (cells : List Cell) :
    ((∃ type, infer inference cells = .ok type) ↔
        ¬ BeyondNumbers (leading inference.sampleSize.toNat cells) ∧
        ¬ BeyondTruths (leading inference.sampleSize.toNat cells) ∧
        ¬ BeyondDates inference.thisYear (leading inference.sampleSize.toNat cells)) ∧
      (∀ type, infer inference cells = .ok type →
        type = classify inference.thisYear (leading inference.sampleSize.toNat cells)) ∧
      (∀ others,
        leading inference.sampleSize.toNat others = leading inference.sampleSize.toNat cells →
        infer inference others = infer inference cells) ∧
      (∀ before blank after, cells = before ++ blank :: after → blank.isEmpty = true →
        infer inference (before ++ after) = infer inference cells) ∧
      (cells.countP Cell.isFilled ≤ inference.sampleSize.toNat →
        (∀ others, others.Perm cells → ∀ type type', infer inference cells = .ok type →
          infer inference others = .ok type' → type' = type) ∧
        ((∃ type, ∀ others, others.Perm cells → infer inference others = .ok type) ↔
          Steady inference.thisYear (leading inference.sampleSize.toNat cells))) := by
  have sampled (column : List Cell) : infer inference column =
      ofSample inference.thisYear (leading inference.sampleSize.toNat column) := by
    rw [infer, sample_eq_leading positive]
  simp only [sampled]
  refine ⟨?_, fun type => ofSample_eq_classify, fun others same => by rw [same], ?_, fun few => ?_⟩
  · rw [← not_iff_not, ofSample_fails_iff]
    tauto
  · rintro before blank after rfl empty
    rw [leading_blank _ empty]
  · refine ⟨?_, ?_⟩
    · intro others perm type type' here there
      rw [ofSample_eq_classify here, ofSample_eq_classify there]
      exact classify_perm (leading_perm few perm)
    · rw [← typed_in_every_order_iff]
      constructor
      · rintro ⟨type, each⟩ others perm
        obtain ⟨column, perm', rfl⟩ := exists_perm_leading few perm
        exact ⟨type, each column perm'⟩
      · intro each
        refine ⟨classify inference.thisYear (leading inference.sampleSize.toNat cells), ?_⟩
        intro others perm
        have perm' := leading_perm few perm
        obtain ⟨type, typed⟩ := each _ perm'
        rw [typed, ofSample_eq_classify typed, classify_perm perm']

/-- Blanks count for nothing, and a price makes the column a currency wherever it stands. -/
theorem price_among_blanks_settled :
    1 ≤ (⟨3, 2025⟩ : Inference).sampleSize ∧
      ∀ others, others.Perm [.text "", .int 7, .null, .text "$5"] →
        infer ⟨3, 2025⟩ others = .ok .currency := by
  have positive : 1 ≤ (⟨3, 2025⟩ : Inference).sampleSize := by decide
  have settled := infer_settled positive [.text "", .int 7, .null, .text "$5"]
  obtain ⟨-, -, -, -, ordered⟩ := settled
  obtain ⟨-, every⟩ := ordered (by decide +kernel)
  have steady : Steady 2025 [.int 7, .text "$5"] := by
    refine ⟨fun n among => ?_, .inl (by decide +kernel)⟩
    obtain rfl : n = 7 := by simpa using among
    decide +kernel
  obtain ⟨type, typed⟩ := every.mpr steady
  obtain rfl : ColumnType.currency = type := by
    have here := typed _ (.refl _)
    have shown : infer ⟨3, 2025⟩ [.text "", .int 7, .null, .text "$5"] = .ok .currency := by
      decide +kernel
    exact Except.ok.inj (shown.symm.trans here)
  exact ⟨positive, typed⟩

/-- An integer beyond the doubles stops inference, unless something in front of it has already
settled that not all values are numbers. -/
theorem vast_integer_stops :
    infer ⟨10, 2025⟩ [.int (10 ^ 400)] = .error .integerBeyondDouble ∧
      infer ⟨10, 2025⟩ [.text "x", .int (10 ^ 400)] = .ok .text ∧
      infer ⟨10, 2025⟩ [.int (10 ^ 400), .text "x"] = .error .integerBeyondDouble := by
  decide +kernel

end ColumnType

end Gridbook
