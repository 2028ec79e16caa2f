import Gridbook.Formula.Evaluation
import Gridbook.Proofs.Escape
import Gridbook.Proofs.Number.Width
import Gridbook.Proofs.Text.Length

/-! # Cells at which nothing fails

A value whose integer is in the range of doubles has a number, or none, and a text wherever one is
asked for. Only the length of texts has no such bound of its own, so that it is counted.
-/

namespace Gridbook

namespace Cell

/-- A value that is no error, and in the range of doubles if it is an integer. -/
structure Tame (c : Cell) : Prop where
  value : c.isError = false
  inRange : ∀ n, c = .int n → (Double.ofInt? n).isSome = true

def width (c : Cell) : Nat :=
  match c.formulaText with
  | .ok s => s.length
  | .error _ => 0

variable {a b c : Cell}

theorem isFinite_of_finite? {x y : Double} (same : finite? x = some y) : y.isFinite = true := by
  unfold finite? at same
  split at same
  case isTrue finite => exact Option.some.inj same ▸ finite
  case isFalse => cases same

theorem isFinite_of_readNumber? {s : String} {x : Double} (read : readNumber? s = some x) :
    x.isFinite = true := by
  unfold readNumber? at read
  split at read
  case h_1 =>
    obtain ⟨finite, same⟩ := Option.ite_none_right_eq_some.mp read
    exact Option.some.inj same ▸ finite
  case h_2 => cases read

theorem isFinite_of_number? {x : Double} (number : c.number? = .ok (some x)) :
    x.isFinite = true := by
  cases c with
  | bool b =>
      cases number
      cases b <;> decide
  | int n =>
      simp only [Cell.number?, intNumber] at number
      split at number
      case h_1 y nearest =>
        cases number
        exact Double.isFinite_of_ofInt? nearest
      case h_2 => cases number
  | float y => exact isFinite_of_finite? (Except.ok.inj number)
  | text s => exact isFinite_of_readNumber? (Except.ok.inj number)
  | null | date | moment | error => cases number

theorem not_isError_of_number? {x : Double} (number : c.number? = .ok (some x)) :
    c.isError = false := by
  cases c with
  | error => cases number
  | null | bool | int | float | text | date | moment => rfl

theorem Tame.bool (truth : Bool) : Tame (.bool truth) := ⟨rfl, by simp⟩

theorem Tame.text (s : String) : Tame (.text s) := ⟨rfl, by simp⟩

theorem Tame.float (x : Double) : Tame (.float x) := ⟨rfl, by simp⟩

theorem Tame.int {n : Int} (inRange : (Double.ofInt? n).isSome = true) : Tame (.int n) :=
  ⟨rfl, by simpa using inRange⟩

theorem Tame.number? (tame : c.Tame) : ∃ x?, c.number? = .ok x? := by
  cases c with
  | int n =>
      obtain ⟨x, here⟩ := Option.isSome_iff_exists.mp (tame.inRange n rfl)
      exact ⟨some x, by simp [Cell.number?, intNumber, here, bind, Except.bind, pure, Except.pure]⟩
  | null | bool | text | float | date | moment | error => exact ⟨_, rfl⟩

theorem plain_int {n : Int} (small : n.natAbs.log2 < 1024) : (int n).plain = .ok (intDigits n) := by
  have digits := digitCount_le_log2 n.natAbs
  have fits : digitCount n.natAbs ≤ Json.maxIntegerDigits := by
    rw [Json.maxIntegerDigits]
    omega
  simp [plain, text?, intText?, fits]

theorem Tame.plain (tame : c.Tame) : ∃ s, c.plain = .ok s := by
  cases c with
  | int n => exact ⟨_, plain_int (Double.log2_lt_of_ofInt? (tame.inRange n rfl))⟩
  | null | bool | text | float | date | moment | error => exact ⟨_, rfl⟩

/-- A double that is an integer is written as that integer, any other as a decimal. -/
theorem formulaText_float (x : Double) :
    (∃ n, n.natAbs.log2 < 1024 ∧ (float x).formulaText = .ok (intDigits n)) ∨
      (float x).formulaText = .ok x.text := by
  cases whole : x.toInt? with
  | some n =>
      have small := Double.log2_lt_of_toInt? whole
      exact .inl ⟨n, small, by simp [formulaText, whole, plain_int small]⟩
  | none => exact .inr (by simp [formulaText, whole, plain, text?])

theorem Tame.formulaText (tame : c.Tame) : ∃ s, c.formulaText = .ok s ∧ c.width = s.length := by
  have text : ∃ s, c.formulaText = .ok s := by
    cases c with
    | null | bool => exact ⟨_, rfl⟩
    | float x =>
        obtain ⟨n, -, text⟩ | text := formulaText_float x
        · exact ⟨_, text⟩
        · exact ⟨_, text⟩
    | text | int | date | moment | error => exact tame.plain
  obtain ⟨s, here⟩ := text
  exact ⟨s, here, by rw [width, here]⟩

@[simp] theorem width_text (s : String) : (text s).width = s.length := rfl

theorem width_bool (truth : Bool) : (bool truth).width ≤ 5 := by
  cases truth <;> decide

theorem width_int {n : Int} (small : n.natAbs.log2 < 1024) : (int n).width ≤ 4096 := by
  have text : (int n).formulaText = .ok (intDigits n) := plain_int small
  rw [width, text]
  exact length_intDigits_le small

theorem width_float (x : Double) : (float x).width ≤ 4096 := by
  obtain ⟨n, small, text⟩ | text := formulaText_float x
  · rw [width, text]
    exact length_intDigits_le small
  · rw [width, text]
    exact x.length_text_le

theorem Tame.width_le {room : Nat} (tame : c.Tame) (wide : 4096 ≤ room)
    (short : ∀ s, c.text? = some s → s.length ≤ room) : c.width ≤ room := by
  cases c with
  | null => exact Nat.zero_le _
  | bool truth => exact (width_bool truth).trans (by omega)
  | int n => exact (width_int (Double.log2_lt_of_ofInt? (tame.inRange n rfl))).trans wide
  | float x => exact (width_float x).trans wide
  | text | date | moment | error => exact short _ rfl

theorem Tame.comparedText (tame : c.Tame) : ∃ s, Cell.compare.comparedText c = .ok s := by
  obtain ⟨s, text⟩ := tame.plain
  cases c with
  | null => exact ⟨_, rfl⟩
  | bool | int | text | float | date | moment | error =>
      refine ⟨Text.lower s, ?_⟩
      simp [Cell.compare.comparedText, text, bind, Except.bind, pure, Except.pure]

theorem Tame.compare (tame : a.Tame) (tame' : b.Tame) (op : Operator) :
    ∃ truth, a.compare op b = .ok (.bool truth) := by
  have values : [a, b].find? isError = none := by simp [tame.value, tame'.value]
  obtain ⟨x?, first⟩ := tame.number?
  obtain ⟨y?, second⟩ := tame'.number?
  obtain ⟨s, left⟩ := tame.comparedText
  obtain ⟨t, right⟩ := tame'.comparedText
  rw [Cell.compare, values]
  simp only [first, second, left, right, bind, Except.bind]
  cases x? <;> cases y? <;> exact ⟨_, rfl⟩

end Cell

end Gridbook
