import Mathlib
import Gridbook.Cell
import Gridbook.Proofs.Number.Value

/-! # Keys by value

Two cells match as keys when they count as the same value: numbers count by what they are whatever
their kind, so that one, the double one and the truth value one are one key, and nothing is a key of
its own. Only errors and not-a-number have no value of this kind.
-/

namespace Gridbook

/-- What a cell counts as when rows are matched by it. -/
inductive KeyValue where
  | nothing
  | number (x : Extended)
  | text (s : String)
  | date (d : Date)
  /-- A moment by its microseconds, in universal time if it is fixed on earth. -/
  | moment (fixed : Bool) (microseconds : Int)
  deriving DecidableEq

/-- Microseconds since the start of year 1, in universal time if the moment is fixed on earth. -/
def Moment.instant (m : Moment) : Int :=
  m.clockMicroseconds - m.offset.getD 0 * 1000000

theorem Moment.same_iff (m n : Moment) :
    m.same n = true ↔ m.offset.isSome = n.offset.isSome ∧ m.instant = n.instant := by
  unfold same instant
  cases m.offset <;> cases n.offset <;> simp

namespace Cell

/-- The number that a cell is, truth values included. -/
def extended? : Cell → Option Extended
  | .bool b => some (.rational (if b then 1 else 0))
  | .int n => some (.rational n)
  | .float x => x.extended?
  | _ => none

/-- What a cell counts as; errors and not-a-number have no such value. -/
def keyValue? : Cell → Option KeyValue
  | .null => some .nothing
  | .text s => some (.text s)
  | .date d => some (.date d)
  | .moment m => some (.moment m.offset.isSome m.instant)
  | .error _ => none
  | c => c.extended?.map .number

variable {a b : Cell} {v w : KeyValue}

/-- A cell by which rows can be matched: a value as it is delivered, and not not-a-number. -/
def IsKey (c : Cell) : Prop :=
  c.isError = false ∧ c ≠ .float .nan

instance (c : Cell) : Decidable c.IsKey :=
  inferInstanceAs (Decidable (c.isError = false ∧ c ≠ .float .nan))

theorem IsKey.counts (key : a.IsKey) : ∃ v, a.keyValue? = some v := by
  cases a with
  | float x =>
      cases x with
      | nan => exact absurd rfl key.2
      | infinite | finite => exact ⟨_, rfl⟩
  | error => cases key.1
  | null | bool | text | int | date | moment => exact ⟨_, rfl⟩

theorem extended?_cases {p : Extended} (is : a.extended? = some p) :
    (∃ n, a.integer? = some n ∧ p = .rational n) ∨ ∃ x, a = .float x ∧ x.extended? = some p := by
  cases a with
  | bool truth =>
      cases is
      refine .inl ⟨_, rfl, ?_⟩
      cases truth <;> rfl
  | int n =>
      cases is
      exact .inl ⟨n, rfl, rfl⟩
  | float x => exact .inr ⟨x, rfl, is⟩
  | null | text | date | moment | error => cases is

theorem matchesKey_integers {m n : Int} (first : a.integer? = some m)
    (second : b.integer? = some n) : a.matchesKey b = (m == n) := by
  cases a <;> cases b <;> simp_all [matchesKey, integer?]

theorem matchesKey_integer_float {m : Int} (first : a.integer? = some m) (y : Double) :
    a.matchesKey (.float y) = (y.toInt? == some m) := by
  cases a <;> simp_all [matchesKey, integer?, double?]

theorem matchesKey_float_integer {n : Int} (x : Double) (second : b.integer? = some n) :
    matchesKey (.float x) b = (x.toInt? == some n) := by
  cases b <;> simp_all [matchesKey, integer?, double?]

theorem matchesKey_numbers {p q : Extended} (first : a.extended? = some p)
    (second : b.extended? = some q) : a.matchesKey b = true ↔ p = q := by
  obtain ⟨m, left, rfl⟩ | ⟨x, rfl, left⟩ := extended?_cases first
  · obtain ⟨n, right, rfl⟩ | ⟨y, rfl, right⟩ := extended?_cases second
    · simp [matchesKey_integers left right]
    · rw [matchesKey_integer_float left, beq_iff_eq, Double.toInt?_iff_extended right, eq_comm]
  · obtain ⟨n, right, rfl⟩ | ⟨y, rfl, right⟩ := extended?_cases second
    · rw [matchesKey_float_integer x right, beq_iff_eq, Double.toInt?_iff_extended left]
    · simp only [matchesKey, integer?, double?, beq_iff_eq, Double.compare?_eq_iff left right]

theorem keyValue?_of_extended {p : Extended} (is : a.extended? = some p) :
    a.keyValue? = some (.number p) := by
  cases a with
  | bool | int | float => rw [keyValue?, is, Option.map_some] <;> simp
  | null | text | date | moment | error => cases is

theorem kinds_of_extended (none : a.extended? = none) (counts : a.keyValue? = some v) :
    (a = .null ∧ v = .nothing) ∨ (∃ s, a = .text s ∧ v = .text s) ∨
      (∃ d, a = .date d ∧ v = .date d) ∨
      ∃ m, a = .moment m ∧ v = .moment m.offset.isSome m.instant := by
  cases a with
  | bool | int => cases none
  | float x => simp [keyValue?, none] at counts
  | error => cases counts
  | null | text | date | moment =>
      cases counts
      simp

theorem matchesKey_number_other {p : Extended} (first : a.extended? = some p)
    (none : b.extended? = none) (second : b.keyValue? = some w) :
    a.matchesKey b = false ∧ b.matchesKey a = false ∧ w ≠ .number p := by
  obtain ⟨rfl, rfl⟩ | ⟨s, rfl, rfl⟩ | ⟨d, rfl, rfl⟩ | ⟨m, rfl, rfl⟩ :=
    kinds_of_extended none second
  all_goals
    obtain ⟨n, integer, -⟩ | ⟨x, rfl, -⟩ := extended?_cases first
    · cases a <;> simp_all [matchesKey, integer?, double?]
    · simp [matchesKey, integer?, double?]

theorem matchesKey_iff (first : a.keyValue? = some v) (second : b.keyValue? = some w) :
    a.matchesKey b = true ↔ v = w := by
  cases left : a.extended? with
  | some p =>
      cases first.symm.trans (keyValue?_of_extended left)
      cases right : b.extended? with
      | some q =>
          cases second.symm.trans (keyValue?_of_extended right)
          simp [matchesKey_numbers left right]
      | none =>
          obtain ⟨apart, -, other⟩ := matchesKey_number_other left right second
          simp [apart, other.symm]
  | none =>
      cases right : b.extended? with
      | some q =>
          cases second.symm.trans (keyValue?_of_extended right)
          obtain ⟨-, apart, other⟩ := matchesKey_number_other right left first
          simp [apart, other]
      | none =>
          obtain ⟨rfl, rfl⟩ | ⟨s, rfl, rfl⟩ | ⟨d, rfl, rfl⟩ | ⟨m, rfl, rfl⟩ :=
            kinds_of_extended left first
          all_goals
            obtain ⟨rfl, rfl⟩ | ⟨s', rfl, rfl⟩ | ⟨d', rfl, rfl⟩ | ⟨m', rfl, rfl⟩ :=
              kinds_of_extended right second
            all_goals simp [matchesKey, integer?, double?, Moment.same_iff]

theorem IsKey.matchesKey_iff (first : a.IsKey) (second : b.IsKey) :
    a.matchesKey b = true ↔ a.keyValue? = b.keyValue? := by
  obtain ⟨v, left⟩ := first.counts
  obtain ⟨w, right⟩ := second.counts
  rw [Cell.matchesKey_iff left right, left, right, Option.some.injEq]

end Cell

end Gridbook
