import Mathlib
import Gridbook.Text.Blank
import Gridbook.Text.Case

/-! # How long text gets

Upper case takes no more than three characters for one, lower case no more than two, and a run of
blanks gives way to no more than one space.
-/

namespace Gridbook.Text

theorem length_flatMap_le {α β : Type} {f : α → List β} {k : Nat} (each : ∀ a, (f a).length ≤ k)
    (items : List α) : (items.flatMap f).length ≤ k * items.length := by
  induction items with
  | nil => simp
  | cons first rest ih =>
      rw [List.flatMap_cons, List.length_append, List.length_cons, Nat.mul_add_one]
      have here := each first
      omega

theorem length_upperSequences : ∀ entry ∈ upperSequences, entry.2.length ≤ 3 := by
  decide +kernel

theorem length_upperOf (c : Char) : (upperOf c).length ≤ 3 := by
  unfold upperOf
  split
  · simp
  · split
    case h_1 codes found =>
      obtain ⟨before, after, shape, -⟩ := List.lookup_eq_some_iff.mp found
      rw [List.length_map]
      exact length_upperSequences (c.toNat, codes) (by simp [shape])
    case h_2 => simp

theorem length_upper (s : String) : (upper s).length ≤ 3 * s.length := by
  rw [upper, String.length_ofList]
  exact length_flatMap_le length_upperOf s.toList

theorem length_lowerOf (c : Char) : (lowerOf c).length ≤ 2 := by
  unfold lowerOf
  split
  · simp
  · split <;> simp

theorem length_lowerAfter (before s : List Char) : (lowerAfter before s).length ≤ 2 * s.length := by
  induction s generalizing before with
  | nil => simp [lowerAfter]
  | cons c rest ih =>
      have later := ih (c :: before)
      have here := length_lowerOf c
      rw [lowerAfter, List.length_append, List.length_cons]
      split
      · rw [List.length_singleton]
        omega
      · omega

theorem length_lower (s : String) : (lower s).length ≤ 2 * s.length := by
  rw [lower, String.length_ofList]
  exact length_lowerAfter [] s.toList

theorem length_flatten_intersperse {α : Type} (separator : α) (items : List (List α)) :
    (items.intersperse [separator]).flatten.length ≤ items.flatten.length + items.length := by
  induction items with
  | nil => simp
  | cons first rest ih =>
      cases rest with
      | nil => simp
      | cons second others =>
          rw [List.intersperse_cons_cons]
          simp only [List.flatten_cons, List.length_append, List.length_cons, List.length_nil]
            at ih ⊢
          omega

theorem length_le_flatten {α : Type} {items : List (List α)} (filled : ∀ item ∈ items, item ≠ []) :
    items.length ≤ items.flatten.length := by
  induction items with
  | nil => simp
  | cons first rest ih =>
      obtain ⟨here, later⟩ := List.forall_mem_cons.mp filled
      have some := List.length_pos_iff.mpr here
      rw [List.flatten_cons, List.length_append, List.length_cons]
      have others := ih later
      omega

theorem length_squeeze (s : String) : (squeeze s).length ≤ 2 * s.length := by
  have filled : ∀ word ∈ words s.toList, word ≠ [] := by
    rintro word among rfl
    cases (List.mem_filter.mp among).2
  have kept : (words s.toList).flatten.length ≤ s.toList.length := by
    have whole := List.flatten_splitBy (fun a b => isBlank a == isBlank b) s.toList
    conv_rhs => rw [← whole]
    exact (List.filter_sublist.flatten).length_le
  have gaps := length_flatten_intersperse ' ' (words s.toList)
  have few := length_le_flatten filled
  rw [squeeze, String.length_ofList]
  rw [String.length_toList] at kept
  omega

end Gridbook.Text
