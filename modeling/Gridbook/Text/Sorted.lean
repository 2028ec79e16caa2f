/-! # Sorted names

Names in the order of their code points.
-/

namespace Gridbook.Text

def sorted (names : List String) : List String :=
  names.mergeSort fun a b => !decide (b < a)

theorem sorted_perm (names : List String) : (sorted names).Perm names :=
  List.mergeSort_perm names _

theorem sorted_pairwise (names : List String) : (sorted names).Pairwise (· ≤ ·) := by
  have trans (a b c : String) (h : !decide (b < a)) (k : !decide (c < b)) : !decide (c < a) := by
    simp only [Bool.not_eq_true', decide_eq_false_iff_not, String.not_lt] at h k ⊢
    exact String.le_trans h k
  have total (a b : String) : !decide (b < a) || !decide (a < b) := by
    simp only [Bool.or_eq_true, Bool.not_eq_true', decide_eq_false_iff_not, String.not_lt]
    exact String.le_total a b
  have ordered := List.pairwise_mergeSort trans total names
  exact ordered.imp fun {a b} => by
    simp only [Bool.not_eq_true', decide_eq_false_iff_not, String.not_lt, imp_self]

/-- The order of names depends only on how often each of them stands there. -/
theorem sorted_eq_of_perm {names others : List String} (perm : names.Perm others) :
    sorted names = sorted others := by
  have same := (sorted_perm names).trans (perm.trans (sorted_perm others).symm)
  exact same.eq_of_pairwise (fun _ _ _ _ => String.le_antisymm) (sorted_pairwise names)
    (sorted_pairwise others)

theorem mem_sorted {name : String} {names : List String} : name ∈ sorted names ↔ name ∈ names := by
  simp [sorted, List.mem_mergeSort]

theorem length_sorted (names : List String) : (sorted names).length = names.length := by
  simp [sorted, List.length_mergeSort]

end Gridbook.Text
