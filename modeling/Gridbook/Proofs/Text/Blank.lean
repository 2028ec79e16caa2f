import Mathlib
import Gridbook.Text.Blank

/-! # Text without blanks at its ends

Trimming takes the blanks at both ends and nothing else, so text that neither begins nor ends with a
blank comes back from any padding.
-/

namespace Gridbook.Text

theorem trimChars_eq (s : List Char) :
    trimChars s = (s.dropWhile isBlank).rdropWhile isBlank := rfl

theorem dropWhile_trimChars (s : List Char) : (trimChars s).dropWhile isBlank = trimChars s := by
  obtain ⟨rest, split⟩ := List.rdropWhile_prefix isBlank (s.dropWhile isBlank)
  rw [← trimChars_eq] at split
  have solid := List.dropWhile_idempotent isBlank s
  rw [← split] at solid
  cases trimmed : trimChars s with
  | nil => rfl
  | cons c others =>
      rw [trimmed] at solid
      have first := List.dropWhile_eq_self_iff.mp solid (by simp)
      exact List.dropWhile_eq_self_iff.mpr fun _ => by simpa using first

theorem trimChars_trimChars (s : List Char) : trimChars (trimChars s) = trimChars s := by
  rw [trimChars_eq (trimChars _), dropWhile_trimChars, trimChars_eq, List.rdropWhile_idempotent]

theorem trim_trim (s : String) : trim (trim s) = trim s := by
  rw [trim, trim, String.toList_ofList, trimChars_trimChars]

theorem trimChars_sublist (s : List Char) : (trimChars s).Sublist s := by
  rw [trimChars_eq]
  exact (List.rdropWhile_prefix isBlank _).sublist.trans (List.dropWhile_sublist isBlank)

theorem trimChars_ne_nil {c : Char} (solid : isBlank c = false) (rest : List Char) :
    trimChars (c :: rest) ≠ [] := by
  rw [trimChars_eq, List.dropWhile_cons_of_neg (by simp [solid])]
  intro none
  have blank := List.rdropWhile_eq_nil_iff.mp none c List.mem_cons_self
  rw [solid] at blank
  cases blank

theorem exists_gap_of_trimChars {c : Char} (solid : isBlank c = false) (rest : List Char) :
    ∃ gap, (∀ d ∈ gap, isBlank d = true) ∧ c :: rest = trimChars (c :: rest) ++ gap := by
  refine ⟨(c :: rest).rtakeWhile isBlank, fun d => List.mem_rtakeWhile_imp, ?_⟩
  rw [trimChars_eq, List.dropWhile_cons_of_neg (by simp [solid]), List.rdropWhile_append_rtakeWhile]

theorem trimChars_eq_nil_iff {s : List Char} :
    trimChars s = [] ↔ ∀ c ∈ s, isBlank c = true := by
  rw [trimChars_eq, List.rdropWhile_eq_nil_iff]
  constructor
  · intro each
    refine List.dropWhile_eq_nil_iff.mp ?_
    by_contra some
    obtain ⟨c, rest, shape⟩ := List.exists_cons_of_ne_nil some
    have first := List.head?_dropWhile_not isBlank s
    rw [shape] at first each
    simp_all
  · intro blank c among
    exact blank c ((List.dropWhile_sublist isBlank).subset among)

theorem not_isBlank_of_code {c : Char} (low : 32 < c.toNat) (high : c.toNat < 127) :
    isBlank c = false := by
  have code : c.toNat ∉ blankCodes := by
    simp only [blankCodes, List.mem_cons, List.not_mem_nil, or_false]
    omega
  simp [isBlank, code]

/-- Text that begins and ends with characters that are not blank. -/
structure Solid (s : List Char) : Prop where
  first : ∃ c rest, s = c :: rest ∧ isBlank c = false
  last : ∃ c rest, s = rest ++ [c] ∧ isBlank c = false

namespace Solid

variable {s before after : List Char}

theorem singleton {c : Char} (solid : isBlank c = false) : Solid [c] :=
  ⟨⟨c, [], rfl, solid⟩, ⟨c, [], rfl, solid⟩⟩

theorem of_forall (some : s ≠ []) (each : ∀ c ∈ s, isBlank c = false) : Solid s := by
  constructor
  · obtain ⟨c, rest, rfl⟩ := List.exists_cons_of_ne_nil some
    exact ⟨c, rest, rfl, each c List.mem_cons_self⟩
  · refine ⟨s.getLast some, s.dropLast, (List.dropLast_append_getLast some).symm, ?_⟩
    exact each _ (List.getLast_mem some)

theorem join {s t : List Char} (front : Solid s) (back : Solid t) (between : List Char) :
    Solid (s ++ (between ++ t)) := by
  obtain ⟨c, rest, rfl, solid⟩ := front.first
  obtain ⟨d, others, rfl, solid'⟩ := back.last
  refine ⟨⟨c, rest ++ (between ++ (others ++ [d])), rfl, solid⟩,
    ⟨d, c :: rest ++ (between ++ others), ?_, solid'⟩⟩
  simp

theorem trimChars_pad (solid : Solid s) (blankBefore : ∀ c ∈ before, isBlank c = true)
    (blankAfter : ∀ c ∈ after, isBlank c = true) : trimChars (before ++ (s ++ after)) = s := by
  obtain ⟨c, rest, shape, first⟩ := solid.first
  obtain ⟨d, others, shape', last⟩ := solid.last
  have left : (before ++ (s ++ after)).dropWhile isBlank = s ++ after := by
    rw [List.dropWhile_append_of_pos blankBefore, shape, List.cons_append,
      List.dropWhile_cons_of_neg (by simp [first])]
  have right : (s ++ after).rdropWhile isBlank = s := by
    rw [List.rdropWhile, List.reverse_append,
      List.dropWhile_append_of_pos (by simpa using blankAfter), shape', List.reverse_append,
      List.reverse_singleton, List.singleton_append, List.dropWhile_cons_of_neg (by simp [last])]
    simp
  rw [trimChars_eq, left, right]

theorem trimChars_self (solid : Solid s) : trimChars s = s := by
  have padded := solid.trimChars_pad (List.forall_mem_nil _) (List.forall_mem_nil _)
  rwa [List.nil_append, List.append_nil] at padded

theorem of_trimChars (trimmed : trimChars s = s) (some : s ≠ []) : Solid s := by
  have front : s.dropWhile isBlank = s := by
    rw [← trimmed, dropWhile_trimChars]
  have back : s.rdropWhile isBlank = s := by
    rw [trimChars_eq, front] at trimmed
    exact trimmed
  constructor
  · obtain ⟨c, rest, rfl⟩ := List.exists_cons_of_ne_nil some
    refine ⟨c, rest, rfl, ?_⟩
    by_contra blank
    rw [List.dropWhile_cons_of_pos (by simpa using blank)] at front
    have shorter := (List.dropWhile_sublist isBlank (l := rest)).length_le
    rw [front, List.length_cons] at shorter
    omega
  · refine ⟨s.getLast some, s.dropLast, (List.dropLast_append_getLast some).symm, ?_⟩
    simpa using List.rdropWhile_eq_self_iff.mp back some

end Solid

theorem trimChars_of_forall {s : List Char} (each : ∀ c ∈ s, isBlank c = false) :
    trimChars s = s := by
  by_cases some : s = []
  · rw [some]
    rfl
  · exact (Solid.of_forall some each).trimChars_self

end Gridbook.Text
