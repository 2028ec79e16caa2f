import Gridbook.Formula.Parser
import Gridbook.Proofs.Formula.Cutting
import Gridbook.Proofs.Number.Digits

/-! # Bare texts

Names of functions stay names of functions in upper case, the digits of an integer stand for that
integer, and what spells no number stands for a column.
-/

namespace Gridbook

namespace Formula

def isWordChar (c : Char) : Bool :=
  c.isAlphanum || c == '_' || c == '.'

theorem isWord_cons {c : Char} {rest : List Char} : isWord (c :: rest) = true ↔
    (c.isAlpha || c == '_') = true ∧ ∀ d ∈ rest, isWordChar d = true := by
  simp [isWord, isWordChar]

theorem isWordChar_of_mem {s : List Char} (word : isWord s = true) :
    ∀ c ∈ s, isWordChar c = true := by
  cases s with
  | nil => simp
  | cons first rest =>
      obtain ⟨letter, others⟩ := isWord_cons.mp word
      rw [List.forall_mem_cons]
      refine ⟨?_, others⟩
      simp only [isWordChar, Char.isAlphanum, Bool.or_eq_true] at letter ⊢
      tauto

theorem code_of_isWordChar {c : Char} (word : isWordChar c = true) :
    32 < c.toNat ∧ c.toNat < 127 := by
  simp only [isWordChar, Char.isAlphanum, Char.isAlpha, Char.isUpper, Char.isLower, Char.isDigit,
    Bool.or_eq_true, decide_eq_true_eq, Bool.and_eq_true, beq_iff_eq, ge_iff_le,
    UInt32.le_iff_toNat_le, Char.reduceVal, UInt32.reduceToNat] at word
  have code : c.val.toNat = c.toNat := rfl
  rw [code] at word
  rcases word with (letterOrDigit | rfl) | rfl
  · omega
  · decide
  · decide

theorem isWordChar_toUpper {c : Char} (word : isWordChar c = true) :
    isWordChar c.toUpper = true := by
  by_cases lower : c.isLower = true
  · have letter : c.toUpper.isAlpha = true := by
      rw [Char.isAlpha_toUpper_eq_isAlpha, Char.isAlpha, lower, Bool.or_true]
    simp [isWordChar, Char.isAlphanum, letter]
  · rwa [Char.toUpper_eq_of_not_isLower lower]

theorem isWord_map_toUpper {s : List Char} (word : isWord s = true) :
    isWord (s.map Char.toUpper) = true := by
  cases s with
  | nil => cases word
  | cons c rest =>
      obtain ⟨letter, others⟩ := isWord_cons.mp word
      rw [List.map_cons, isWord_cons]
      constructor
      · by_cases underscore : c = '_'
        · subst underscore
          rfl
        · simp_all [Char.isAlpha_toUpper_eq_isAlpha]
      · intro d among
        obtain ⟨e, member, rfl⟩ := List.mem_map.mp among
        exact isWordChar_toUpper (others e member)

theorem toList_upper {name : String} (word : isWord name.toList = true) :
    (Text.upper name).toList = name.toList.map Char.toUpper := by
  have ascii : ∀ c ∈ name.toList, Text.upperOf c = [c.toUpper] := by
    intro c among
    have code := code_of_isWordChar (isWordChar_of_mem word c among)
    rw [Text.upperOf, if_pos (by omega)]
  rw [Text.upper, String.toList_ofList, List.map_eq_flatMap]
  exact List.flatMap_congr ascii

theorem isWord_upper {name : String} (word : isWord name.toList = true) :
    isWord (Text.upper name).toList = true := by
  rw [toList_upper word]
  exact isWord_map_toUpper word

theorem upper_upper {name : String} (word : isWord name.toList = true) :
    Text.upper (Text.upper name) = Text.upper name := by
  rw [← String.toList_inj, toList_upper (isWord_upper word), toList_upper word, List.map_map]
  apply List.map_congr_left
  intro c among
  exact Char.toUpper_toUpper_eq_toUpper c

theorem nameable_of_wordChars {s : List Char} (some : s ≠ [])
    (each : ∀ c ∈ s, isWordChar c = true ∨ c = '-') : Token.Nameable s := by
  constructor
  · apply Text.Solid.of_forall some
    intro c among
    cases each c among with
    | inl word =>
        obtain ⟨low, high⟩ := code_of_isWordChar word
        exact Text.not_isBlank_of_code low high
    | inr minus =>
        rw [minus]
        decide
  · intro c among cuts
    have known := each c among
    simp only [Token.reserved, List.mem_cons, List.not_mem_nil, or_false] at cuts
    rcases cuts with rfl | rfl | rfl | rfl | rfl | rfl | rfl <;> exact absurd known (by decide)

theorem nameable_of_isWord {s : List Char} (word : isWord s = true) : Token.Nameable s := by
  apply nameable_of_wordChars
  · rintro rfl
    cases word
  · intro c among
    exact .inl (isWordChar_of_mem word c among)

theorem nameable_intDigits (n : Int) : Token.Nameable (intDigits n).toList := by
  rw [Numeral.toList_intDigits]
  have some : Nat.toDigits 10 n.natAbs ≠ [] := Nat.toDigits_ne_nil
  apply nameable_of_wordChars
  · simp [some]
  · intro c among
    rw [List.mem_append] at among
    cases among with
    | inl inSign =>
        split at inSign
        · exact .inr (List.mem_singleton.mp inSign)
        · cases inSign
    | inr inDigits =>
        have digit : c.isDigit = true := Numeral.isDigit_of_mem_toDigits inDigits
        exact .inl (by simp [isWordChar, Char.isAlphanum, digit])

theorem dropLineEnd_of_solid {s : List Char} (solid : Text.Solid s) : dropLineEnd s = s := by
  obtain ⟨c, rest, rfl, last⟩ := solid.last
  have noLineEnd : c ≠ '\n' := by
    rintro rfl
    cases last
  simp [dropLineEnd, noLineEnd]

theorem ofBare_intDigits {n : Int} (short : digitCount n.natAbs ≤ Json.maxIntegerDigits) :
    ofBare (intDigits n) = .ok (.literal (.int n)) := by
  have fits : ¬ Json.maxIntegerDigits < (Nat.toDigits 10 n.natAbs).length := Nat.not_lt.mpr short
  simp only [ofBare, dropLineEnd_of_solid (nameable_intDigits n).solid, Numeral.integer?_intDigits,
    List.length_map, fits, Numeral.ofDigits_toDigits, Double.signed_natAbs, if_false]

theorem ofBare_column {name : String} (solid : Text.Solid name.toList)
    (noNumber : Numeral.read? false name.toList = none) : ofBare name = .ok (.column name) := by
  have noInteger : Numeral.integer? name.toList = none := by
    cases spells : Numeral.integer? name.toList with
    | none => rfl
    | some integer =>
        have number := Numeral.isSome_read?_of_integer? spells
        rw [noNumber] at number
        cases number
  simp only [ofBare, dropLineEnd_of_solid solid, noInteger, noNumber]

theorem ofBare_cases {content : String} {formula : Formula}
    (stands : ofBare content = .ok formula) :
    (∃ n, formula = .literal (.int n) ∧ digitCount n.natAbs ≤ Json.maxIntegerDigits) ∨
      (∃ x, formula = .literal (.float x)) ∨
      formula = .column content ∧ Numeral.read? false (dropLineEnd content.toList) = none := by
  unfold ofBare at stands
  simp only at stands
  split at stands
  · rename_i negative digits spells
    split at stands
    · cases stands
    · cases stands
      have count := Numeral.digitCount_integer? spells
      refine .inl ⟨_, rfl, ?_⟩
      rw [Double.natAbs_signed]
      omega
  · cases stands
    exact .inr (.inl ⟨_, rfl⟩)
  · rename_i noNumber
    cases stands
    exact .inr (.inr ⟨rfl, noNumber⟩)

theorem ofBare_error {content : String} {fault : Fault} (stands : ofBare content = .error fault) :
    ∃ negative digits, Numeral.integer? (dropLineEnd content.toList) = some (negative, digits) ∧
      Json.maxIntegerDigits < digits.length ∧ fault = .numeralTooLong digits.length := by
  unfold ofBare at stands
  simp only at stands
  split at stands
  · rename_i negative digits spells
    split at stands
    · rename_i long
      cases stands
      exact ⟨negative, digits, spells, long, rfl⟩
    · cases stands
  · cases stands
  · cases stands

end Formula

end Gridbook
