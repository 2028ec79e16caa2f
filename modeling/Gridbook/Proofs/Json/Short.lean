import Mathlib
import Gridbook.Json.Reader
import Gridbook.Proofs.Number.Digits

/-! # The integers of what was read

Reading gives no integer with more digits than can be written out again. Each reader is followed
with `SatisfiesM`, which says what holds of a result if there is one.
-/

namespace Gridbook.Json

/-- A value all of whose integers can be written out. -/
inductive Short : Json → Prop where
  | null : Short .null
  | bool (b : Bool) : Short (.bool b)
  | int {n : Int} (short : digitCount n.natAbs ≤ maxIntegerDigits) : Short (.int n)
  | float (x : Double) : Short (.float x)
  | str (s : String) : Short (.str s)
  | arr {items : List Json} (each : ∀ item ∈ items, Short item) : Short (.arr items)
  | obj {members : List (String × Json)} (each : ∀ m ∈ members, Short m.2) : Short (.obj members)

theorem Short.of_lookup {members : List (String × Json)} {name : String} {value : Json}
    (short : Short (.obj members)) (found : members.lookup name = some value) : Short value := by
  cases short with
  | obj each => exact each (name, value) (Assoc.mem_of_lookup found)

theorem stops {α : Type} {P : α → Prop} (trouble : Trouble) :
    SatisfiesM P (.error trouble : Except Trouble α) :=
  SatisfiesM_Except_eq.mpr fun _ stopped => nomatch stopped

theorem isDigit_of_mem_wholePart {s : List Char} {c : Char} (among : c ∈ (wholePart s).1) :
    c.isDigit = true := by
  rw [wholePart.eq_def] at among
  split at among
  · rw [List.mem_singleton.mp among]
    decide
  · exact List.mem_takeWhile_imp among

theorem short_of_wholePart {s : List Char} (some : ¬ (wholePart s).1.isEmpty = true)
    (fits : ¬ maxIntegerDigits < (wholePart s).1.length) (negative : Bool) :
    Short (.int (Double.signed negative
      (Numeral.ofDigits ((wholePart s).1.map fun c => c.toNat - 48)))) := by
  have bound := Numeral.digitCount_ofDigits_le (by simpa using some)
    fun c among => isDigit_of_mem_wholePart (s := s) among
  refine .int ?_
  rw [Double.natAbs_signed]
  omega

theorem readNumber_short (s : List Char) : SatisfiesM (fun p => Short p.1) (readNumber s) := by
  unfold readNumber
  simp only
  split
  all_goals
    split
    case isTrue => exact stops _
    case isFalse some =>
      split
      case isTrue =>
        split
        case isTrue => exact stops _
        case isFalse fits => exact SatisfiesM.pure (short_of_wholePart some fits _)
      case isFalse => exact SatisfiesM.pure (Short.float _)

theorem readLiteral?_short {s tail : List Char} {value : Json}
    (found : readLiteral? s = some (value, tail)) : Short value := by
  obtain ⟨⟨word, literal⟩, among, here⟩ := List.exists_of_findSome?_eq_some found
  obtain ⟨-, rfl, -⟩ : _ ∧ literal = value ∧ _ := by simpa using here
  fin_cases among <;> constructor

theorem readString_short (s : List Char) :
    SatisfiesM (fun p => Short p.1) (do
      let (text, tail) ← readString s
      return (Json.str text, tail)) := by
  refine (SatisfiesM.of_true (p := fun _ => True) fun _ => trivial).bind ?_
  rintro ⟨text, tail⟩ -
  exact SatisfiesM.pure (Short.str text)

/-- What the readers give with some fuel has no integer that is too long. -/
structure ReadersShort (fuel : Nat) : Prop where
  value : ∀ room s, SatisfiesM (fun p => Short p.1) (readValue fuel room s)
  items : ∀ room s, SatisfiesM (fun p => ∀ item ∈ p.1, Short item) (readItems fuel room s)
  members : ∀ room before s, (∀ m ∈ before, Short m.2) →
    SatisfiesM (fun p => ∀ m ∈ p.1, Short m.2) (readMembers fuel room before s)

namespace ReadersShort

variable {fuel : Nat}

theorem zero : ReadersShort 0 where
  value := fun _ _ => stops _
  items := fun _ _ => stops _
  members := fun _ _ _ _ => stops _

theorem readValue (short : ReadersShort fuel) (room : Nat) (s : List Char) :
    SatisfiesM (fun p => Short p.1) (Json.readValue (fuel + 1) room s) := by
  unfold Json.readValue
  split
  case h_1 => exact readString_short _
  case h_2 => exact stops _
  case h_3 =>
    split
    · exact SatisfiesM.pure (Short.arr (by simp))
    · refine (short.items _ _).bind ?_
      rintro ⟨found, tail⟩ each
      exact SatisfiesM.pure (Short.arr each)
  case h_4 => exact stops _
  case h_5 =>
    split
    · exact SatisfiesM.pure (Short.obj (by simp))
    · refine (short.members _ _ _ (by simp)).bind ?_
      rintro ⟨found, tail⟩ each
      exact SatisfiesM.pure (Short.obj each)
  case h_6 =>
    split
    case h_1 found literal => exact SatisfiesM.pure (readLiteral?_short literal)
    case h_2 => exact readNumber_short _

theorem readItems (short : ReadersShort fuel) (room : Nat) (s : List Char) :
    SatisfiesM (fun p => ∀ item ∈ p.1, Short item) (Json.readItems (fuel + 1) room s) := by
  unfold Json.readItems
  refine (short.value room s).bind ?_
  rintro ⟨item, rest⟩ now
  simp only
  split
  · exact SatisfiesM.pure (by simpa using now)
  · refine (short.items room _).bind ?_
    rintro ⟨others, tail⟩ later
    exact SatisfiesM.pure (List.forall_mem_cons.mpr ⟨now, later⟩)
  · exact stops _

theorem readMembers (short : ReadersShort fuel) (room : Nat) {before : List (String × Json)}
    (s : List Char) (earlier : ∀ m ∈ before, Short m.2) :
    SatisfiesM (fun p => ∀ m ∈ p.1, Short m.2) (Json.readMembers (fuel + 1) room before s) := by
  unfold Json.readMembers
  split
  case h_2 => exact stops _
  case h_1 =>
    refine (SatisfiesM.of_true (p := fun _ => True) fun _ => trivial).bind ?_
    rintro ⟨name, rest⟩ -
    simp only
    split
    case h_2 => exact stops _
    case h_1 =>
      refine (short.value room _).bind ?_
      rintro ⟨found, rest⟩ now
      -- A member that stood there under the same name gives way to the new one.
      have known : ∀ m ∈ Assoc.set name found before, Short m.2 := by
        intro m among
        rcases Assoc.mem_of_mem_set among with rfl | among
        · exact now
        · exact earlier m among
      simp only
      split
      · exact SatisfiesM.pure known
      · exact short.members room _ _ known
      · exact stops _

theorem all (fuel : Nat) : ReadersShort fuel := by
  induction fuel with
  | zero => exact zero
  | succ fuel ih =>
      exact ⟨ih.readValue, ih.readItems, fun room _ s earlier => ih.readMembers room s earlier⟩

end ReadersShort

theorem read_short {text : String} {value : Json} (done : read text = .ok value) : Short value := by
  refine SatisfiesM_Except_eq.mp ?_ value done
  unfold read readWithin
  simp only
  split
  · exact stops _
  · refine ((ReadersShort.all _).value _ _).bind ?_
    rintro ⟨found, rest⟩ short
    simp only
    split
    · exact SatisfiesM.pure short
    · exact stops _

end Gridbook.Json
