import Mathlib
import Gridbook.Proofs.Settings.Shelf

/-! # The files of a store

Every table has a file of its own, which stands in the directory of the store itself under a plain
name, whatever the table's id is. The id can be read off that name.
-/

namespace Gridbook

namespace Path

variable {directory path : Path} {name : String}

structure Below (directory : Path) (name : String) (path : Path) : Prop where
  start : path.start = directory.start
  steps : path.steps = directory.steps ++ [name]

def lead (directory : Path) : String :=
  directory.start.text ++ String.join (directory.steps.map (· ++ "/"))

theorem intercalate_concat (steps : List String) (name : String) :
    "/".intercalate (steps ++ [name]) = String.join (steps.map (· ++ "/")) ++ name := by
  induction steps with
  | nil => simp
  | cons first rest ih =>
      rw [List.cons_append, String.intercalate_cons_of_ne_nil (by simp), ih, List.map_cons,
        String.join_cons, String.append_assoc, String.append_assoc, String.append_assoc]

theorem ofText_of_isStep (step : IsStep name) :
    (ofText name).start = .here ∧ (ofText name).steps = [name] := by
  obtain ⟨given, moves, single⟩ := step
  have noSlash : name.toList.takeWhile (· == '/') = [] := by
    cases chars : name.toList with
    | nil => rfl
    | cons c rest =>
        rw [chars] at single
        have apart : c ≠ '/' := fun same => single (same ▸ List.mem_cons_self)
        rw [List.takeWhile_cons, beq_eq_false_iff_ne.mpr apart]
        rfl
  have given : name.toList ≠ [] := by simpa using given
  have moves : name.toList ≠ ['.'] := fun same => moves (String.toList_inj.mp same)
  constructor
  · simp [ofText, noSlash]
  · simp [ofText, List.splitOn_eq_singleton single, given, moves]

theorem below_join (directory : Path) (step : IsStep name) :
    Below directory name (directory.join (.ofText name)) := by
  obtain ⟨start, steps⟩ := ofText_of_isStep step
  unfold join
  split
  case h_1 => exact ⟨rfl, congrArg (directory.steps ++ ·) steps⟩
  all_goals simp_all

namespace Below

theorem parent (below : Below directory name path) : path.parent = directory := by
  apply Path.ext
  · rw [parent_start, below.start]
  · rw [parent_steps, below.steps, List.dropLast_concat]

theorem name? (below : Below directory name path) : path.name? = some name := by
  rw [Path.name?, below.steps, List.getLast?_concat]

theorem text (below : Below directory name path) (given : name ≠ "") :
    path.text = directory.lead ++ name := by
  have whole : path.start.text ++ "/".intercalate path.steps = directory.lead ++ name := by
    rw [below.start, below.steps, intercalate_concat, lead, String.append_assoc]
  simp only [Path.text, whole]
  apply if_neg
  intro empty
  exact given (String.append_eq_empty_iff.mp empty).2

end Below

end Path

namespace Store

theorem slash_not_mem_fileName (id : String) : '/' ∉ (fileName id).toList := by
  rw [fileName, String.toList_append, List.mem_append, not_or]
  constructor
  · exact (Text.Percent.encoded_encode id).not_mem (by decide) (by decide) (by decide)
  · decide

/-- A name of a file is longer than its ending, so it is none of the steps that lead elsewhere. -/
theorem fileName_ne (id : String) {other : String} (short : other.length < 5) :
    fileName id ≠ other := by
  rintro rfl
  rw [fileName, String.length_append] at short
  exact absurd short (Nat.not_lt.mpr (Nat.le_add_left ..))

theorem isStep_fileName (id : String) : Path.IsStep (fileName id) :=
  ⟨fileName_ne id (by decide), fileName_ne id (by decide), slash_not_mem_fileName id⟩

theorem below_path (directory : Path) (id : String) :
    Path.Below directory (fileName id) (path directory id) :=
  Path.below_join directory (isStep_fileName id)

/-- No two tables share a file, neither as a path nor as the text of one. The file stands in the
directory itself, and its name consists of ASCII letters, digits, the characters `_ . - ~` and
escapes, with an ending behind them; what stands before the ending can be decoded to the id. -/
theorem files_apart (directory : Path) :
    Function.Injective (path directory) ∧
      Function.Injective (fun id => (path directory id).text) ∧
      ∀ id, ∃ stem : String, (path directory id).parent = directory ∧
        (path directory id).name? = some (stem ++ ".json") ∧
        (stem ++ ".json" ≠ ".." ∧ '/' ∉ (stem ++ ".json").toList) ∧
        Text.Percent.Encoded stem.toList ∧ Text.Percent.decode stem = some id := by
  have texts : Function.Injective (fun id => (path directory id).text) := by
    intro a b same
    have text : ∀ id, (path directory id).text = directory.lead ++ fileName id :=
      fun id => (below_path directory id).text (isStep_fileName id).1
    simp only [text] at same
    exact fileName_injective ((String.append_right_inj _).mp same)
  refine ⟨fun a b same => texts (congrArg Path.text same), texts, fun id => ?_⟩
  exact ⟨Text.Percent.encode id, (below_path directory id).parent,
    (below_path directory id).name?, ⟨fileName_ne id (by decide), slash_not_mem_fileName id⟩,
    Text.Percent.encoded_encode id, Text.Percent.decode_encode id⟩

example : fileName "../a%2Fb" = "..%2Fa%252Fb.json" := by decide +kernel

end Store

end Gridbook
