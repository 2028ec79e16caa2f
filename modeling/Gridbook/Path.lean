/-! # Paths

Where a file stands: a starting point and the names of the steps from there. In the text of a path
slashes divide the steps, and empty steps and steps that stay where they are do not count.
-/

namespace Gridbook

inductive Path.Start where
  | here
  | root
  /-- Two slashes in front, and no more than two, are kept. -/
  | doubleRoot
  deriving Repr, DecidableEq

namespace Path

def Start.text : Start → String
  | here => ""
  | root => "/"
  | doubleRoot => "//"

/-- Whether a path can have a step of this name. -/
def IsStep (name : String) : Prop :=
  name ≠ "" ∧ name ≠ "." ∧ '/' ∉ name.toList

end Path

/-- A path. -/
@[ext]
structure Path where
  start : Path.Start
  steps : List String
  isStep : ∀ name ∈ steps, Path.IsStep name
  deriving DecidableEq

namespace Path

theorem not_mem_of_splitOn {text piece : List Char} (among : piece ∈ text.splitOn '/') :
    '/' ∉ piece := by
  induction text generalizing piece with
  | nil =>
      rw [List.splitOn_nil, List.mem_singleton] at among
      simp [among]
  | cons c rest ih =>
      rw [List.splitOn_cons_eq_if_modifyHead] at among
      split at among
      case isTrue =>
        rcases List.mem_cons.mp among with rfl | later
        · simp
        · exact ih later
      case isFalse other =>
        cases pieces : rest.splitOn '/' with
        | nil => exact absurd pieces (List.splitOn_ne_nil _ _)
        | cons first later =>
            rw [pieces] at ih among
            rcases List.mem_cons.mp among with rfl | among
            · have apart : '/' ≠ c := fun same => other (same ▸ beq_self_eq_true _)
              exact List.not_mem_cons_of_ne_of_not_mem apart (ih List.mem_cons_self)
            · exact ih (List.mem_cons_of_mem _ among)

def ofText (text : String) : Path where
  start := match (text.toList.takeWhile (· == '/')).length with
    | 0 => .here
    | 2 => .doubleRoot
    | _ => .root
  steps := ((text.toList.splitOn '/').filter fun step => step != [] && step != ['.']).map
    String.ofList
  isStep := by
    intro name among
    obtain ⟨step, kept, rfl⟩ := List.mem_map.mp among
    obtain ⟨piece, counts⟩ := List.mem_filter.mp kept
    simp only [Bool.and_eq_true, bne_iff_ne] at counts
    refine ⟨fun empty => counts.1 ?_, fun stays => counts.2 ?_, ?_⟩
    · simpa using congrArg String.toList empty
    · simpa using congrArg String.toList stays
    · simpa using not_mem_of_splitOn piece

def text (path : Path) : String :=
  let joined := path.start.text ++ "/".intercalate path.steps
  if joined = "" then "." else joined

/-- A path from a directory. One that starts at a root does not go through the directory. -/
def join (directory path : Path) : Path :=
  match path.start with
  | .here =>
      { directory with
        steps := directory.steps ++ path.steps
        isStep := fun name among => (List.mem_append.mp among).elim (directory.isStep name)
          (path.isStep name) }
  | .root | .doubleRoot => path

def parent (path : Path) : Path :=
  { path with
    steps := path.steps.dropLast
    isStep := fun name among => path.isStep name (List.dropLast_subset _ among) }

@[simp] theorem parent_start (path : Path) : path.parent.start = path.start := rfl

@[simp] theorem parent_steps (path : Path) : path.parent.steps = path.steps.dropLast := rfl

def name? (path : Path) : Option String :=
  path.steps.getLast?

end Path

end Gridbook
