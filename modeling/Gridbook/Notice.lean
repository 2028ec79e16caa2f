import Gridbook.Cascade.HeaderMismatch
import Gridbook.Fault

/-! # Notices

What an operation tells its user besides its result. A notice does not stop the operation, and it
stands even when the operation fails later.
-/

namespace Gridbook

/-- Something a user should know. -/
inductive Notice where
  /-- Stored settings name columns that the table does not have. -/
  | absentColumns (names : List String)
  /-- A stored calculated field is left out because its name is taken. -/
  | takenName (field : String)
  /-- A table's stored settings make no sense. -/
  | discardedSettings (table : String)
  /-- A settings file is no JSON. -/
  | unreadableFile
  | headerMismatch (mismatch : HeaderMismatch)
  | rebuildFailed (table : String) (fault : Fault)
  /-- Tables are left whose source is gone. -/
  | orphaned (removed : String) (dependents : List String)
  deriving DecidableEq

namespace Notice

/-- Whether a notice tells of an error; otherwise it is a warning. -/
def isError : Notice → Bool
  | discardedSettings _ | unreadableFile => true
  | _ => false

def message : Notice → String
  | absentColumns names => "Dropping settings for missing columns: " ++ ", ".intercalate names
  | takenName field =>
      "Skipping calculated field " ++ Text.quoted field ++ ": a column with that name exists"
  | discardedSettings table => "Discarding unreadable settings for " ++ table
  | unreadableFile => "Failed to read settings"
  | headerMismatch mismatch => mismatch.message
  | rebuildFailed table fault => "Rebuilding " ++ table ++ " failed: " ++ fault.message
  | orphaned removed dependents =>
      "Removed " ++ removed ++ "; dependents " ++ Text.quotedList dependents ++
        " can no longer be rebuilt"

def line (notice : Notice) : String :=
  (if notice.isError then "ERROR: " else "WARNING: ") ++ notice.message

end Notice

/-- The outcome of an operation with the notices that it gave on the way. -/
structure Report (α : Type) where
  notices : List Notice
  outcome : Except Fault α

namespace Report

def note (notice : Notice) : Report Unit := ⟨[notice], .ok ()⟩

def fail (fault : Fault) : Report α := ⟨[], .error fault⟩

def ofExcept (outcome : Except Fault α) : Report α := ⟨[], outcome⟩

@[simp] theorem outcome_ofExcept (outcome : Except Fault α) : (ofExcept outcome).outcome = outcome :=
  rfl

instance : Monad Report where
  pure a := ⟨[], .ok a⟩
  bind r f :=
    match r.outcome with
    | .ok a => ⟨r.notices ++ (f a).notices, (f a).outcome⟩
    | .error fault => ⟨r.notices, .error fault⟩

instance : MonadLift (Except Fault) Report := ⟨ofExcept⟩

instance : LawfulMonad Report := by
  refine LawfulMonad.mk' Report ?id_map ?pure_bind ?bind_assoc
  case id_map =>
    rintro α ⟨notices, outcome⟩
    cases outcome <;> simp [Functor.map]
  case pure_bind =>
    intro α β a f
    simp [bind, pure]
  case bind_assoc =>
    rintro α β γ ⟨notices, outcome⟩ f g
    cases outcome with
    | error fault => rfl
    | ok a =>
        simp only [bind]
        cases (f a).outcome <;> simp

theorem lift_ok (a : α) : (liftM (Except.ok a : Except Fault α) : Report α) = pure a := rfl

end Report

end Gridbook
