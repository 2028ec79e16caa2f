import Gridbook.Notice
import Gridbook.Path
import Gridbook.Settings.Migration
import Gridbook.Text.Percent

/-! # Settings stores

A store keeps one record a table, as a document under a key. A store in memory keys them by table
id; a store of files by a file name that stands for the id.
-/

namespace Gridbook

/-- The names that the directory of a store of files takes. -/
structure FileSystem where
  takes : String → Bool

/-- A system that takes names of at most so many bytes. -/
def FileSystem.limited (bytes : Nat) : FileSystem := ⟨fun name => name.utf8ByteSize ≤ bytes⟩

inductive Store.Medium where
  | memory
  | files
  deriving Repr, DecidableEq

/-- A settings store: documents by key. Files are in a directory that takes every name; what comes
of one that does not is said by `Store.Medium.reach`. -/
structure Store where
  medium : Store.Medium
  records : List (String × String)
  deriving Repr, DecidableEq

namespace Store

def empty (medium : Medium) : Store := ⟨medium, []⟩

/-- The name of the file that holds a table's settings. -/
def fileName (id : String) : String :=
  Text.Percent.encode id ++ ".json"

/-- The file that holds a table's settings, in the directory of a store. -/
def path (directory : Path) (id : String) : Path :=
  directory.join (.ofText (fileName id))

/-- Stops where a table's record would be in a file of a name that the system refuses. -/
def Medium.reach (medium : Medium) (system : FileSystem) (id : String) : Except Fault Unit :=
  match medium with
  | .memory => .ok ()
  | .files => if system.takes (fileName id) then .ok () else .error (.fileNameRefused (fileName id))

/-- The key of a table's record. -/
def key (store : Store) (id : String) : String :=
  match store.medium with
  | .memory => id
  | .files => fileName id

def layout (store : Store) : Json.Layout :=
  match store.medium with
  | .memory => .line
  | .files => .indented

def text? (store : Store) (id : String) : Option String :=
  store.records.lookup (store.key id)

/-- Replaces the stored document of a table. -/
def put (store : Store) (id text : String) : Store :=
  { store with records := Assoc.set (store.key id) text store.records }

def save (store : Store) (id : String) (settings : Settings) : Except Fault Store := do
  return store.put id (← settings.text store.layout)

def delete (store : Store) (id : String) : Store :=
  { store with records := Assoc.drop (store.key id) store.records }

/-- The record of a table, if it has one. A file that is no JSON counts as no record; a document
that goes beyond what is read is a fault in either medium. -/
def record? (store : Store) (id : String) : Report (Option Json) :=
  match store.text? id with
  | none => return none
  | some text =>
      match store.medium, Json.read text with
      | _, .ok .null => return none
      | _, .ok record => return some record
      | .files, .error (.malformed ..) => do
          Report.note .unreadableFile
          return none
      | _, .error trouble => Report.fail (.unreadable text trouble)

/-- The settings of a table, if it has any. A record that makes no sense is passed over; one of a
later version is a fault. -/
def load (store : Store) (id : String) : Report (Option Settings) := do
  match ← store.record? id with
  | none => return none
  | some record =>
      match Settings.ofRecord record with
      | .ok settings => return some settings
      | .error (.newerVersion version) => Report.fail (.newerVersion version)
      | .error _ => do
          Report.note (.discardedSettings id)
          return none

/-- Saves what a function makes of the settings of a table. -/
def update (store : Store) (id : String) (f : Option Settings → Except Fault Settings) :
    Report (Store × Settings) := do
  let settings ← f (← store.load id)
  return (← store.save id settings, settings)

end Store

end Gridbook
