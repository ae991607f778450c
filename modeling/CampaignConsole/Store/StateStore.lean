import CampaignConsole.Files.Disk
import CampaignConsole.Store.Entries
import CampaignConsole.Text.Quoted

/-!
State that survives between runs.

A `StateStore` holds the entries of a state file in memory.  A missing file is an empty store, and
so is a file that holds anything but a JSON object of strings; a file that cannot be read as text is
an error.  Every change writes the file anew.
-/

namespace CampaignConsole

open Files

/-- Reading and replacing files. -/
class FileSystem (m : Type → Type) where
  /-- The text of a file. -/
  read : Path → m (Except FileError String)
  /-- Replaces the text of a file, as a whole or not at all. -/
  replace : Path → String → m (Except ReplaceError Unit)

instance : FileSystem (StateM Disk) where
  read path := do return (← get).read path
  replace path text := modifyGet fun disk =>
    let (disk, outcome) := disk.replace path text
    (outcome, disk)

/-- Why a store could not be opened or changed. -/
inductive StoreError where
  | read (path : Path) (cause : FileError)
  | write (error : ReplaceError)
  deriving DecidableEq, Repr

namespace StoreError

/-- The messages of an error: what was tried, then why it failed. -/
def messages : StoreError → List String
  | .read path cause => ["Failed to read state file " ++ Text.quoted path.text, cause.message]
  | .write (.makeDirectory dir cause) =>
      ["Failed to create state directory " ++ Text.quoted dir.text, cause.message]
  | .write (.createDraft dir cause) =>
      ["Failed to create temp file in " ++ Text.quoted dir.text, cause.message]
  | .write (.writeDraft cause) => [cause.message]
  | .write (.rename path cause) =>
      ["Failed to replace state file " ++ Text.quoted path.text, cause.message]

end StoreError

/-- The entries of a state file, in memory. -/
structure StateStore where
  path : Path
  entries : Entries
  deriving DecidableEq, Repr

namespace StateStore

/-- The store for what was found at a path. -/
def ofRead (path : Path) : Except FileError String → Except StoreError StateStore
  | .ok text => .ok { path, entries := (Entries.ofText? text).getD .empty }
  | .error .notFound => .ok { path, entries := .empty }
  | .error cause => .error (.read path cause)

/-- The value of a key. -/
def get? (s : StateStore) (key : String) : Option String :=
  s.entries.get? key

/-- The store with a value set in memory. -/
def insert (s : StateStore) (key value : String) : StateStore :=
  { s with entries := s.entries.insert key value }

variable {m : Type → Type} [Monad m] [FileSystem m]

/-- Opens the store at a path. -/
def openAt (path : Path) : m (Except StoreError StateStore) := do
  return ofRead path (← FileSystem.read path)

/-- Writes the store to its file. -/
def flush (s : StateStore) : m (Except StoreError Unit) := do
  return (← FileSystem.replace s.path s.entries.text).mapError StoreError.write

/-- Sets a value in memory and writes the file anew.  The value stays set in memory where the file
cannot be written. -/
def set (s : StateStore) (key value : String) : m (StateStore × Except StoreError Unit) := do
  let s := s.insert key value
  return (s, ← s.flush)

end StateStore

end CampaignConsole
