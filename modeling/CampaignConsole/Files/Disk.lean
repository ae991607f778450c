import CampaignConsole.Files.Path

/-!
A disk: files, directories and what the device refuses.

Every entry has a location, the names on the way from the root.  `Disk.read` reads a whole file as
text, and `Disk.replace` replaces one: it makes the missing directories, writes a draft beside the
target and renames the draft to the target, so that a reader finds the old text or the new one and
never a part.
-/

namespace CampaignConsole.Files

/-- The names on the way from the root. -/
abbrev Location := List String

/-- What stands at a location. -/
inductive Entry where
  | file (bytes : ByteArray)
  | directory

/-- Why a step of the file system failed. -/
inductive FileError where
  | notFound
  | exists
  | notDirectory
  | isDirectory
  | nameTooLong
  | busy
  | denied
  | noSpace
  | nulInPath
  | notUtf8
  /-- Anything else that a system tells. -/
  | other (message : String)
  deriving DecidableEq, Repr

/-- The wording of an error. -/
def FileError.message : FileError → String
  | .notFound => "No such file or directory (os error 2)"
  | .exists => "File exists (os error 17)"
  | .notDirectory => "Not a directory (os error 20)"
  | .isDirectory => "Is a directory (os error 21)"
  | .nameTooLong => "File name too long (os error 36)"
  | .busy => "Device or resource busy (os error 16)"
  | .denied => "Permission denied (os error 13)"
  | .noSpace => "No space left on device (os error 28)"
  | .nulInPath => "file name contained an unexpected NUL byte"
  | .notUtf8 => "stream did not contain valid UTF-8"
  | .other message => message

/-- The error that a system tells by its number, with its wording for one that has no name here. -/
def FileError.ofSystem (number : Nat) (wording : String) : FileError :=
  match number with
  | 2 => .notFound
  | 13 => .denied
  | 16 => .busy
  | 17 => .exists
  | 20 => .notDirectory
  | 21 => .isDirectory
  | 28 => .noSpace
  | 36 => .nameTooLong
  | _ => .other (wording ++ " (os error " ++ toString number ++ ")")

/-- Why a file could not be replaced, by the step that failed. -/
inductive ReplaceError where
  | makeDirectory (directory : Path) (cause : FileError)
  | createDraft (directory : Path) (cause : FileError)
  | writeDraft (cause : FileError)
  | rename (target : Path) (cause : FileError)
  deriving DecidableEq, Repr

/-- Files and directories by location, with what the device refuses. -/
structure Disk where
  /-- The entries below the root, each location once. -/
  entries : List (Location × Entry) := []
  /-- The directory in which relative paths start. -/
  home : Location := []
  /-- The directories in which nothing may be made or replaced. -/
  readOnly : List Location := []
  /-- Whether no more bytes can be written. -/
  full : Bool := false

namespace Disk

/-! ## Entries -/

/-- The entry at a location; the root is a directory. -/
def get? (d : Disk) (loc : Location) : Option Entry :=
  if loc.isEmpty then some .directory else d.entries.lookup loc

/-- The disk with an entry at a location. -/
def put (d : Disk) (loc : Location) (entry : Entry) : Disk :=
  { d with entries := (loc, entry) :: d.entries.filter (·.1 != loc) }

/-- The disk without an entry at a location. -/
def erase (d : Disk) (loc : Location) : Disk :=
  { d with entries := d.entries.filter (·.1 != loc) }

/-- Whether a location is a directory. -/
def isDirectory (d : Disk) (loc : Location) : Bool :=
  match d.get? loc with
  | some .directory => true
  | _ => false

/-! ## Walking -/

/-- The greatest number of bytes of a name. -/
def nameLimit : Nat := 255

/-- The greatest number of bytes of a path. -/
def pathLimit : Nat := 4095

/-- One step of a walk from a directory; the place it leads to need not exist. -/
def step (d : Disk) (loc : Location) (name : String) : Except FileError Location :=
  match d.get? loc with
  | none => .error .notFound
  | some (.file _) => .error .notDirectory
  | some .directory =>
      if name = "." then .ok loc
      else if name = ".." then .ok loc.dropLast
      else if nameLimit < name.utf8ByteSize then .error .nameTooLong
      else .ok (loc ++ [name])

/-- The location where a path starts. -/
def start (d : Disk) (p : Path) : Location :=
  if p.isAbsolute then [] else d.home

/-- The location that a path leads to; its last part need not exist. -/
def locate (d : Disk) (p : Path) : Except FileError Location := do
  if p.text.isEmpty then throw .notFound
  if p.text.toList.contains '\x00' then throw .nulInPath
  if pathLimit < p.text.utf8ByteSize then throw .nameTooLong
  let loc ← p.steps.foldlM d.step (d.start p)
  if p.endsInSlash then d.step loc "." else return loc

/-! ## Reading -/

/-- The text of a file. -/
def read (d : Disk) (p : Path) : Except FileError String := do
  match d.get? (← d.locate p) with
  | none => throw .notFound
  | some .directory => throw .isDirectory
  | some (.file bytes) =>
      match String.fromUTF8? bytes with
      | some text => return text
      | none => throw .notUtf8

/-! ## Replacing -/

/-- Makes one directory on the way to a directory, or enters it where it exists; `isLast` tells
whether the way ends there.  The disk is given back also after a failure. -/
def enter (d : Disk) (loc : Location) (name : String) (isLast : Bool) :
    Disk × Except FileError Location :=
  match d.step loc name with
  | .error e => (d, .error e)
  | .ok next =>
      match d.get? next with
      | some .directory => (d, .ok next)
      | some (.file _) => (d, .error (if isLast then .exists else .notDirectory))
      | none =>
          if loc ∈ d.readOnly then (d, .error .denied) else (d.put next .directory, .ok next)

/-- Makes the missing directories on the way along the given names.  Directories
made before a failure stay. -/
def makeDirectories (d : Disk) (loc : Location) : List String → Disk × Except FileError Location
  | [] => (d, .ok loc)
  | name :: names =>
      match d.enter loc name names.isEmpty with
      | (d, .error e) => (d, .error e)
      | (d, .ok next) => d.makeDirectories next names

/-- A name longer than every name on the disk, so that no entry has it. -/
def draftName (d : Disk) : String :=
  let longest := (d.entries.flatMap (·.1)).foldl (fun longest name => max longest name.length) 0
  ".tmp" ++ String.ofList (List.replicate (longest + 1) 'x')

/-- Renames a draft to the target path. -/
def rename (d : Disk) (draft : Location) (bytes : ByteArray) (target : Path) :
    Except FileError Disk := do
  if target.steps.getLast? ∈ [some ".", some ".."] then throw .busy
  if target.text.isEmpty then throw .notFound
  let loc ← target.steps.foldlM d.step (d.start target)
  if target.endsInSlash then throw .notDirectory
  if d.isDirectory loc then throw .isDirectory
  if loc.dropLast ∈ d.readOnly then throw .denied
  return (d.erase draft).put loc (.file bytes)

/-- Replaces the file at a path, or makes it.  After a failure the disk is as before, but for
directories that were made on the way. -/
def replace (d : Disk) (p : Path) (text : String) : Disk × Except ReplaceError Unit :=
  let directory := p.directory
  match d.makeDirectories (d.start directory) directory.steps with
  | (d, .error e) => (d, .error (.makeDirectory directory e))
  | (d, .ok loc) =>
      if loc ∈ d.readOnly then (d, .error (.createDraft directory .denied))
      else
        let draft := loc ++ [d.draftName]
        let drafted := d.put draft (.file .empty)
        if d.full then (drafted.erase draft, .error (.writeDraft .noSpace))
        else
          let written := drafted.put draft (.file text.toUTF8)
          match written.rename draft text.toUTF8 p with
          | .ok d => (d, .ok ())
          | .error e => (written.erase draft, .error (.rename p e))

end Disk

end CampaignConsole.Files
