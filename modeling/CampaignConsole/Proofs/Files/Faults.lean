import CampaignConsole.Files.Disk

/-!
# Devices that fail

`Faults` are the steps of replacing a file at which a device fails, each for any cause.
`Disk.replaceOn` replaces a file on such a device; on one that does not fail it is `Disk.replace`
(`replaceOn_none`).
-/

namespace CampaignConsole.Files

/-- The steps of replacing a file at which a device fails, with the cause. -/
structure Faults where
  /-- Making directories fails after a number of them. -/
  makeDirectories : Option (Nat × FileError) := none
  createDraft : Option FileError := none
  /-- Writing or syncing the draft fails when it holds some bytes. -/
  writeDraft : Option (ByteArray × FileError) := none
  rename : Option FileError := none

/-- Whether no step fails. -/
def Faults.isNone (faults : Faults) : Bool :=
  faults.makeDirectories.isNone && faults.createDraft.isNone && faults.writeDraft.isNone &&
    faults.rename.isNone

namespace Disk

/-- Makes the missing directories along names, on a device that may fail. -/
def makeDirectoriesOn (faults : Faults) (d : Disk) (loc : Location) (names : List String) :
    Disk × Except FileError Location :=
  match faults.makeDirectories with
  | none => d.makeDirectories loc names
  | some (made, cause) => ((d.makeDirectories loc (names.take made)).1, .error cause)

/-- Writes a draft in a directory and renames it to a path, on a device that may fail.  A draft that
was created is dropped after a failure. -/
def draftOn (faults : Faults) (d : Disk) (loc : Location) (p : Path) (text : String) :
    Disk × Except ReplaceError Unit :=
  if d.readOnly.contains loc then (d, .error (.createDraft p.directory .denied))
  else
    match faults.createDraft with
    | some cause => (d, .error (.createDraft p.directory cause))
    | none =>
        let draft := loc ++ [d.draftName]
        let drafted := d.put draft (.file .empty)
        if d.full then (drafted.erase draft, .error (.writeDraft .noSpace))
        else
          match faults.writeDraft with
          | some (part, cause) =>
              ((drafted.put draft (.file part)).erase draft, .error (.writeDraft cause))
          | none =>
              let written := drafted.put draft (.file text.toUTF8)
              match faults.rename with
              | some cause => (written.erase draft, .error (.rename p cause))
              | none =>
                  match written.rename draft text.toUTF8 p with
                  | .ok d => (d, .ok ())
                  | .error e => (written.erase draft, .error (.rename p e))

/-- Replaces the file at a path, on a device that may fail. -/
def replaceOn (faults : Faults) (d : Disk) (p : Path) (text : String) :
    Disk × Except ReplaceError Unit :=
  match d.makeDirectoriesOn faults (d.start p.directory) p.directory.steps with
  | (d, .error e) => (d, .error (.makeDirectory p.directory e))
  | (d, .ok loc) => d.draftOn faults loc p text

/-- On a device that does not fail, a file is replaced as `replace` does it. -/
theorem replaceOn_none (d : Disk) (p : Path) (text : String) :
    d.replaceOn {} p text = d.replace p text := by
  unfold replaceOn replace
  dsimp only [makeDirectoriesOn]
  rcases d.makeDirectories (d.start p.directory) p.directory.steps with ⟨grown, e | loc⟩
  · rfl
  · by_cases denied : loc ∈ grown.readOnly
    · exact (if_pos (List.contains_iff_mem.2 denied)).trans (if_pos denied).symm
    · exact (if_neg (mt List.contains_iff_mem.1 denied)).trans (if_neg denied).symm

end Disk

end CampaignConsole.Files
