import CampaignConsole.Proofs.Files.Replacing
import CampaignConsole.Proofs.Store.EntriesText
import CampaignConsole.Store.StateStore

/-!
# The entries of a state file

`storedEntries` are the entries that a file holds.  A store that was opened has them in memory
(`entries_of_ofRead`), and entries that were stored are the ones held from then on
(`storedEntries_of_stores`).
-/

namespace CampaignConsole

open Files

/-- The entries that a file holds; none where it is missing or holds no entries. -/
def storedEntries (d : Disk) (path : Path) : Option Entries :=
  (d.read path).toOption.bind Entries.ofText?

theorem sorted_storedEntries (d : Disk) (path : Path) :
    ((storedEntries d path).getD .empty).Sorted := by
  cases stored : storedEntries d path with
  | none => exact Entries.sorted_empty
  | some entries =>
      obtain ⟨text, _, read⟩ := Option.bind_eq_some_iff.1 stored
      exact Entries.sorted_ofText? read

namespace StateStore

variable {path : Path} {d d' : Disk} {store : StateStore}

/-- A store is at the path where it was opened. -/
theorem path_of_ofRead {found : Except FileError String} (opened : ofRead path found = .ok store) :
    store.path = path := by
  cases found with
  | ok text =>
      cases opened
      rfl
  | error e =>
      cases e <;> cases opened
      rfl

/-- A store that was opened has the entries of its file; none, where the file holds none. -/
theorem entries_of_ofRead (opened : ofRead path (d.read path) = .ok store) :
    store.entries = (storedEntries d path).getD .empty := by
  unfold storedEntries
  cases found : d.read path with
  | ok text =>
      rw [found] at opened
      cases opened
      rfl
  | error e =>
      rw [found] at opened
      cases e <;> cases opened
      rfl

/-- A store is opened whatever is found, but for a failure to read what is there. -/
theorem read_ne_error_of_ofRead (opened : ofRead path (d.read path) = .ok store) {e : FileError}
    (other : e ≠ .notFound) : d.read path ≠ .error e := by
  intro refused
  rw [refused] at opened
  cases e with
  | notFound => exact other rfl
  | _ => cases opened

/-- A store is opened only at a path that can be walked. -/
theorem walkable_of_ofRead (opened : ofRead path (d.read path) = .ok store)
    (notEmpty : path.text.isEmpty = false) : Disk.Walkable path := by
  have noNul : d.read path ≠ .error .nulInPath := read_ne_error_of_ofRead opened (by simp)
  have short : d.read path ≠ .error .nameTooLong := read_ne_error_of_ofRead opened (by simp)
  exact Disk.walkable_of_read notEmpty noNul short

/-- Entries in order that were stored are read back. -/
theorem storedEntries_of_sorted {entries : Entries} (sorted : entries.Sorted)
    (walkable : Disk.Walkable path) (stores : d.Stores path entries.text d') :
    storedEntries d' path = some entries := by
  rw [storedEntries, stores.read walkable]
  exact sorted.ofText?_text

theorem sorted_of_ofRead (opened : ofRead path (d.read path) = .ok store) :
    store.entries.Sorted := by
  rw [entries_of_ofRead opened]
  exact sorted_storedEntries d path

/-- Entries that were stored are read back, and the path leads to them. -/
theorem storedEntries_of_stores (opened : ofRead path (d.read path) = .ok store)
    {key value : String} (stores : d.Stores path (store.insert key value).entries.text d') :
    storedEntries d' path = some (store.insert key value).entries ∧
      ∃ loc, d'.locate path = .ok loc := by
  have walkable := walkable_of_ofRead opened stores.notEmpty
  obtain ⟨loc, located, _⟩ := stores.locate walkable
  have sorted := (sorted_of_ofRead opened).insert key value
  exact ⟨storedEntries_of_sorted sorted walkable stores, loc, located⟩

end StateStore

end CampaignConsole
