import CampaignConsole.Proofs.Store.StateFile

/-!
# A value is written as a whole or not at all

A `Device` is a disk that may fail at any step of replacing a file.  The operations of a store run
on it as they are; where it does not fail, they do what they do on a disk (`runOn_set_none`).

* `InUse` are the stores that a program can have: opened somewhere, with values set since.
* `set_all_or_nothing` says what setting a value does to every place of the disk.
-/

namespace CampaignConsole

open Files

/-- A disk that may fail. -/
abbrev Device := ReaderT Faults (StateM Disk)

instance : FileSystem Device where
  read path := do return (← get).read path
  replace path text := fun faults => modifyGet fun disk =>
    let (disk, outcome) := disk.replaceOn faults path text
    (outcome, disk)

/-- What an operation gives, and the disk after it. -/
def Device.runOn {α : Type} (faults : Faults) (d : Disk) (operation : Device α) : α × Disk :=
  (operation.run faults).run d

namespace StateStore

/-- A store that a program can have.  A value stays set also where it could not be written. -/
inductive InUse : StateStore → Prop
  | opened {path : Path} {d : Disk} {store : StateStore} :
    ofRead path (d.read path) = .ok store → InUse store
  | set {store : StateStore} (key value : String) : InUse store → InUse (store.insert key value)

variable {store after : StateStore}

theorem InUse.sorted (inUse : InUse store) : store.entries.Sorted := by
  induction inUse with
  | opened opens => exact sorted_of_ofRead opens
  | set key value _ ih => exact ih.insert key value

theorem InUse.walkable (inUse : InUse store) (notEmpty : store.path.text.isEmpty = false) :
    Disk.Walkable store.path := by
  induction inUse with
  | opened opens =>
      rw [path_of_ofRead opens] at notEmpty ⊢
      exact walkable_of_ofRead opens notEmpty
  | set _ _ _ ih => exact ih notEmpty

theorem runOn_set (faults : Faults) (d : Disk) (store : StateStore) (key value : String) :
    Device.runOn faults d (store.set key value) =
      let written := d.replaceOn faults store.path (store.insert key value).entries.text
      ((store.insert key value, written.2.mapError StoreError.write), written.1) :=
  rfl

/-- On a device that does not fail, a value is set as on a disk. -/
theorem runOn_set_none (d : Disk) (store : StateStore) (key value : String) :
    Device.runOn {} d (store.set key value) = (store.set key value : StateM Disk _).run d := by
  rw [runOn_set, Disk.replaceOn_none]
  rfl

/-- Setting a value fails and makes directories at most, or no step fails and the text of the store
is put where its path leads to.  In memory the value is set in both cases. -/
theorem runOn_set_cases (faults : Faults) (d : Disk) (store : StateStore) (key value : String) :
    (∃ e d', Device.runOn faults d (store.set key value) =
        ((store.insert key value, .error e), d') ∧ Disk.Makes (d.parents store.path) d d') ∨
      ∃ grown target d', Device.runOn faults d (store.set key value) =
          ((store.insert key value, .ok ()), d') ∧ faults.isNone = true ∧
        Disk.Makes (d.parents store.path) d grown ∧
        grown.Puts store.path (store.insert key value).entries.text target d' := by
  rw [runOn_set]
  rcases d.replaceOn_cases faults store.path (store.insert key value).entries.text with
    ⟨d', e, failed, makes⟩ | ⟨grown, target, d', done, faultless, makes, puts⟩
  · rw [failed]
    exact Or.inl ⟨.write e, d', rfl, makes⟩
  · rw [done]
    exact Or.inr ⟨grown, target, d', rfl, faultless, makes, puts⟩

/-- A place is as it was, or a missing directory was made there on the way. -/
def KeptAt (way : List Location) (d d' : Disk) (loc : Location) : Prop :=
  d'.get? loc = d.get? loc ∨ d.get? loc = none ∧ d'.get? loc = some .directory ∧ loc ∈ way

theorem keptAt_of_makes {way : List Location} {d d' : Disk} (makes : Disk.Makes way d d')
    (loc : Location) : KeptAt way d d' loc := by
  rcases makes.places loc with same | ⟨missing, made⟩
  · exact Or.inl same
  · refine Or.inr ⟨missing, made, makes.within loc ?_⟩
    simp [missing, made]

/-- **A value is written as a whole or not at all.**  Whatever stands on a disk and at whichever
step the device fails: where setting a value tells an error, every place is as it was, but for
missing parent directories of the state file that were made.  Where it tells none, no step failed,
the state file holds the entries that are in memory, and every other place is as it was, but for
missing parent directories. -/
theorem set_all_or_nothing (inUse : InUse store) {key value : String} {faults : Faults}
    {d d' : Disk} {outcome : Except StoreError Unit}
    (ran : Device.runOn faults d (store.set key value) = ((after, outcome), d')) :
    match outcome with
    | .error _ => ∀ loc, KeptAt (d.parents store.path) d d' loc
    | .ok () =>
        faults.isNone = true ∧ after = store.insert key value ∧
          ∃ target, d'.locate store.path = .ok target ∧
            storedEntries d' store.path = some after.entries ∧
            ∀ loc, loc ≠ target → KeptAt (d.parents store.path) d d' loc := by
  rcases runOn_set_cases faults d store key value with
    ⟨e, kept, failed, makes⟩ | ⟨grown, target, stored, done, faultless, makes, puts⟩
  · rw [failed] at ran
    cases ran
    exact keptAt_of_makes makes
  · rw [done] at ran
    cases ran
    have walkable := inUse.walkable puts.notEmpty
    have sorted := inUse.sorted.insert key value
    refine ⟨faultless, rfl, target, puts.locate walkable, ?_, ?_⟩
    · exact storedEntries_of_sorted sorted walkable (puts.stores makes.toGrows)
    · intro loc other
      have same : d'.get? loc = grown.get? loc := by rw [puts.get?, if_neg other]
      rw [KeptAt, same]
      exact keptAt_of_makes makes loc

/-- A theme that was chosen by a program whose state file was missing. -/
def darkTheme : StateStore :=
  { path := ⟨"conf/state"⟩, entries := ⟨[("theme", "dark")]⟩ }

/-- A disk without the directory of the state file. -/
def notesOnly : Disk :=
  { entries := [(["notes"], .file "draft".toUTF8)] }

/-- A device that runs out of space while a draft is written. -/
def cutShort : Faults :=
  { writeDraft := some ("\x7b".toUTF8, .noSpace) }

theorem set_all_or_nothing_darkTheme :
    InUse darkTheme ∧
      (∃ after e d', Device.runOn cutShort notesOnly (darkTheme.set "lang" "de") =
          ((after, .error e), d') ∧
        ∀ loc, KeptAt [["conf"]] notesOnly d' loc) ∧
      ∃ after d', Device.runOn {} notesOnly (darkTheme.set "lang" "de") = ((after, .ok ()), d') ∧
        after = darkTheme.insert "lang" "de" ∧
        ∃ target, d'.locate ⟨"conf/state"⟩ = .ok target ∧
          storedEntries d' ⟨"conf/state"⟩ = some after.entries ∧
          ∀ loc, loc ≠ target → KeptAt [["conf"]] notesOnly d' loc := by
  have opens : ofRead ⟨"conf/state"⟩ (notesOnly.read ⟨"conf/state"⟩) =
      .ok { path := ⟨"conf/state"⟩, entries := .empty } := rfl
  have inUse : InUse darkTheme := (InUse.opened opens).set "theme" "dark"
  have way : notesOnly.parents darkTheme.path = [["conf"]] := by decide +kernel
  have fails : (Device.runOn cutShort notesOnly (darkTheme.set "lang" "de")).1.2 =
      .error (.write (.writeDraft .noSpace)) := by decide +kernel
  have succeeds : (Device.runOn {} notesOnly (darkTheme.set "lang" "de")).1.2 = .ok () := by
    decide +kernel
  rcases failed : Device.runOn cutShort notesOnly (darkTheme.set "lang" "de") with
    ⟨⟨after, outcome⟩, kept⟩
  rcases done : Device.runOn {} notesOnly (darkTheme.set "lang" "de") with
    ⟨⟨after', outcome'⟩, stored⟩
  rw [failed] at fails
  rw [done] at succeeds
  subst fails succeeds
  rw [← way]
  exact ⟨inUse, ⟨after, _, kept, rfl, set_all_or_nothing inUse failed⟩,
    after', stored, rfl, (set_all_or_nothing inUse done).2⟩

end StateStore

end CampaignConsole
