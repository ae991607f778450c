import CampaignConsole.Proofs.Campaign.Canonical
import CampaignConsole.Proofs.Campaign.DeskLaws
import CampaignConsole.Proofs.Store.AllOrNothing

/-!
# A sort that cannot be remembered

A sort takes effect in memory before it is written, and it is not taken back where the write fails.
`OnlyInMemory` says what is left then: the list, its control and the store in memory have the sort,
and every file is as it was before.
-/

namespace CampaignConsole.CampaignDesk

open Files

variable {desk after : CampaignDesk} {choice : SortChoice} {faults : Faults} {d d' : Disk}

/-- A sort took effect in memory, and no file has changed. -/
structure OnlyInMemory (desk : CampaignDesk) (d : Disk) (choice : SortChoice)
    (after : CampaignDesk) (d' : Disk) : Prop where
  list : after.list = desk.list.sortBy choice
  next : ∀ field, after.controls.next field =
    if choice.field = field then choice.direction.flipped else desk.controls.next field
  get? : ∀ key, after.store.get? key =
    if key = sortKey then some choice.encode else desk.store.get? key
  kept : ∀ loc, StateStore.KeptAt (d.parents desk.store.path) d d' loc
  stored : ∀ loc, d.locate desk.store.path = .ok loc →
    storedEntries d' desk.store.path = storedEntries d desk.store.path

theorem runOn_userSort (desk : CampaignDesk) (choice : SortChoice) (faults : Faults) (d : Disk) :
    Device.runOn faults d (desk.userSort choice) =
      let set := Device.runOn faults d (desk.store.set sortKey choice.encode)
      (({ desk.arrange choice with store := set.1.1 }, set.1.2), set.2) :=
  rfl

/-- On a device that does not fail, a list is sorted as on a disk. -/
theorem runOn_userSort_none (desk : CampaignDesk) (choice : SortChoice) (d : Disk) :
    Device.runOn {} d (desk.userSort choice) = (desk.userSort choice : StateM Disk _).run d := by
  rw [runOn_userSort, StateStore.runOn_set_none]
  rfl

theorem runOn_activate (desk : CampaignDesk) (field : SortField) (faults : Faults) (d : Disk) :
    Device.runOn faults d (desk.activate field) =
      let sorted := Device.runOn faults d (desk.userSort ⟨field, desk.controls.next field⟩)
      ((sorted.1.1, sorted.1.2.map fun _ => ⟨field, desk.controls.next field⟩), sorted.2) :=
  rfl

theorem onlyInMemory_of_userSort {e : StoreError}
    (failed : Device.runOn faults d (desk.userSort choice) = ((after, .error e), d')) :
    OnlyInMemory desk d choice after d' := by
  rw [runOn_userSort] at failed
  rcases StateStore.runOn_set_cases faults d desk.store sortKey choice.encode with
    ⟨_, kept, refused, makes⟩ | ⟨_, _, _, done, _⟩
  · rw [refused] at failed
    cases failed
    refine ⟨rfl, next_markSorted desk.controls choice, ?_, StateStore.keptAt_of_makes makes, ?_⟩
    · exact Entries.get?_insert desk.store.entries sortKey choice.encode
    · intro loc located
      rw [storedEntries, storedEntries, Disk.settled_of_locate located kept makes.toGrows]
  · rw [done] at failed
    cases failed

/-- **A sort that cannot be written stays in memory.**  Wherever the disk or the device fails a sort
that a user picked, or that a control points to, the list and the control show it and the store has
it in memory; other controls and other values are as before.  On the disk every file is as before,
and so are the entries of the state file. -/
theorem failed_sort_stays_in_memory (desk : CampaignDesk) (faults : Faults) (d : Disk) :
    (∀ choice after e d',
        Device.runOn faults d (desk.userSort choice) = ((after, .error e), d') →
          OnlyInMemory desk d choice after d') ∧
      ∀ field after e d',
        Device.runOn faults d (desk.activate field) = ((after, .error e), d') →
          OnlyInMemory desk d ⟨field, desk.controls.next field⟩ after d' := by
  constructor
  · intro choice after e d' failed
    exact onlyInMemory_of_userSort failed
  · intro field after e d' failed
    rw [runOn_activate] at failed
    rcases sorted : Device.runOn faults d (desk.userSort ⟨field, desk.controls.next field⟩) with
      ⟨⟨now, outcome⟩, kept⟩
    rw [sorted] at failed
    cases outcome with
    | error cause =>
        cases failed
        exact onlyInMemory_of_userSort sorted
    | ok done => cases failed

/-- Two campaigns, not in the order of their titles, with a store that was opened where there was
no state file. -/
def unsortedDesk : CampaignDesk :=
  load [{ name := "b", title := some "B", statusDate := none, status := none },
    { name := "a", title := some "A", statusDate := none, status := none }]
    { path := ⟨"state"⟩, entries := .empty }

/-- A disk on which a directory was made in the place of the state file. -/
def stateBlocked : Disk :=
  { entries := [(["state"], .directory)] }

theorem failed_sort_stays_in_memory_unsortedDesk :
    (∃ after e d', Device.runOn {} stateBlocked (unsortedDesk.userSort ⟨.name, .ascending⟩) =
        ((after, .error e), d') ∧
      OnlyInMemory unsortedDesk stateBlocked ⟨.name, .ascending⟩ after d') ∧
      ∃ after e d', Device.runOn StateStore.cutShort {} (unsortedDesk.activate .date) =
          ((after, .error e), d') ∧
        OnlyInMemory unsortedDesk {} ⟨.date, .ascending⟩ after d' := by
  have picks : (Device.runOn {} stateBlocked
      (unsortedDesk.userSort ⟨.name, .ascending⟩)).1.2.toOption = none := by decide +kernel
  have activates : (Device.runOn StateStore.cutShort {}
      (unsortedDesk.activate .date)).1.2.toOption = none := by decide +kernel
  rcases picked : Device.runOn {} stateBlocked (unsortedDesk.userSort ⟨.name, .ascending⟩) with
    ⟨⟨after, e | done⟩, d'⟩
  · rcases activated : Device.runOn StateStore.cutShort {} (unsortedDesk.activate .date) with
      ⟨⟨after', e' | done⟩, d''⟩
    · exact ⟨⟨after, e, d', rfl,
          (failed_sort_stays_in_memory unsortedDesk {} stateBlocked).1 _ after e d' picked⟩,
        after', e', d'', rfl,
        (failed_sort_stays_in_memory unsortedDesk StateStore.cutShort {}).2 .date after' e' d''
          activated⟩
    · rw [activated] at activates
      cases activates
  · rw [picked] at picks
    cases picks

/-- A list that is loaded out of order shows the sort that failed, and so do its control and the
store in memory. -/
theorem failed_sort_leaves_memory_changed :
    ∃ after e d', (unsortedDesk.userSort ⟨.name, .ascending⟩ : StateM Disk _).run stateBlocked =
        ((after, .error e), d') ∧
      (unsortedDesk.list.rows.map (·.position) = [0, 1] ∧
        after.list.rows.map (·.position) = [1, 0]) ∧
      (unsortedDesk.controls.next .name = .ascending ∧ after.controls.next .name = .descending) ∧
      unsortedDesk.store.get? sortKey = none ∧ after.store.get? sortKey = some "name#asc" := by
  have fails : ((unsortedDesk.userSort ⟨.name, .ascending⟩ : StateM Disk _).run
      stateBlocked).1.2 = .error (.write (.rename ⟨"state"⟩ .isDirectory)) := by decide +kernel
  have pair (le : CampaignRow → CampaignRow → Bool) (a b : CampaignRow) :
      [a, b].mergeSort le = if le a b then [a, b] else [b, a] := by
    simp [List.mergeSort, List.merge]
  have sorted : (unsortedDesk.list.sortBy ⟨.name, .ascending⟩).rows.map (·.position) = [1, 0] := by
    show (CampaignList.ofRows ([_, _].mergeSort _)).rows.map _ = _
    rw [pair]
    rfl
  rcases failed : (unsortedDesk.userSort ⟨.name, .ascending⟩ : StateM Disk _).run stateBlocked with
    ⟨⟨after, outcome⟩, d'⟩
  rw [failed] at fails
  subst fails
  have memory := onlyInMemory_of_userSort ((runOn_userSort_none _ _ _).trans failed)
  refine ⟨after, _, d', rfl, ⟨rfl, memory.list ▸ sorted⟩, ⟨rfl, memory.next .name⟩, rfl, ?_⟩
  rw [memory.get?]
  decide +kernel

end CampaignConsole.CampaignDesk
