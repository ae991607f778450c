import CampaignConsole.Campaign.Desk

/-!
# Laws of a campaign desk

What restoring the remembered sort does to a list, and where the controls point after a sort.
-/

namespace CampaignConsole.CampaignDesk

theorem restore_of_none (desk : CampaignDesk) (nothing : remembered? desk.store = none) :
    desk.restore = (desk, none) := by
  rw [restore, nothing]

theorem restore_of_some (desk : CampaignDesk) {choice : SortChoice}
    (remembered : remembered? desk.store = some choice) :
    desk.restore = (desk.arrange choice, some choice) := by
  rw [restore, remembered]

theorem restore_load_of_none {store : StateStore} (nothing : remembered? store = none)
    (campaigns : List Campaign) : (load campaigns store).restore.1 = load campaigns store := by
  rw [restore_of_none (load campaigns store) nothing]

theorem restore_load_of_some {store : StateStore} {choice : SortChoice}
    (remembered : remembered? store = some choice) (campaigns : List Campaign) :
    (load campaigns store).restore.1 = (load campaigns store).arrange choice := by
  rw [restore_of_some (load campaigns store) remembered]

theorem store_restore (campaigns : List Campaign) (store : StateStore) :
    (load campaigns store).restore.1.store = store := by
  cases remembered : remembered? store with
  | none => rw [restore_load_of_none remembered, load]
  | some choice => rw [restore_load_of_some remembered, arrange, load]

theorem next_markSorted (controls : SortControls) (choice : SortChoice) (field : SortField) :
    (controls.markSorted choice).next field =
      if choice.field = field then choice.direction.flipped else controls.next field := by
  obtain ⟨last, direction⟩ := choice
  cases last <;> cases field <;> rfl

theorem next_untouched (field : SortField) : ({} : SortControls).next field = .ascending := by
  cases field <;> rfl

theorem get?_insert_sortKey (store : StateStore) (text : String) :
    (store.insert sortKey text).entries.get? sortKey = some text := by
  rw [StateStore.insert, Entries.get?_insert, if_pos rfl]

/-- A sort that was set in a store is the one it remembers. -/
theorem remembered?_insert (store : StateStore) (choice : SortChoice) :
    remembered? (store.insert sortKey choice.encode) = some choice := by
  rw [remembered?, StateStore.get?, get?_insert_sortKey]
  simp [SortChoice.decode_encode]

end CampaignConsole.CampaignDesk
