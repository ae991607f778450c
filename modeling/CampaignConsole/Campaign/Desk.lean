import CampaignConsole.Campaign.List
import CampaignConsole.Store.StateStore

/-!
A campaign list with its sort controls and the store that remembers its sort.

A sort that the user asks for is applied, shown by the controls and remembered.
`CampaignDesk.restore` applies a remembered sort to a list that was just loaded; what the store
holds does not change.
-/

namespace CampaignConsole

/-- The key under which the sort is remembered. -/
def sortKey : String := "email-sort-type"

/-- A list, its controls and the store that remembers its sort. -/
structure CampaignDesk where
  list : CampaignList
  controls : SortControls := {}
  store : StateStore

namespace CampaignDesk

/-- A list that was just loaded. -/
def load (campaigns : List Campaign) (store : StateStore) : CampaignDesk :=
  { list := .ofCampaigns campaigns, store }

/-- The sort that the store remembers; a text that names none counts as none. -/
def remembered? (store : StateStore) : Option SortChoice := do
  match SortChoice.decode (← store.get? sortKey) with
  | .ok choice => some choice
  | .error _ => none

/-- Sorts the list and points the control of its column away, without remembering it. -/
def arrange (d : CampaignDesk) (choice : SortChoice) : CampaignDesk :=
  { d with list := d.list.sortBy choice, controls := d.controls.markSorted choice }

/-- Applies the remembered sort, if there is one, and tells which. -/
def restore (d : CampaignDesk) : CampaignDesk × Option SortChoice :=
  match remembered? d.store with
  | none => (d, none)
  | some choice => (d.arrange choice, some choice)

variable {m : Type → Type} [Monad m] [FileSystem m]

/-- Sorts as the user asked and remembers it.  Where it cannot be remembered the
list stays sorted. -/
def userSort (d : CampaignDesk) (choice : SortChoice) :
    m (CampaignDesk × Except StoreError Unit) := do
  let d := d.arrange choice
  let (store, outcome) ← d.store.set sortKey choice.encode
  return ({ d with store }, outcome)

/-- Activates the control of a column: sorts in the direction that it points to, and tells which. -/
def activate (d : CampaignDesk) (field : SortField) :
    m (CampaignDesk × Except StoreError SortChoice) := do
  let choice : SortChoice := { field, direction := d.controls.next field }
  let (d, outcome) ← d.userSort choice
  return (d, outcome.map fun _ => choice)

end CampaignDesk

end CampaignConsole
