import CampaignConsole.Campaign.Basic
import CampaignConsole.Campaign.Sort

/-!
The campaign list as displayed.

Rows keep the position that they had when the list was loaded.  The position breaks ties between
rows with the same text, so every sort is total and a descending one is the exact reverse of an
ascending one.  Rows at odd places are marked, and the marks are set anew after every change.
-/

namespace CampaignConsole

/-- One row of the list. -/
structure CampaignRow where
  /-- The place in the list as loaded. -/
  position : Nat
  campaign : Campaign
  /-- Whether the row stands at an odd place. -/
  odd : Bool := false
  deriving DecidableEq, Repr

namespace CampaignRow

/-- The text shown in a column. -/
def text (row : CampaignRow) : SortField → String
  | .date => row.campaign.dateText
  | .name => row.campaign.titleText
  | .status => row.campaign.statusText

/-- Whether a row does not stand after another one in an ascending sort by a column. -/
def precedes (field : SortField) (a b : CampaignRow) : Bool :=
  a.text field < b.text field || (a.text field == b.text field && a.position ≤ b.position)

end CampaignRow

/-- The rows in display order. -/
structure CampaignList where
  rows : List CampaignRow
  deriving DecidableEq, Repr

namespace CampaignList

/-- The rows from a place on, with the marks of their places. -/
def stripedFrom (place : Nat) : List CampaignRow → List CampaignRow
  | [] => []
  | row :: rows => { row with odd := place % 2 == 1 } :: stripedFrom (place + 1) rows

/-- The list of rows in the given order. -/
def ofRows (rows : List CampaignRow) : CampaignList :=
  ⟨stripedFrom 0 rows⟩

/-- The list as loaded. -/
def ofCampaigns (campaigns : List Campaign) : CampaignList :=
  ofRows (campaigns.zipIdx.map fun (campaign, position) => { position, campaign })

/-- The list sorted by a column. -/
def sortBy (list : CampaignList) (choice : SortChoice) : CampaignList :=
  let sorted := list.rows.mergeSort (CampaignRow.precedes choice.field)
  ofRows <| match choice.direction with
    | .ascending => sorted
    | .descending => sorted.reverse

/-- The list without the first row whose campaign has a name, and that row. -/
def remove? (list : CampaignList) (name : String) : Option (CampaignRow × CampaignList) :=
  match list.rows.find? (·.campaign.name == name) with
  | none => none
  | some row => some (row, ofRows (list.rows.eraseP (·.campaign.name == name)))

end CampaignList

/-- The direction that the next activation of each column's control sorts in. -/
structure SortControls where
  date : SortDirection := .ascending
  name : SortDirection := .ascending
  status : SortDirection := .ascending
  deriving DecidableEq, Repr

namespace SortControls

/-- The direction that the next activation of a control sorts in. -/
def next (c : SortControls) : SortField → SortDirection
  | .date => c.date
  | .name => c.name
  | .status => c.status

/-- Points the control of the sorted column away from the direction sorted in. -/
def markSorted (c : SortControls) (choice : SortChoice) : SortControls :=
  match choice.field with
  | .date => { c with date := choice.direction.flipped }
  | .name => { c with name := choice.direction.flipped }
  | .status => { c with status := choice.direction.flipped }

end SortControls

end CampaignConsole
