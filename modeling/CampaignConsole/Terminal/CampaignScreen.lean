import CampaignConsole.Campaign.List
import CampaignConsole.Terminal.Style

/-!
The campaign list on a terminal: the sort controls, the heads of the columns and a line for each
campaign.
-/

namespace CampaignConsole.Terminal

/-- The arrow of a control, in the direction that its next activation sorts in. -/
def arrow : SortDirection → String
  | .ascending => "▲"
  | .descending => "▼"

/-- The sort controls. -/
def controlsLine (controls : SortControls) : Line :=
  let control (field : SortField) : String := field.text ++ " " ++ arrow (controls.next field)
  [.dimmed ("Sort: " ++ "  ".intercalate (SortField.all.map control))]

/-- The heads of the columns. -/
def campaignHeads : Line :=
  [.plain "  ", .wide 18 (.bold "Date"), .plain " ", .wide 36 (.bold "Name"), .plain " ",
    .wide 14 (.bold "Status"), .plain " ", .bold "Id"]

/-- The line of a campaign. -/
def campaignText (row : CampaignRow) : String :=
  let column (width : Nat) (text : String) := padRight width text.toList
  String.ofList <|
    [' ', ' '] ++ column 18 (row.text .date) ++ [' '] ++ column 36 (row.text .name) ++ [' '] ++
      column 14 (row.text .status) ++ [' '] ++ row.campaign.name.toList

/-- The line of a campaign, dimmed at odd places. -/
def campaignLine (row : CampaignRow) : Line :=
  [if row.odd then .dimmed (campaignText row) else .plain (campaignText row)]

/-- The lines of the list and its controls. -/
def campaignLines (list : CampaignList) (controls : SortControls) : List Line :=
  if list.rows.isEmpty then [[.colored .yellow "No campaigns found."]]
  else [controlsLine controls, [], campaignHeads] ++ list.rows.map campaignLine

end CampaignConsole.Terminal
