import CampaignConsole.Calendar.Reader
import CampaignConsole.Json.Writer

/-!
Campaigns, and the texts that a list shows for them.
-/

namespace CampaignConsole

open Json Calendar

/-- One campaign of a list; its name is what it is asked for by, its title is for people. -/
structure Campaign where
  name : String
  title : Option String
  statusDate : Option Moment
  status : Option String
  deriving DecidableEq, Repr

namespace Campaign

/-- The members of a campaign, in the order of the array form. -/
def memberNames : List String :=
  ["name", "title", "statusDate", "status"]

/-- Reads a campaign; all but the name may be missing or null. -/
def ofNode? (n : Node) : Option Campaign := do
  let m ← n.members? memberNames
  return {
    name := ← m.required "name" Node.text?
    title := ← m.optional "title" Node.text?
    statusDate := ← m.optional "statusDate" fun d => d.text? >>= Moment.ofText?
    status := ← m.optional "status" Node.text? }

/-- Reads a list of campaigns. -/
def listOfNode? (n : Node) : Option (List Campaign) :=
  n.list? ofNode?

/-- Writes a campaign with all its members. -/
def toNode (c : Campaign) : Node :=
  Node.ofMembers [
    ("name", Node.ofText c.name),
    ("title", Node.ofText? c.title),
    ("statusDate", Node.ofText? (c.statusDate.map Moment.toRfc3339)),
    ("status", Node.ofText? c.status)]

/-! ## Texts shown -/

/-- The title shown: the title without blanks around it, or a stand-in where that leaves nothing. -/
def titleText (c : Campaign) : String :=
  match c.title.map Text.trim with
  | none | some "" => "Untitled email"
  | some title => title

/-- The status shown; a campaign without one is a draft. -/
def statusText (c : Campaign) : String :=
  match c.status with
  | none | some "" => "Draft"
  | some "c" => "Completed"
  | some "p" => "In progress"
  | some code => "Status: " ++ code

/-- The date shown, to the minute; empty where there is none. -/
def dateText (c : Campaign) : String :=
  (c.statusDate.map Moment.toMinuteText).getD ""

end Campaign

end CampaignConsole
