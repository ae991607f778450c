import CampaignConsole.Json.Members

/-!
The forms that a campaign page takes, as named values in the order in which they are posted.
-/

namespace CampaignConsole

open Json

/-- The named values of a form, in order; names may repeat. -/
abbrev FormValues := List (String × String)

/-- The form that starts the send job. -/
structure SendForm where
  sendMail : String := "true"
  deriving DecidableEq, Repr

/-- The form that adds a recipient group to a campaign or removes it. -/
structure GroupForm where
  group : String
  isRecipient : Bool
  deriving DecidableEq, Repr

namespace SendForm

/-- The values posted. -/
def values (f : SendForm) : FormValues :=
  [("sendMail", f.sendMail)]

/-- Reads a form from JSON. -/
def ofNode? (n : Node) : Option SendForm := do
  let m ← n.members? ["sendMail"]
  return { sendMail := ← m.required "sendMail" Node.text? }

end SendForm

namespace GroupForm

/-- The values posted. -/
def values (f : GroupForm) : FormValues :=
  [("group", f.group), ("isRecip", if f.isRecipient then "true" else "false")]

/-- Reads a form from JSON. -/
def ofNode? (n : Node) : Option GroupForm := do
  let m ← n.members? ["group", "isRecip"]
  return {
    group := ← m.required "group" Node.text?
    isRecipient := ← m.required "isRecip" Node.bool? }

end GroupForm

end CampaignConsole
