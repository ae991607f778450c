import CampaignConsole.SendJob.Status
import CampaignConsole.Campaign.Basic

/-!
The envelope around every JSON reply of a campaign page.

An envelope says whether the page accepted the request, gives its messages, and may carry data.  It
is read together with its data: where the data is not what was asked for, there is no envelope.
-/

namespace CampaignConsole

open Json

/-- A reply of the page, with data of type `α`. -/
structure Envelope (α : Type) where
  /-- False where the page refused the request. -/
  status : Bool
  nextHref : Option String
  messages : List String
  data : Option α

namespace Envelope

/-- The members of an envelope, in the order of the array form. -/
def memberNames : List String :=
  ["status", "nextHref", "messages", "data"]

/-- Reads an envelope.  An object may leave out all but the status; an array must
hold all four members. -/
def ofNode? {α : Type} (read : Node → Option α) (n : Node) : Option (Envelope α) := do
  let m ← n.members? memberNames
  if n.isArray && (m.lookup "data").isNone then none
  else
    return {
      status := ← m.required "status" Node.bool?
      nextHref := ← m.optional "nextHref" Node.text?
      messages := ← m.getD "messages" (Node.list? Node.text?) []
      data := ← m.optional "data" read }

/-- Reads an envelope around a send job. -/
def ofJobNode? (n : Node) : Option (Envelope SendJob) :=
  ofNode? (SendJob.ofNode? 1) n

/-- Reads an envelope around a list of campaigns. -/
def ofCampaignsNode? (n : Node) : Option (Envelope (List Campaign)) :=
  ofNode? Campaign.listOfNode? n

/-- Reads an envelope around any data, which is kept whole. -/
def ofAnyNode? (n : Node) : Option (Envelope Node) :=
  ofNode? (fun data => if data.canKeep 1 then some data else none) n

/-- Writes an envelope with all its members. -/
def toNode {α : Type} (write : α → Node) (e : Envelope α) : Node :=
  Node.ofMembers [
    ("status", .bool e.status),
    ("nextHref", Node.ofText? e.nextHref),
    ("messages", .array (e.messages.map Node.ofText)),
    ("data", (e.data.map write).getD .null)]

/-- What the page says about a refusal. -/
def refusalText {α : Type} (e : Envelope α) : String :=
  if e.messages.isEmpty then "no reason given" else "; ".intercalate e.messages

end Envelope

end CampaignConsole
