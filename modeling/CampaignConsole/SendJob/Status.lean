import CampaignConsole.SendJob.Recipient
import CampaignConsole.Text.Blank

/-!
The status of a send job.

A `SendJob` is one answer of the page about its bulk send: a status code, a progress in percent and
four lists of emails.  A job without a code was never sent.
-/

namespace CampaignConsole

open Json

/-- How far a send job has come. -/
inductive StatusCode where
  /-- Requested, not picked up yet. -/
  | queued
  /-- Under way. -/
  | pending
  /-- All emails processed. -/
  | complete
  /-- Any other code the page may report. -/
  | other (code : String)
  deriving DecidableEq, Repr

namespace StatusCode

/-- The code that a text names, without blanks around it; a blank text names none. -/
def ofText? (text : String) : Option StatusCode :=
  match Text.trim text with
  | "" => none
  | "r" | "queued" => some .queued
  | "p" | "pending" => some .pending
  | "c" | "complete" => some .complete
  | code => some (.other code)

/-- The text that names a code, as the page writes it. -/
def text : StatusCode → String
  | .queued => "r"
  | .pending => "p"
  | .complete => "c"
  | .other code => code

/-- Whether all emails are processed. -/
def isComplete (code : StatusCode) : Bool :=
  code == .complete

end StatusCode

/-- One answer of the page about its send job. -/
structure SendJob where
  /-- Missing where the campaign was never sent. -/
  code : Option StatusCode := none
  description : Option String := none
  percent : Float := 0.0
  successful : List Delivered := []
  failed : List Recipient := []
  retrying : List Recipient := []
  sending : List Recipient := []
  totalToSend : Nat := 0

namespace SendJob

/-- The members of a job, in the order of the array form. -/
def memberNames : List String :=
  ["statusCode", "statusDescription", "percent", "successful", "failed", "retrying", "sending",
    "totalToSend"]

/-- Reads a job that lies `level` arrays and objects deep; every member may be missing or null. -/
def ofNode? (level : Nat) (n : Node) : Option SendJob := do
  let m ← n.members? memberNames
  return {
    code := (← m.optional "statusCode" Node.text?).bind StatusCode.ofText?
    description := ← m.optional "statusDescription" Node.text?
    percent := ← m.getD "percent" Node.double? 0.0
    successful := ← m.getD "successful" (Node.list? (Delivered.ofNode? (level + 2))) []
    failed := ← m.getD "failed" (Node.list? Recipient.ofNode?) []
    retrying := ← m.getD "retrying" (Node.list? Recipient.ofNode?) []
    sending := ← m.getD "sending" (Node.list? Recipient.ofNode?) []
    totalToSend := ← m.getD "totalToSend" (Node.natBelow? UInt64.size) 0 }

/-- Writes a job with all its members. -/
def toNode (job : SendJob) : Node :=
  Node.ofMembers [
    ("statusCode", Node.ofText? (job.code.map StatusCode.text)),
    ("statusDescription", Node.ofText? job.description),
    ("percent", Node.ofDouble job.percent),
    ("successful", .array (job.successful.map Delivered.toNode)),
    ("failed", .array (job.failed.map Recipient.toNode)),
    ("retrying", .array (job.retrying.map Recipient.toNode)),
    ("sending", .array (job.sending.map Recipient.toNode)),
    ("totalToSend", Node.ofNat job.totalToSend)]

end SendJob

end CampaignConsole
