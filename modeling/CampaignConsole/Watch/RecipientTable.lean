import CampaignConsole.SendJob.Status

/-!
The table of recipients whose email is not delivered yet.

A `RecipientTable` holds the rows in display order, newest first, and the ids that were ever
reported delivered; a delivered id never gets a row again.  `RecipientTable.apply` takes in one
answer about the send job.
-/

namespace CampaignConsole

/-- What a row says about its email. -/
inductive RowLabel where
  | sending | retrying | failed
  deriving DecidableEq, Repr

/-- The text of a label. -/
def RowLabel.text : RowLabel → String
  | .sending => "Sending.."
  | .retrying => "Retrying.."
  | .failed => "Failed"

/-- One row of the table. -/
structure RecipientRow where
  id : EmailId
  email : String
  fullName : String
  /-- Missing until the first update. -/
  label : Option RowLabel := none
  /-- The last delivery error. -/
  tooltip : Option String := none
  attempts : Nat := 0
  deriving DecidableEq, Repr

/-- A row for a recipient, before its first update. -/
def RecipientRow.ofRecipient (r : Recipient) : RecipientRow :=
  { id := r.id, email := r.email, fullName := r.fullName }

/-- A row after a list of the answer with the given label named its recipient. -/
def RecipientRow.update (row : RecipientRow) (label : RowLabel) (r : Recipient) : RecipientRow :=
  { row with label := some label, tooltip := r.lastError, attempts := r.retries }

/-- The rows in display order, and the ids reported delivered. -/
structure RecipientTable where
  rows : List RecipientRow := []
  delivered : List EmailId := []
  deriving DecidableEq, Repr

namespace RecipientTable

/-- The row of an id. -/
def get? (t : RecipientTable) (id : EmailId) : Option RecipientRow :=
  t.rows.find? (·.id == id)

/-- Whether an id has a row. -/
def contains (t : RecipientTable) (id : EmailId) : Bool :=
  (t.get? id).isSome

/-- Remembers an id as delivered and drops its row. -/
def markDelivered (t : RecipientTable) (id : EmailId) : RecipientTable :=
  { rows := t.rows.filter (·.id != id)
    delivered := if id ∈ t.delivered then t.delivered else id :: t.delivered }

/-- Makes sure that a recipient has a row: a new one stands first, and a delivered id gets none. -/
def ensure (t : RecipientTable) (r : Recipient) : RecipientTable :=
  if r.id ∈ t.delivered || t.contains r.id then t
  else { t with rows := .ofRecipient r :: t.rows }

/-- The table after an id was delivered, and whether that dropped a row. -/
def deliver (t : RecipientTable) (id : EmailId) : RecipientTable × Bool :=
  (t.markDelivered id, t.contains id)

/-- The table with a row for a recipient, and that row; a delivered id has none. -/
def getOrCreate (t : RecipientTable) (r : Recipient) : RecipientTable × Option RecipientRow :=
  (t.ensure r, (t.ensure r).get? r.id)

/-- The rows with `change` made to the first one of an id. -/
def changeFirst (id : EmailId) (change : RecipientRow → RecipientRow) :
    List RecipientRow → List RecipientRow
  | [] => []
  | row :: rows =>
      if row.id = id then change row :: rows else row :: changeFirst id change rows

/-- Takes in one recipient that a list of the answer with the given label names. -/
def mention (t : RecipientTable) (label : RowLabel) (r : Recipient) : RecipientTable :=
  if r.id ∈ t.delivered then t
  else
    let t := t.ensure r
    { t with rows := changeFirst r.id (·.update label r) t.rows }

/-- Drops all rows; the delivered ids stay remembered. -/
def clear (t : RecipientTable) : RecipientTable :=
  { t with rows := [] }

/-- Takes in the recipients of one list of the answer. -/
def mentionAll (t : RecipientTable) (label : RowLabel) (rs : List Recipient) : RecipientTable :=
  rs.foldl (·.mention label ·) t

/-- Takes in one answer about the send job.  A job that was never sent has no rows; else the
delivered ids go first, then the recipients that are being sent to, retried and failed get their
rows, in this order. -/
def apply (t : RecipientTable) (job : SendJob) : RecipientTable :=
  match job.code with
  | none => t.clear
  | some _ =>
      let t := job.successful.foldl (fun t d => t.markDelivered d.emailId) t
      ((t.mentionAll .sending job.sending).mentionAll .retrying job.retrying).mentionAll
        .failed job.failed

end RecipientTable

end CampaignConsole
