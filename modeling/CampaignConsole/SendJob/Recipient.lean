import CampaignConsole.Json.Writer

/-!
Recipients of a send job.

An `EmailId` names one email of a job; a page writes it as a string or as an integer, and both
spellings are the same id.  A `Recipient` is what a job reports about an email that is not delivered
yet, and a `Delivered` entry is what it reports about one that is: a bare id or a whole recipient.
-/

namespace CampaignConsole

open Json

/-- The name of one email of a send job. -/
structure EmailId where
  text : String
  deriving DecidableEq, Repr

/-- What a send job reports about an email that is not delivered yet. -/
structure Recipient where
  id : EmailId
  email : String
  fullName : String
  retries : Nat
  lastError : Option String
  deriving DecidableEq, Repr

/-- An email that was delivered: the whole recipient, or its id alone. -/
inductive Delivered where
  | recipient (r : Recipient)
  | id (i : EmailId)
  deriving DecidableEq, Repr

/-- The id of a delivered email. -/
def Delivered.emailId : Delivered → EmailId
  | .recipient r => r.id
  | .id i => i

/-! ## Reading -/

/-- Reads an id: a string, or an integer, which names the id by its decimal digits. -/
def EmailId.ofNode? : Node → Option EmailId
  | .string s => (textOf? s).map EmailId.mk
  | .number n => n.integer?.map fun _ => ⟨String.ofList n.text⟩
  | _ => none

namespace Recipient

/-- The members of a recipient, in the order of the array form. -/
def memberNames : List String :=
  ["emailId", "email", "fullName", "retries", "lastError"]

/-- Reads a recipient; all but the id may be missing or null. -/
def ofNode? (n : Node) : Option Recipient := do
  let m ← n.members? memberNames
  return {
    id := ← m.required "emailId" EmailId.ofNode?
    email := ← m.getD "email" Node.text? ""
    fullName := ← m.getD "fullName" Node.text? ""
    retries := ← m.getD "retries" (Node.natBelow? UInt32.size) 0
    lastError := ← m.optional "lastError" Node.text? }

end Recipient

/-- Reads a delivered entry that lies `level` arrays and objects deep: a recipient if it is one,
else an id.  The entry is kept whole before it is read, so all of it must be sound. -/
def Delivered.ofNode? (level : Nat) (n : Node) : Option Delivered :=
  if n.canKeep level then
    match Recipient.ofNode? n with
    | some r => some (.recipient r)
    | none => (EmailId.ofNode? n).map .id
  else none

/-! ## Writing -/

/-- Writes an id as a string. -/
def EmailId.toNode (i : EmailId) : Node :=
  Node.ofText i.text

/-- Writes a recipient with all its members. -/
def Recipient.toNode (r : Recipient) : Node :=
  Node.ofMembers [
    ("emailId", r.id.toNode),
    ("email", Node.ofText r.email),
    ("fullName", Node.ofText r.fullName),
    ("retries", Node.ofNat r.retries),
    ("lastError", Node.ofText? r.lastError)]

/-- Writes a delivered entry. -/
def Delivered.toNode : Delivered → Node
  | .recipient r => r.toNode
  | .id i => i.toNode

end CampaignConsole
