import CampaignConsole.Proofs.Json.NamedMembers
import CampaignConsole.SendJob.Status

/-!
# Recipients and jobs by their members

`Recipient.ReadFrom` and `SendJob.ReadFrom` say member by member what a record is read as, and the
readers find what fits and nothing else (`Recipient.ofNode?_eq_some_iff`,
`SendJob.ofNode?_eq_some_iff`).  The four lists of emails in a job are one family, `JobList`.

Where one member of a record is replaced, what is read of the others is the same
(`Recipient.ReadFrom.replace`, `SendJob.ReadFrom.replace`).
-/

namespace CampaignConsole

open Json Node

/-! ## Recipients -/

namespace Recipient

/-- What the members of a recipient are read as. -/
structure ReadFrom (m : Members) (r : Recipient) : Prop where
  id : m.required "emailId" EmailId.ofNode? = some r.id
  email : m.getD "email" Node.text? "" = some r.email
  fullName : m.getD "fullName" Node.text? "" = some r.fullName
  retries : m.getD "retries" (Node.natBelow? UInt32.size) 0 = some r.retries
  lastError : m.optional "lastError" Node.text? = some r.lastError

theorem ofNode?_eq_some_iff {n : Node} {r : Recipient} :
    ofNode? n = some r ↔ ∃ m, n.members? memberNames = some m ∧ ReadFrom m r := by
  simp only [ofNode?, Option.bind_eq_bind, Option.bind_eq_some_iff, Option.pure_def,
    Option.some.injEq]
  constructor
  · rintro ⟨m, record, id, hasId, email, hasEmail, fullName, hasName, retries, hasRetries,
      lastError, hasError, rfl⟩
    exact ⟨m, record, hasId, hasEmail, hasName, hasRetries, hasError⟩
  · rintro ⟨m, record, read⟩
    exact ⟨m, record, _, read.id, _, read.email, _, read.fullName, _, read.retries, _,
      read.lastError, rfl⟩

/-- With another value for the id, the other members are read as before. -/
theorem ReadFrom.replace {m m' : Members} {r : Recipient} (read : ReadFrom m r) {id : EmailId}
    (found : m'.required "emailId" EmailId.ofNode? = some id)
    (others : ∀ name ≠ "emailId", m'.lookup name = m.lookup name) :
    ReadFrom m' { r with id } where
  id := found
  email := (Members.getD_congr (others "email" (by decide))).trans read.email
  fullName := (Members.getD_congr (others "fullName" (by decide))).trans read.fullName
  retries := (Members.getD_congr (others "retries" (by decide))).trans read.retries
  lastError := (Members.getD_congr (others "lastError" (by decide))).trans read.lastError

end Recipient

/-! ## Lists of a job -/

/-- A list of emails in a send job. -/
inductive JobList where
  | successful | failed | retrying | sending

namespace JobList

/-- The member that holds a list. -/
def name : JobList → String
  | successful => "successful"
  | failed => "failed"
  | retrying => "retrying"
  | sending => "sending"

/-- What the entries of a list are. -/
def Entry : JobList → Type
  | successful => Delivered
  | failed | retrying | sending => Recipient

/-- Reads an entry of a list in a job that lies some arrays and objects deep. -/
def read (level : Nat) : (list : JobList) → Node → Option list.Entry
  | successful => Delivered.ofNode? (level + 2)
  | failed => Recipient.ofNode?
  | retrying => Recipient.ofNode?
  | sending => Recipient.ofNode?

/-- The entries of a list. -/
def entries : (list : JobList) → SendJob → List list.Entry
  | successful => SendJob.successful
  | failed => SendJob.failed
  | retrying => SendJob.retrying
  | sending => SendJob.sending

/-- A job with other entries in a list. -/
def put : (list : JobList) → List list.Entry → SendJob → SendJob
  | successful, entries, job => { job with successful := entries }
  | failed, entries, job => { job with failed := entries }
  | retrying, entries, job => { job with retrying := entries }
  | sending, entries, job => { job with sending := entries }

theorem name_inj {list other : JobList} : list.name = other.name ↔ list = other := by
  cases list <;> cases other <;> simp [name]

/-- The members of a job that are no lists. -/
def singles : List String :=
  ["statusCode", "statusDescription", "percent", "totalToSend"]

theorem ne_name (list : JobList) {name : String} (single : name ∈ singles) : name ≠ list.name := by
  rintro rfl
  cases list <;> exact absurd single (by decide)

variable (list : JobList) (entries entries' : List list.Entry) (job : SendJob)

@[simp] theorem entries_put : list.entries (list.put entries job) = entries := by
  cases list <;> rfl

@[simp] theorem put_put : list.put entries (list.put entries' job) = list.put entries job := by
  cases list <;> rfl

@[simp] theorem put_entries : list.put (list.entries job) job = job := by
  cases list <;> rfl

@[simp] theorem code_put : (list.put entries job).code = job.code := by
  cases list <;> rfl

@[simp] theorem description_put : (list.put entries job).description = job.description := by
  cases list <;> rfl

@[simp] theorem percent_put : (list.put entries job).percent = job.percent := by
  cases list <;> rfl

@[simp] theorem totalToSend_put : (list.put entries job).totalToSend = job.totalToSend := by
  cases list <;> rfl

theorem entries_put_of_ne {other : JobList} (ne : other ≠ list) :
    other.entries (list.put entries job) = other.entries job := by
  cases list <;> cases other <;> first | rfl | exact absurd rfl ne

end JobList

namespace SendJob

/-- What the members of a job are read as. -/
structure ReadFrom (level : Nat) (m : Members) (job : SendJob) : Prop where
  code : (m.optional "statusCode" Node.text?).map (·.bind StatusCode.ofText?) = some job.code
  description : m.optional "statusDescription" Node.text? = some job.description
  percent : m.getD "percent" Node.double? 0.0 = some job.percent
  lists : ∀ list : JobList, m.getD list.name (list? (list.read level)) [] = some (list.entries job)
  totalToSend : m.getD "totalToSend" (Node.natBelow? UInt64.size) 0 = some job.totalToSend

variable {level : Nat}

theorem ofNode?_eq_some_iff {n : Node} {job : SendJob} :
    ofNode? level n = some job ↔
      ∃ m, n.members? memberNames = some m ∧ ReadFrom level m job := by
  simp only [ofNode?, Option.bind_eq_bind, Option.bind_eq_some_iff, Option.pure_def,
    Option.some.injEq]
  constructor
  · rintro ⟨m, record, text, hasCode, description, hasDescription, percent, hasPercent, successful,
      hasSuccessful, failed, hasFailed, retrying, hasRetrying, sending, hasSending, total, hasTotal,
      rfl⟩
    refine ⟨m, record, by rw [hasCode]; rfl, hasDescription, hasPercent, ?_, hasTotal⟩
    intro list
    cases list with
    | successful => exact hasSuccessful
    | failed => exact hasFailed
    | retrying => exact hasRetrying
    | sending => exact hasSending
  · rintro ⟨m, record, read⟩
    obtain ⟨text, hasCode, named⟩ := Option.map_eq_some_iff.1 read.code
    exact ⟨m, record, text, hasCode, _, read.description, _, read.percent,
      _, read.lists .successful, _, read.lists .failed, _, read.lists .retrying,
      _, read.lists .sending, _, read.totalToSend, by rw [named]; rfl⟩

/-- With other entries in a list, the other members are read as before. -/
theorem ReadFrom.replace {m m' : Members} {job : SendJob} (read : ReadFrom level m job)
    {list : JobList} {entries : List list.Entry}
    (found : m'.getD list.name (list? (list.read level)) [] = some entries)
    (others : ∀ name ≠ list.name, m'.lookup name = m.lookup name) :
    ReadFrom level m' (list.put entries job) := by
  have same {α : Type} {name : String} (other : name ≠ list.name) (read : Node → Option α)
      (default : α) : m'.getD name read default = m.getD name read default :=
    Members.getD_congr (others name other)
  have single {name : String} (isSingle : name ∈ JobList.singles) : name ≠ list.name :=
    list.ne_name isSingle
  have code : m'.optional "statusCode" Node.text? = m.optional "statusCode" Node.text? :=
    same (single (by decide)) _ none
  have description : m'.optional "statusDescription" Node.text? =
      m.optional "statusDescription" Node.text? := same (single (by decide)) _ none
  refine ⟨?_, ?_, ?_, fun other => ?_, ?_⟩
  · rw [code, read.code, list.code_put]
  · rw [description, read.description, list.description_put]
  · rw [same (single (by decide)), read.percent, list.percent_put]
  · by_cases isList : other = list
    · rw [isList, found, list.entries_put]
    · rw [same (mt JobList.name_inj.1 isList), read.lists other,
        list.entries_put_of_ne entries job isList]
  · rw [same (single (by decide)), read.totalToSend, list.totalToSend_put]

end SendJob

end CampaignConsole
