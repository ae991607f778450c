import CampaignConsole.Page.Envelope
import CampaignConsole.Proofs.Json.NamedMembers

/-!
# What a record reads of its members

A `Shape` is what a value is read as: a recipient, a send job, a campaign, a list or an envelope.
`Shape.read` are the readers, and `known`, `optional` and `member` say which members a record has,
which of them may be left out, and which hold records themselves.

`Alike` says when two records have the same to read under a name, and `read_eq_of_alike` that
records with alike members are read the same, or both not at all.
-/

namespace CampaignConsole

open Json

/-- What a value is read as. -/
inductive Shape where
  | recipient
  /-- A send job that lies some arrays and objects deep. -/
  | job (level : Nat)
  | campaign
  | list (item : Shape)
  | envelope (data : Shape)

namespace Shape

/-- What the values of a shape are read to. -/
def Value : Shape → Type
  | recipient => Recipient
  | job _ => SendJob
  | campaign => Campaign
  | list item => List item.Value
  | envelope data => Envelope data.Value

/-- Reads a value of a shape. -/
def read : (shape : Shape) → Node → Option shape.Value
  | recipient => Recipient.ofNode?
  | job level => SendJob.ofNode? level
  | campaign => Campaign.ofNode?
  | list item => Node.list? item.read
  | envelope data => Envelope.ofNode? data.read

example : (envelope (job 1)).read = Envelope.ofJobNode? := rfl

example : (envelope (list campaign)).read = Envelope.ofCampaignsNode? := rfl

/-- The members that a record knows, in the order of its array form. -/
def known : Shape → List String
  | recipient => Recipient.memberNames
  | job _ => SendJob.memberNames
  | campaign => Campaign.memberNames
  | list _ => []
  | envelope _ => Envelope.memberNames

/-- The members that may be missing or null. -/
def optional : Shape → List String
  | recipient => ["email", "fullName", "retries", "lastError"]
  | job _ => SendJob.memberNames
  | campaign => ["title", "statusDate", "status"]
  | list _ => []
  | envelope _ => ["nextHref", "messages", "data"]

/-- The shape of a member that holds records. -/
def member : Shape → String → Option Shape
  | job _, "failed" | job _, "retrying" | job _, "sending" => some (list recipient)
  | envelope data, "data" => some data
  | _, _ => none

/-- The shape of what stands at a place of an array. -/
def item : Shape → Nat → Option Shape
  | list item, _ => some item
  | shape, place => shape.known[place]?.bind shape.member

/-- Two records have the same to read under a name: the same value, none on one side and null on the
other where the member is optional, or records that are read the same. -/
inductive Alike (shape : Shape) (name : String) : Option Node → Option Node → Prop
  | same (found : Option Node) : Alike shape name found found
  | null : name ∈ shape.optional → Alike shape name none (some .null)
  | inside {inner : Shape} {value value' : Node} :
    shape.member name = some inner → value ≠ .null → value' ≠ .null →
    inner.read value = inner.read value' → Alike shape name (some value) (some value')

/-- Two values are both no records of a shape, or records with alike members. -/
structure AlikeRecords (shape : Shape) (n n' : Node) : Prop where
  array : n.isArray = n'.isArray
  refused : n.members? shape.known = none ↔ n'.members? shape.known = none
  members : ∀ m m', n.members? shape.known = some m → n'.members? shape.known = some m' →
    ∀ name ∈ shape.known, shape.Alike name (m.lookup name) (m'.lookup name) ∧
      (n.isArray = true → (m.lookup name).isNone = (m'.lookup name).isNone)

section

variable {shape inner : Shape} {name : String} {m m' : Members} {γ : Type}
  {readMember : Node → Option γ} {default : γ}

/-! ## One member -/

/-- A member that may be missing or null is read alike, if the records in it are read by their
shape. -/
theorem Alike.getD_of (alike : shape.Alike name (m.lookup name) (m'.lookup name))
    (byShape : ∀ inner, shape.member name = some inner → ∀ value value',
      inner.read value = inner.read value' → readMember value = readMember value') :
    m.getD name readMember default = m'.getD name readMember default := by
  generalize found : m.lookup name = left, found' : m'.lookup name = right at alike
  cases alike with
  | same => rw [Members.getD, Members.getD, found, found']
  | null => rw [Members.getD, Members.getD, found, found']
  | inside holds notNull notNull' same =>
      rw [Members.getD_of_ne_null found notNull, Members.getD_of_ne_null found' notNull']
      exact byShape _ holds _ _ same

theorem Alike.getD (alike : shape.Alike name (m.lookup name) (m'.lookup name))
    (plain : shape.member name = none) :
    m.getD name readMember default = m'.getD name readMember default := by
  refine alike.getD_of fun inner holds => ?_
  simp [plain] at holds

theorem Alike.getD_inside (alike : shape.Alike name (m.lookup name) (m'.lookup name))
    (holds : shape.member name = some inner)
    (byShape : ∀ value value', inner.read value = inner.read value' →
      readMember value = readMember value') :
    m.getD name readMember default = m'.getD name readMember default := by
  refine alike.getD_of fun other holdsOther => ?_
  obtain rfl := Option.some.inj (holds.symm.trans holdsOther)
  exact byShape

theorem Alike.required (alike : shape.Alike name (m.lookup name) (m'.lookup name))
    (must : name ∉ shape.optional) (plain : shape.member name = none) :
    m.required name readMember = m'.required name readMember := by
  generalize found : m.lookup name = left, found' : m'.lookup name = right at alike
  cases alike with
  | same => rw [Members.required, Members.required, found, found']
  | null isOptional => exact absurd isOptional must
  | inside holds => simp [plain] at holds

end

/-! ## Records -/

section

variable {n n' : Node}

/-- What is made of alike records is the same, if it is the same for alike members. -/
theorem AlikeRecords.bind_eq {shape : Shape} (alike : shape.AlikeRecords n n') {γ : Type}
    {body body' : Members → Option γ}
    (same : ∀ m m', (∀ name ∈ shape.known, shape.Alike name (m.lookup name) (m'.lookup name)) →
      (n.isArray = true →
        ∀ name ∈ shape.known, (m.lookup name).isNone = (m'.lookup name).isNone) →
      body m = body' m') :
    (n.members? shape.known >>= body) = (n'.members? shape.known >>= body') := by
  cases left : n.members? shape.known with
  | none =>
      rw [alike.refused.1 left]
      rfl
  | some m =>
      cases right : n'.members? shape.known with
      | none =>
          rw [alike.refused.2 right] at left
          cases left
      | some m' =>
          have each := alike.members m m' left right
          exact same m m' (fun name isKnown => (each name isKnown).1)
            fun isArray name isKnown => (each name isKnown).2 isArray

theorem read_recipient_of_alike (alike : recipient.AlikeRecords n n') :
    recipient.read n = recipient.read n' := by
  refine alike.bind_eq fun m m' each _ => ?_
  simp only [known, Recipient.memberNames, List.forall_mem_cons] at each
  obtain ⟨id, email, fullName, retries, lastError, _⟩ := each
  have must : "emailId" ∉ recipient.optional := by simp [optional]
  simp only [Members.optional, id.required must rfl, email.getD rfl, fullName.getD rfl,
    retries.getD rfl, lastError.getD rfl]

theorem read_job_of_alike {level : Nat} (alike : (job level).AlikeRecords n n') :
    (job level).read n = (job level).read n' := by
  refine alike.bind_eq fun m m' each _ => ?_
  have inLists {name : String}
      (alike : (job level).Alike name (m.lookup name) (m'.lookup name))
      (holds : (job level).member name = some (list recipient)) :
      m.getD name (Node.list? Recipient.ofNode?) [] =
        m'.getD name (Node.list? Recipient.ofNode?) [] :=
    alike.getD_inside holds fun _ _ same => same
  simp only [known, SendJob.memberNames, List.forall_mem_cons] at each
  obtain ⟨code, description, percent, successful, failed, retrying, sending, total, _⟩ := each
  simp only [Members.optional, code.getD rfl, description.getD rfl, percent.getD rfl,
    successful.getD rfl, inLists failed rfl, inLists retrying rfl, inLists sending rfl,
    total.getD rfl]

theorem read_campaign_of_alike (alike : campaign.AlikeRecords n n') :
    campaign.read n = campaign.read n' := by
  refine alike.bind_eq fun m m' each _ => ?_
  simp only [known, Campaign.memberNames, List.forall_mem_cons] at each
  obtain ⟨name, title, date, status, _⟩ := each
  have must : "name" ∉ campaign.optional := by simp [optional]
  simp only [Members.optional, name.required must rfl, title.getD rfl, date.getD rfl,
    status.getD rfl]

theorem read_envelope_of_alike {content : Shape} (alike : (envelope content).AlikeRecords n n') :
    (envelope content).read n = (envelope content).read n' := by
  refine alike.bind_eq fun m m' each present => ?_
  -- An array must hold its data; alike arrays do so both or neither.
  have complete : (n.isArray && (m.lookup "data").isNone) =
      (n'.isArray && (m'.lookup "data").isNone) := by
    rw [← alike.array]
    cases isArray : n.isArray with
    | false => rfl
    | true => rw [present isArray "data" (by simp [known, Envelope.memberNames])]
  have must : "status" ∉ (envelope content).optional := by simp [optional]
  simp only [known, Envelope.memberNames, List.forall_mem_cons] at each
  obtain ⟨status, href, messages, data, _⟩ := each
  have inData : m.getD "data" (fun value => (content.read value).map some) none =
      m'.getD "data" (fun value => (content.read value).map some) none :=
    data.getD_inside rfl fun _ _ same => congrArg (Option.map some) same
  simp only [Members.optional, complete, status.required must rfl, href.getD rfl,
    messages.getD rfl, inData]

/-- Records that are alike are read the same, or both not at all. -/
theorem read_eq_of_alike {shape : Shape} (isRecord : ∀ inner, shape ≠ list inner)
    (alike : shape.AlikeRecords n n') : shape.read n = shape.read n' := by
  cases shape with
  | recipient => exact read_recipient_of_alike alike
  | job level => exact read_job_of_alike alike
  | campaign => exact read_campaign_of_alike alike
  | list inner => exact absurd rfl (isRecord inner)
  | envelope content => exact read_envelope_of_alike alike

end

end Shape

end CampaignConsole
