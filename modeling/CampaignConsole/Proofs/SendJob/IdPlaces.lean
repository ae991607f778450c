import CampaignConsole.Proofs.Json.Doubles
import CampaignConsole.Proofs.Json.Openings
import CampaignConsole.Proofs.SendJob.Reading

/-!
# The places of an id in a send job

An `IdPlace` is a send job with one id left open: the id of a recipient in one of its four lists, or
a bare entry of the list of delivered emails.  `IdPlace.readsThrough` says that the reader finds
there the id that was filled in, and that values which are read as one id can stand for one another.

`ReadsThrough` is the notion behind it, for every context around an id and every reader of the
whole; `ReadsThrough.bind_map` carries it from a context to the next larger one.
-/

namespace CampaignConsole

open Json Node

/-! ## Readers of a context around an id -/

/-- A reader finds the id that stands in a context, values that are read as one id are the same to
it, and whether it reads the whole does not depend on the id. -/
structure ReadsThrough {α : Type} (context : Node → Node) (read : Node → Option α)
    (idOf : α → Option EmailId) : Prop where
  finds : ∀ {v id a}, EmailId.ofNode? v = some id → read (context v) = some a → idOf a = some id
  same : ∀ {v v' id}, EmailId.ofNode? v = some id → EmailId.ofNode? v' = some id →
    read (context v) = read (context v')
  complete : ∀ {v v' id id'}, EmailId.ofNode? v = some id → EmailId.ofNode? v' = some id' →
    (read (context v)).isSome = (read (context v')).isSome

section

variable {α β γ : Type} {context context' : Node → Node} {read : Node → Option α}
  {read' : Node → Option γ} {idOf : α → Option EmailId} {idOf' : γ → Option EmailId}

theorem ReadsThrough.id : ReadsThrough (fun v => v) EmailId.ofNode? some where
  finds here found := by rw [← found, here]
  same here there := here.trans there.symm
  complete here there := by rw [here, there]; rfl

/-- Reading a larger context puts what is read inside to what is read around it. -/
theorem ReadsThrough.bind_map (inside : ReadsThrough context read idOf) (around : Option β)
    (put : α → β → γ)
    (shape : ∀ v id, EmailId.ofNode? v = some id →
      read' (context' v) = (read (context v)).bind fun a => around.map (put a))
    (keeps : ∀ a b, around = some b → idOf' (put a b) = idOf a) :
    ReadsThrough context' read' idOf' where
  finds {v id c} here found := by
    rw [shape v id here, Option.bind_eq_some_iff] at found
    obtain ⟨a, foundInside, foundAround⟩ := found
    obtain ⟨b, rest, rfl⟩ := Option.map_eq_some_iff.1 foundAround
    exact (keeps a b rest).trans (inside.finds here foundInside)
  same {v v' id} here there := by
    rw [shape v id here, shape v' id there, inside.same here there]
  complete {v v' id id'} here there := by
    have both := inside.complete here there
    rw [shape v id here, shape v' id' there]
    cases first : read (context v) <;> cases second : read (context v')
    · rfl
    · rw [first, second] at both
      cases both
    · rw [first, second] at both
      cases both
    · rw [Option.bind_some, Option.bind_some, Option.isSome_map, Option.isSome_map]

/-! ## Lists -/

theorem length_mapM {items : List Node} {entries : List α}
    (found : items.mapM read = some entries) : entries.length = items.length := by
  induction items generalizing entries with
  | nil =>
      cases found
      rfl
  | cons item items ih =>
      rw [List.mapM_cons] at found
      obtain ⟨entry, _, found⟩ := Option.bind_eq_some_iff.1 found
      obtain ⟨rest, others, found⟩ := Option.bind_eq_some_iff.1 found
      cases found
      rw [List.length_cons, List.length_cons, ih others]

theorem list?_middle (read : Node → Option α) (before after : List Node) (item : Node) :
    list? read (.array (before ++ item :: after)) = (read item).bind fun entry =>
      ((before.mapM read).bind fun front => (after.mapM read).map (front, ·)).map fun sides =>
        sides.1 ++ entry :: sides.2 := by
  rw [list?, List.mapM_append, List.mapM_cons]
  cases before.mapM read <;> cases read item <;> cases after.mapM read <;> rfl

/-- An entry of a list. -/
theorem ReadsThrough.inList (inside : ReadsThrough context read idOf) (before after : List Node) :
    ReadsThrough (fun v => .array (before ++ context v :: after)) (list? read)
      (fun entries => entries[before.length]?.bind idOf) := by
  refine inside.bind_map _ _ (fun v _ _ => list?_middle read before after (context v)) ?_
  intro entry sides found
  obtain ⟨front, front_read, rest⟩ := Option.bind_eq_some_iff.1 found
  obtain ⟨back, _, rfl⟩ := Option.map_eq_some_iff.1 rest
  rw [← length_mapM front_read, List.getElem?_append_right (Nat.le_refl _), Nat.sub_self]
  rfl

end

/-! ## Recipients -/

theorem EmailId.ofNode?_ofText (text : String) :
    EmailId.ofNode? (Node.ofText text) = some ⟨text⟩ := by
  rw [Node.ofText, EmailId.ofNode?, textOf?_spell]
  rfl

/-- A value that is read as an id lies in no array or object of its own and can be kept whole. -/
theorem EmailId.depth_and_isSound {v : Node} {id : EmailId} (here : EmailId.ofNode? v = some id) :
    v.depth = 0 ∧ v.isSound = true := by
  cases v with
  | string s =>
      obtain ⟨text, stands, _⟩ := Option.map_eq_some_iff.1 here
      exact ⟨rfl, Option.isSome_iff_exists.2 ⟨text, stands⟩⟩
  | number n =>
      obtain ⟨integer, isInteger, _⟩ := Option.map_eq_some_iff.1 here
      exact ⟨rfl, Number.isSome_double? isInteger⟩
  | _ => cases here

namespace Recipient

/-- A recipient is its id and what is read of the other members, whatever its id is. -/
theorem ofNode?_fill (record : Opening memberNames "emailId") (v : Node) :
    ofNode? (record.fill v) = (EmailId.ofNode? v).bind fun id =>
      (ofNode? (record.fill (ofText ""))).map fun r => { r with id } := by
  rcases record.members?_fill (by decide) (by decide) with refused | ⟨members, reads⟩
  · have noRecipient (w : Node) : ofNode? (record.fill w) = none := by
      rw [ofNode?, refused]
      rfl
    rw [noRecipient, noRecipient]
    cases EmailId.ofNode? v <;> rfl
  · have opened (w : Node) :
        (members w).required "emailId" EmailId.ofNode? = EmailId.ofNode? w := by
      rw [Members.required, (reads w).2.1]
      rfl
    have readFrom (w : Node) (r : Recipient) :
        ofNode? (record.fill w) = some r ↔ ReadFrom (members w) r := by
      simp [ofNode?_eq_some_iff, (reads w).1]
    ext r
    rw [readFrom, Option.bind_eq_some_iff]
    constructor
    · intro read
      have blank := read.replace ((opened _).trans (EmailId.ofNode?_ofText ""))
        ((reads (ofText "")).2.2 v)
      refine ⟨r.id, (opened v).symm.trans read.id, ?_⟩
      rw [(readFrom _ _).2 blank]
      rfl
    · rintro ⟨id, found, rest⟩
      obtain ⟨r', blank, rfl⟩ := Option.map_eq_some_iff.1 rest
      exact ((readFrom _ _).1 blank).replace ((opened v).trans found) ((reads v).2.2 _)

theorem readsThrough (record : Opening memberNames "emailId") :
    ReadsThrough record.fill ofNode? (fun r => some r.id) :=
  ReadsThrough.id.bind_map _ _ (fun v _ _ => ofNode?_fill record v) fun _ _ _ => rfl

end Recipient

/-! ## Delivered entries -/

/-- What is read as a recipient is an object or an array, so it is no id. -/
theorem Recipient.ofNode?_eq_none_or (n : Node) :
    Recipient.ofNode? n = none ∨ EmailId.ofNode? n = none := by
  cases n with
  | array => exact .inr rfl
  | object => exact .inr rfl
  | _ => exact .inl rfl

namespace Delivered

variable {level : Nat} {n : Node}

theorem ofNode?_of_id {id : EmailId} (here : EmailId.ofNode? n = some id)
    (shallow : level ≤ depthLimit) : ofNode? level n = some (.id id) := by
  obtain ⟨depth, sound⟩ := EmailId.depth_and_isSound here
  have kept : n.canKeep level = true := by
    rw [canKeep, depth, sound, Nat.add_zero, decide_eq_true shallow]
    rfl
  have noRecipient : Recipient.ofNode? n = none := by
    rcases Recipient.ofNode?_eq_none_or n with none | none
    · exact none
    · rw [none] at here
      cases here
  rw [ofNode?, if_pos kept, noRecipient, here]
  rfl

theorem ofNode?_of_deep (deep : depthLimit < level) : ofNode? level n = none := by
  rw [ofNode?, if_neg]
  rw [canKeep, Bool.and_eq_true, decide_eq_true_iff]
  omega

/-- What is no id is a recipient, where it can be kept whole. -/
theorem ofNode?_of_no_id (noId : EmailId.ofNode? n = none) :
    ofNode? level n = (Recipient.ofNode? n).bind fun r =>
      (if n.canKeep level then some () else none).map fun _ => .recipient r := by
  rw [ofNode?, noId]
  cases n.canKeep level <;> cases Recipient.ofNode? n <;> rfl

/-- An entry that is read is a recipient or an id, and not both. -/
theorem read_one_way {d : Delivered} (found : ofNode? level n = some d) :
    (∃ r, d = .recipient r ∧ Recipient.ofNode? n = some r ∧ EmailId.ofNode? n = none) ∨
      ∃ id, d = .id id ∧ Recipient.ofNode? n = none ∧ EmailId.ofNode? n = some id := by
  unfold ofNode? at found
  split_ifs at found
  split at found
  · rename_i r isRecipient
    cases found
    rcases Recipient.ofNode?_eq_none_or n with none | none
    · rw [none] at isRecipient
      cases isRecipient
    · exact .inl ⟨r, rfl, isRecipient, none⟩
  · rename_i noRecipient
    obtain ⟨id, isId, rfl⟩ := Option.map_eq_some_iff.1 found
    exact .inr ⟨id, rfl, noRecipient, isId⟩

theorem readsThrough_bare (level : Nat) :
    ReadsThrough (fun v => v) (ofNode? level) (fun d => some d.emailId) := by
  refine ReadsThrough.id.bind_map (if level ≤ depthLimit then some () else none)
    (fun id _ => .id id) (fun v id here => ?_) fun _ _ _ => rfl
  rw [here, Option.bind_some]
  split_ifs with shallow
  · exact ofNode?_of_id here shallow
  · exact ofNode?_of_deep (Nat.lt_of_not_le shallow)

theorem readsThrough_record (level : Nat) (record : Opening Recipient.memberNames "emailId") :
    ReadsThrough record.fill (ofNode? level) (fun d => some d.emailId) := by
  refine (Recipient.readsThrough record).bind_map
    (if (record.fill (ofText "")).canKeep level then some () else none)
    (fun r _ => .recipient r) (fun v id here => ?_) fun _ _ _ => rfl
  -- Every value that is read as an id has the depth of a text and is as sound.
  obtain ⟨depth, sound⟩ := EmailId.depth_and_isSound here
  obtain ⟨depth', sound'⟩ := EmailId.depth_and_isSound (EmailId.ofNode?_ofText "")
  rw [record.canKeep_fill (depth'.trans depth.symm) (sound'.trans sound.symm)]
  have noId : EmailId.ofNode? (record.fill v) = none := by
    cases record <;> rfl
  exact ofNode?_of_no_id noId

end Delivered

/-! ## Lists of a job -/

namespace JobList

/-- The id of an entry. -/
def idOf : (list : JobList) → list.Entry → EmailId
  | successful => Delivered.emailId
  | failed => Recipient.id
  | retrying => Recipient.id
  | sending => Recipient.id

/-- The ids in a list, in its order. -/
def ids (list : JobList) (job : SendJob) : List EmailId :=
  (list.entries job).map list.idOf

end JobList

/-- A job is a list of it and what is read of the other members, whatever the list holds. -/
theorem SendJob.ofNode?_fill (level : Nat) (list : JobList)
    (job : Opening SendJob.memberNames list.name) {w : Node} (notNull : w ≠ .null) :
    SendJob.ofNode? level (job.fill w) = (list? (list.read level) w).bind fun entries =>
      (SendJob.ofNode? level (job.fill .null)).map (list.put entries) := by
  rcases job.members?_fill (by cases list <;> decide) (by decide) with refused | ⟨members, reads⟩
  · have noJob (v : Node) : SendJob.ofNode? level (job.fill v) = none := by
      rw [SendJob.ofNode?, refused]
      rfl
    rw [noJob, noJob]
    cases list? (list.read level) w <;> rfl
  · have filled : (members w).getD list.name (list? (list.read level)) [] =
        list? (list.read level) w := Members.getD_of_ne_null (reads w).2.1 notNull
    have opened : (members .null).getD list.name (list? (list.read level)) [] = some [] :=
      Members.getD_of_null (reads .null).2.1
    have readFrom (v : Node) (found : SendJob) :
        ofNode? level (job.fill v) = some found ↔ ReadFrom level (members v) found := by
      simp [ofNode?_eq_some_iff, (reads v).1]
    ext found
    rw [readFrom, Option.bind_eq_some_iff]
    constructor
    · intro read
      have blank := read.replace opened ((reads .null).2.2 w)
      refine ⟨list.entries found, filled.symm.trans (read.lists list), ?_⟩
      rw [(readFrom _ _).2 blank, Option.map_some, list.put_put, list.put_entries]
    · rintro ⟨entries, inside, rest⟩
      obtain ⟨around, blank, rfl⟩ := Option.map_eq_some_iff.1 rest
      exact ((readFrom _ _).1 blank).replace (filled.trans inside) ((reads w).2.2 _)

/-! ## Places of an id -/

/-- A send job with one id left open. -/
inductive IdPlace where
  /-- The id of a recipient in a list. -/
  | record (list : JobList) (job : Opening SendJob.memberNames list.name)
    (before after : List Node) (recipient : Opening Recipient.memberNames "emailId")
  /-- A bare entry of the list of delivered emails. -/
  | bare (job : Opening SendJob.memberNames JobList.successful.name) (before after : List Node)

namespace IdPlace

/-- The job with a value for the open id. -/
def fill : IdPlace → Node → Node
  | record _ job before after recipient, v =>
      job.fill (.array (before ++ recipient.fill v :: after))
  | bare job before after, v => job.fill (.array (before ++ v :: after))

/-- The list with the open id. -/
def list : IdPlace → JobList
  | record list .. => list
  | bare .. => .successful

/-- How many entries of the list stand before the open id. -/
def index : IdPlace → Nat
  | record _ _ before _ _ => before.length
  | bare _ before _ => before.length

/-- The id that a job has at the place. -/
def idOf (place : IdPlace) (job : SendJob) : Option EmailId :=
  (place.list.ids job)[place.index]?

end IdPlace

theorem JobList.readsThrough_record (list : JobList) (level : Nat)
    (record : Opening Recipient.memberNames "emailId") :
    ReadsThrough record.fill (list.read level) (fun entry => some (list.idOf entry)) := by
  cases list with
  | successful => exact Delivered.readsThrough_record (level + 2) record
  | failed => exact Recipient.readsThrough record
  | retrying => exact Recipient.readsThrough record
  | sending => exact Recipient.readsThrough record

/-- A list of a job. -/
theorem ReadsThrough.inJob {context : Node → Node} {list : JobList} {level : Nat}
    (inside : ReadsThrough context (list.read level) (fun entry => some (list.idOf entry)))
    (job : Opening SendJob.memberNames list.name) (before after : List Node) :
    ReadsThrough (fun v => job.fill (.array (before ++ context v :: after)))
      (SendJob.ofNode? level) (fun job => (list.ids job)[before.length]?) := by
  refine (inside.inList before after).bind_map _ _
    (fun v _ _ => SendJob.ofNode?_fill level list job nofun) fun entries around _ => ?_
  rw [JobList.ids, list.entries_put, List.getElem?_map]
  cases entries[before.length]? <;> rfl

/-- A job has at a place the id that was filled in, however it is written. -/
theorem IdPlace.readsThrough (place : IdPlace) (level : Nat) :
    ReadsThrough place.fill (SendJob.ofNode? level) place.idOf := by
  cases place with
  | record list job before after recipient =>
      exact (list.readsThrough_record level recipient).inJob job before after
  | bare job before after =>
      have entry : ReadsThrough (fun v => v) (JobList.successful.read level)
          (fun entry => some (JobList.successful.idOf entry)) :=
        Delivered.readsThrough_bare (level + 2)
      exact entry.inJob job before after

/-- An entry that is neither a recipient nor an id is in no list of delivered emails. -/
theorem SendJob.ofNode?_of_neither {level : Nat} {entry : Node}
    (noRecipient : Recipient.ofNode? entry = none) (noId : EmailId.ofNode? entry = none)
    (job : Opening SendJob.memberNames JobList.successful.name) (before after : List Node) :
    SendJob.ofNode? level (job.fill (.array (before ++ entry :: after))) = none := by
  have noEntry : JobList.successful.read level entry = none := by
    show Delivered.ofNode? (level + 2) entry = none
    rw [Delivered.ofNode?_of_no_id noId, noRecipient]
    rfl
  have notNull : Node.array (before ++ entry :: after) ≠ .null := nofun
  rw [SendJob.ofNode?_fill level .successful job notNull, list?_middle, noEntry]
  rfl

end CampaignConsole
