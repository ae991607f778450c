import CampaignConsole.Proofs.Json.WrittenDoubles
import CampaignConsole.Proofs.Json.WrittenRecords
import CampaignConsole.Proofs.SendJob.IdPlaces
import Mathlib.Data.List.DropRight

/-!
# What is read of a job is written and read again

A `SendJob` that was read holds only what can be read again (`SendJob.Fits`): counts in their bounds
and a status code that its own text names.  Writing such a job and reading the text again gives the
job back, but for its percentage.  `SendJob.reread` says this for the texts of jobs, recipients and
delivered entries.
-/

namespace CampaignConsole

open Json Node

/-! ## Recipients -/

namespace Recipient

/-- A recipient that was read has counted its retries in 32 bits. -/
theorem retries_lt {v : Node} {r : Recipient} (read : ofNode? v = some r) :
    r.retries < UInt32.size := by
  rcases ofNode?_eq_some_iff.1 read with ⟨m, _, members⟩
  exact Members.of_getD (P := (· < UInt32.size)) (by decide) (fun _ _ => lt_of_natBelow?)
    members.retries

/-- The members that a recipient is written with. -/
def members (r : Recipient) : Members := [
  ("emailId", r.id.toNode),
  ("email", ofText r.email),
  ("fullName", ofText r.fullName),
  ("retries", ofNat r.retries),
  ("lastError", ofText? r.lastError)]

theorem members?_toNode (r : Recipient) : r.toNode.members? memberNames = some r.members :=
  members?_ofMembers r.members (show memberNames.Nodup by decide)

theorem ofNode?_toNode {r : Recipient} (small : r.retries < UInt32.size) :
    ofNode? r.toNode = some r := by
  refine ofNode?_eq_some_iff.2 ⟨r.members, r.members?_toNode, ?_⟩
  exact {
    id := EmailId.ofNode?_ofText r.id.text
    email := Members.getD_ofText rfl
    fullName := Members.getD_ofText rfl
    retries := by
      have found : r.members.lookup "retries" = some (ofNat r.retries) := rfl
      rw [Members.getD_of_ne_null found nofun]
      exact natBelow?_ofNat small (by decide)
    lastError := Members.optional_ofText? rfl }

theorem readsBack (r : Recipient) : r.toNode.ReadsBack := by
  have values : ∀ member ∈ r.members, member.2.ReadsBack := by
    simp only [members, List.forall_mem_cons]
    exact ⟨.ofText _, .ofText _, .ofText _, .ofNat _, .ofText? _, nofun⟩
  exact ReadsBack.ofMembers values

/-- A recipient is written as one object, which can be kept whole. -/
theorem depth_toNode (r : Recipient) : r.toNode.depth = 1 := by
  obtain ⟨_, _, _, _, _ | _⟩ := r <;> rfl

theorem isSound_toNode {r : Recipient} (small : r.retries < UInt32.size) :
    r.toNode.isSound = true := by
  have counted : r.retries < 2 ^ 64 := small.trans (by decide)
  have sound : ∀ member ∈ r.members, member.2.isSound = true := by
    simp only [members, List.forall_mem_cons]
    exact ⟨isSound_ofText _, isSound_ofText _, isSound_ofText _,
      Number.isSome_double? (Number.integer?_ofNat counted), isSound_ofText? _, nofun⟩
  exact isSound_ofMembers sound

end Recipient

/-! ## Delivered entries -/

namespace Delivered

/-- The retries of a delivered recipient fit in 32 bits. -/
def Fits : Delivered → Prop
  | recipient r => r.retries < UInt32.size
  | id _ => True

theorem fits_of_ofNode? {level : Nat} {v : Node} {d : Delivered} (read : ofNode? level v = some d) :
    d.Fits := by
  unfold ofNode? at read
  split at read
  · split at read
    · rename_i r found
      cases read
      exact Recipient.retries_lt found
    · obtain ⟨_, _, rfl⟩ := Option.map_eq_some_iff.1 read
      trivial
  · cases read

theorem ofNode?_toNode {level : Nat} (shallow : level < depthLimit) {d : Delivered}
    (fits : d.Fits) : ofNode? level d.toNode = some d := by
  cases d with
  | recipient r =>
      have kept : r.toNode.canKeep level = true := by
        rw [canKeep, r.depth_toNode, Recipient.isSound_toNode fits, Bool.and_true,
          decide_eq_true_eq]
        exact shallow
      rw [toNode, ofNode?, if_pos kept, Recipient.ofNode?_toNode fits]
  | id i => exact ofNode?_of_id (EmailId.ofNode?_ofText i.text) (Nat.le_of_lt shallow)

theorem readsBack : ∀ d : Delivered, d.toNode.ReadsBack
  | recipient r => r.readsBack
  | id i => .ofText i.text

end Delivered

/-! ## Status codes -/

/-- A trimmed text does not start with a blank character. -/
theorem Text.dropWhile_trimChars (cs : List Char) :
    (Text.trimChars cs).dropWhile Text.isBlank = Text.trimChars cs := by
  have front : Text.trimChars cs <+: cs.dropWhile Text.isBlank := List.rdropWhile_prefix _ _
  rw [List.dropWhile_eq_self_iff]
  intro nonempty
  rw [front.getElem nonempty]
  exact List.dropWhile_get_zero_not _ _ (nonempty.trans_le front.length_le)

/-- Nothing is left to trim of a trimmed text. -/
theorem Text.trim_trim (s : String) : Text.trim (Text.trim s) = Text.trim s := by
  have chars (cs : List Char) : Text.trimChars (Text.trimChars cs) = Text.trimChars cs := by
    rw [Text.trimChars, Text.dropWhile_trimChars]
    exact List.rdropWhile_idempotent _ _
  rw [Text.trim, Text.trim, String.toList_ofList, chars]

/-- A code is named by its own text. -/
theorem StatusCode.ofText?_text {text : String} {code : StatusCode}
    (named : ofText? text = some code) : ofText? code.text = some code := by
  have trimmed : ofText? (Text.trim text) = some code := by
    rw [← named, ofText?, ofText?, Text.trim_trim]
  unfold ofText? at named
  split at named
  · cases named
  -- a code that the page names by a letter
  iterate 6
    · cases named
      rfl
  -- any other code, which is the trimmed text
  · cases named
    exact trimmed

/-! ## Jobs -/

namespace SendJob

/-- What a job that was read holds: its text names its code, and its counts are in their bounds. -/
structure Fits (job : SendJob) : Prop where
  code : ∀ code, job.code = some code → StatusCode.ofText? code.text = some code
  successful : ∀ d ∈ job.successful, d.Fits
  failed : ∀ r ∈ job.failed, r.retries < UInt32.size
  retrying : ∀ r ∈ job.retrying, r.retries < UInt32.size
  sending : ∀ r ∈ job.sending, r.retries < UInt32.size
  totalToSend : job.totalToSend < UInt64.size

theorem fits_of_ofNode? {level : Nat} {v : Node} {job : SendJob}
    (read : ofNode? level v = some job) : job.Fits := by
  rcases ofNode?_eq_some_iff.1 read with ⟨m, _, members⟩
  have recipients {name : String} {rs : List Recipient}
      (found : m.getD name (list? Recipient.ofNode?) [] = some rs) :
      ∀ r ∈ rs, r.retries < UInt32.size :=
    Members.of_getD (P := fun rs : List Recipient => ∀ r ∈ rs, r.retries < UInt32.size)
      (List.forall_mem_nil _)
      (fun _ _ => forall_mem_of_list? fun _ _ => Recipient.retries_lt) found
  exact {
    code := by
      intro c named
      obtain ⟨text, _, code⟩ := Option.map_eq_some_iff.1 members.code
      rw [← code] at named
      obtain ⟨_, _, named⟩ := Option.bind_eq_some_iff.1 named
      exact StatusCode.ofText?_text named
    successful := Members.of_getD (P := fun ds : List Delivered => ∀ d ∈ ds, d.Fits)
      (List.forall_mem_nil _)
      (fun _ _ => forall_mem_of_list? fun _ _ => Delivered.fits_of_ofNode?)
      (members.lists .successful)
    failed := recipients (members.lists .failed)
    retrying := recipients (members.lists .retrying)
    sending := recipients (members.lists .sending)
    totalToSend := Members.of_getD (P := (· < UInt64.size)) (by decide)
      (fun _ _ => lt_of_natBelow?) members.totalToSend }

/-- The members that a job is written with. -/
def members (job : SendJob) : Members := [
  ("statusCode", ofText? (job.code.map StatusCode.text)),
  ("statusDescription", ofText? job.description),
  ("percent", ofDouble job.percent),
  ("successful", .array (job.successful.map Delivered.toNode)),
  ("failed", .array (job.failed.map Recipient.toNode)),
  ("retrying", .array (job.retrying.map Recipient.toNode)),
  ("sending", .array (job.sending.map Recipient.toNode)),
  ("totalToSend", ofNat job.totalToSend)]

theorem members?_toNode (job : SendJob) : job.toNode.members? memberNames = some job.members :=
  members?_ofMembers job.members (show memberNames.Nodup by decide)

/-- The percentage is written as a number that is read, or as null. -/
theorem exists_percent (job : SendJob) :
    ∃ p, job.members.getD "percent" Node.double? 0.0 = some p := by
  have found : job.members.lookup "percent" = some (ofDouble job.percent) := rfl
  unfold ofDouble at found
  rcases written : Number.ofDouble? job.percent with _ | n
  · rw [written] at found
    exact ⟨_, Members.getD_of_null found⟩
  · rw [written] at found
    rw [Members.getD_of_ne_null found nofun]
    exact Option.isSome_iff_exists.1 (Number.written_ofDouble? written).2

theorem ofNode?_toNode {job : SendJob} (fits : job.Fits) {level : Nat}
    (shallow : level + 2 < depthLimit) :
    ∃ p, ofNode? level job.toNode = some { job with percent := p } := by
  obtain ⟨p, percent⟩ := job.exists_percent
  have code : job.members.optional "statusCode" Node.text? =
      some (job.code.map StatusCode.text) := Members.optional_ofText? rfl
  have recipients {name : String} {rs : List Recipient}
      (found : job.members.lookup name = some (.array (rs.map Recipient.toNode)))
      (fit : ∀ r ∈ rs, r.retries < UInt32.size) :
      job.members.getD name (list? Recipient.ofNode?) [] = some rs := by
    rw [Members.getD_of_ne_null found nofun]
    exact list?_map fun r member => Recipient.ofNode?_toNode (fit r member)
  refine ⟨p, ofNode?_eq_some_iff.2 ⟨job.members, job.members?_toNode, ?_⟩⟩
  exact {
    code := by
      rw [code]
      cases given : job.code with
      | none => rfl
      | some c => exact congrArg some (fits.code c given)
    description := Members.optional_ofText? rfl
    percent := percent
    lists := by
      intro list
      cases list with
      | successful =>
          have found : job.members.lookup "successful" =
              some (.array (job.successful.map Delivered.toNode)) := rfl
          refine (Members.getD_of_ne_null found nofun).trans (list?_map fun d member => ?_)
          exact Delivered.ofNode?_toNode shallow (fits.successful d member)
      | failed => exact recipients rfl fits.failed
      | retrying => exact recipients rfl fits.retrying
      | sending => exact recipients rfl fits.sending
    totalToSend := by
      have found : job.members.lookup "totalToSend" = some (ofNat job.totalToSend) := rfl
      rw [Members.getD_of_ne_null found nofun]
      exact natBelow?_ofNat fits.totalToSend (by decide) }

theorem readsBack (job : SendJob) : job.toNode.ReadsBack := by
  have recipients (rs : List Recipient) :
      (Node.array (rs.map Recipient.toNode)).ReadsBack := by
    apply ReadsBack.array
    rw [List.forall_mem_map]
    exact fun r _ => r.readsBack
  have delivered : (Node.array (job.successful.map Delivered.toNode)).ReadsBack := by
    apply ReadsBack.array
    rw [List.forall_mem_map]
    exact fun d _ => d.readsBack
  have percent : (ofDouble job.percent).ReadsBack := by
    unfold ofDouble
    rcases written : Number.ofDouble? job.percent with _ | n
    · exact .null
    · exact .number (Number.written_ofDouble? written).1
  have values : ∀ member ∈ job.members, member.2.ReadsBack := by
    simp only [members, List.forall_mem_cons]
    exact ⟨.ofText? _, .ofText? _, percent, delivered, recipients _, recipients _, recipients _,
      .ofNat _, List.forall_mem_nil _⟩
  exact ReadsBack.ofMembers values

/-- **What is read is written and read again.**  Let a text be read as a recipient, as a delivered
entry or as a job.  What was read is written as a text that is read again: the recipient and the
delivered entry are the same, and so is the job but for its percentage. -/
theorem reread (places : List Place) :
    (∀ r, (parse? places >>= Recipient.ofNode?) = some r →
      (parse? (r.toNode.render.toList.map some) >>= Recipient.ofNode?) = some r) ∧
    (∀ d, (parse? places >>= Delivered.ofNode? 0) = some d →
      (parse? (d.toNode.render.toList.map some) >>= Delivered.ofNode? 0) = some d) ∧
    ∀ job, (parse? places >>= SendJob.ofNode? 0) = some job →
      ∃ p, (parse? (job.toNode.render.toList.map some) >>= SendJob.ofNode? 0) =
        some { job with percent := p } := by
  refine ⟨fun r read => ?_, fun d read => ?_, fun job read => ?_⟩
  all_goals obtain ⟨v, _, read⟩ := Option.bind_eq_some_iff.1 read
  · rw [parse?_render r.readsBack]
    exact Recipient.ofNode?_toNode (Recipient.retries_lt read)
  · rw [parse?_render d.readsBack]
    exact Delivered.ofNode?_toNode (by decide) (Delivered.fits_of_ofNode? read)
  · rw [parse?_render job.readsBack]
    exact ofNode?_toNode (fits_of_ofNode? read) (by decide)

/-- A recipient, which is a delivered entry too, and a job, both at their bounds: an alias with
white space around it, the greatest integers and the greatest double, both forms of a delivered
entry, and a character outside the first plane. -/
theorem reread_at_bounds :
    let record := "[\"\\ud83d\\ude00\",null,\" \",4294967295,\"\\\"\\u0001\"]"
    let text := "[\"\\u2003pending \",null,1.7976931348623157e308,[18446744073709551615," ++
      record ++ "],null,[\x7b\"emailId\":-1\x7d],null,18446744073709551615]"
    let r : Recipient := ⟨⟨"😀"⟩, "", " ", 4294967295, some "\"\x01"⟩
    (parse? (record.toList.map some) >>= Recipient.ofNode?) = some r ∧
      (parse? (r.toNode.render.toList.map some) >>= Recipient.ofNode?) = some r ∧
      (parse? (record.toList.map some) >>= Delivered.ofNode? 0) = some (.recipient r) ∧
      (parse? ((Delivered.recipient r).toNode.render.toList.map some) >>= Delivered.ofNode? 0) =
        some (.recipient r) ∧
      ∃ job, (parse? (text.toList.map some) >>= SendJob.ofNode? 0) = some job ∧
        job.code = some .pending ∧
        job.successful = [.id ⟨"18446744073709551615"⟩, .recipient r] ∧
        job.retrying = [⟨⟨"-1"⟩, "", "", 0, none⟩] ∧
        job.totalToSend = 18446744073709551615 ∧
        ∃ p, (parse? (job.toNode.render.toList.map some) >>= SendJob.ofNode? 0) =
          some { job with percent := p } := by
  intro record text r
  have isRecipient : (parse? (record.toList.map some) >>= Recipient.ofNode?) = some r := by
    decide +kernel
  have isDelivered : (parse? (record.toList.map some) >>= Delivered.ofNode? 0) =
      some (.recipient r) := by
    decide +kernel
  have isJob : (parse? (text.toList.map some) >>= SendJob.ofNode? 0).map
      (fun job => (job.code, job.successful, job.retrying, job.totalToSend)) =
      some (some .pending, [.id ⟨"18446744073709551615"⟩, .recipient r],
        [⟨⟨"-1"⟩, "", "", 0, none⟩], 18446744073709551615) := by
    decide +kernel
  obtain ⟨recipient, delivered, _⟩ := reread (record.toList.map some)
  obtain ⟨job, found, fields⟩ := Option.map_eq_some_iff.1 isJob
  simp only [Prod.mk.injEq] at fields
  obtain ⟨code, successful, retrying, totalToSend⟩ := fields
  exact ⟨isRecipient, recipient r isRecipient, isDelivered, delivered _ isDelivered, job, found,
    code, successful, retrying, totalToSend, (reread (text.toList.map some)).2.2 job found⟩

end SendJob

end CampaignConsole
