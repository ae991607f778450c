import CampaignConsole.Watch.RecipientTable
import Mathlib.Data.List.Nodup

/-!
# Laws of the table of recipients

A table is seen through three views: the row of an id (`get?`), the ids that have a row in display
order (`ids`), and the delivered ids.  Every operation has one law for each view, and the later
theory of the table uses only these laws.

* `WellFormed` is the invariant: no id has two rows, no delivered id has one.  `WellFormed.apply`
  says that taking in an answer keeps it.
* `SendJob.mentions` lists what an answer says about emails that are not delivered, in the order in
  which it is taken in, so that `apply_of_code` is a single fold.
-/

namespace CampaignConsole

namespace RecipientTable

/-- The ids that have a row, in display order. -/
def ids (t : RecipientTable) : List EmailId :=
  t.rows.map (·.id)

theorem mem_ids_iff {t : RecipientTable} {x : EmailId} :
    x ∈ t.ids ↔ ∃ row ∈ t.rows, row.id = x := by
  simp [ids]

theorem get?_eq_none_iff {t : RecipientTable} {x : EmailId} : t.get? x = none ↔ x ∉ t.ids := by
  simp [get?, ids]

/-- Dropping the row of an id changes nothing where it has none. -/
theorem filter_eq_rows {t : RecipientTable} {x : EmailId} (missing : x ∉ t.ids) :
    t.rows.filter (·.id != x) = t.rows := by
  rw [List.filter_eq_self]
  intro row member
  exact bne_iff_ne.2 fun same => missing (mem_ids_iff.2 ⟨row, member, same⟩)

theorem contains_iff {t : RecipientTable} {x : EmailId} : t.contains x = true ↔ x ∈ t.ids := by
  rw [contains, Option.isSome_iff_ne_none, ne_eq, get?_eq_none_iff, not_not]

/-! ## Changing a row in place -/

section ChangeFirst

variable {id x : EmailId} {change : RecipientRow → RecipientRow}

theorem map_id_changeFirst (keeps : ∀ row, (change row).id = row.id) (rows : List RecipientRow) :
    (changeFirst id change rows).map (·.id) = rows.map (·.id) := by
  induction rows with
  | nil => rfl
  | cons row rows ih =>
      unfold changeFirst
      split
      · simp [keeps]
      · simp [ih]

theorem find?_changeFirst (keeps : ∀ row, (change row).id = row.id) (rows : List RecipientRow) :
    (changeFirst id change rows).find? (·.id == x) =
      if id = x then (rows.find? (·.id == x)).map change else rows.find? (·.id == x) := by
  induction rows with
  | nil => simp [changeFirst]
  | cons row rows ih =>
      unfold changeFirst
      split
      · rename_i same
        subst same
        by_cases h : row.id = x
        · simp [keeps, h]
        · simp [keeps, h, beq_false_of_ne h]
      · rename_i different
        by_cases h : row.id = x
        · subst h
          simp [Ne.symm different]
        · simp only [List.find?_cons, beq_false_of_ne h, ih]

end ChangeFirst

/-! ## Delivered ids -/

theorem mem_delivered_markDelivered {t : RecipientTable} {id x : EmailId} :
    x ∈ (t.markDelivered id).delivered ↔ x = id ∨ x ∈ t.delivered := by
  unfold markDelivered
  dsimp only
  split
  · rename_i known
    constructor
    · exact Or.inr
    · rintro (rfl | old)
      · exact known
      · exact old
  · exact List.mem_cons

theorem ids_markDelivered (t : RecipientTable) (id : EmailId) :
    (t.markDelivered id).ids = t.ids.filter (· != id) := by
  simp only [ids, markDelivered, List.filter_map]
  rfl

theorem get?_markDelivered (t : RecipientTable) (id x : EmailId) :
    (t.markDelivered id).get? x = if x = id then none else t.get? x := by
  split
  · rename_i same
    rw [get?_eq_none_iff, ids_markDelivered]
    simp [same]
  · rename_i different
    simp only [get?, markDelivered, List.find?_filter]
    congr 1
    funext row
    by_cases h : row.id = x
    · simp [h, different]
    · simp [h]

/-- Takes in a list of delivered emails. -/
def deliverAll (t : RecipientTable) (ds : List Delivered) : RecipientTable :=
  ds.foldl (fun t d => t.markDelivered d.emailId) t

theorem mem_delivered_deliverAll {t : RecipientTable} {ds : List Delivered} {x : EmailId} :
    x ∈ (t.deliverAll ds).delivered ↔ x ∈ ds.map Delivered.emailId ∨ x ∈ t.delivered := by
  induction ds generalizing t with
  | nil => simp [deliverAll]
  | cons d ds ih =>
      have rest := ih (t := t.markDelivered d.emailId)
      rw [mem_delivered_markDelivered] at rest
      rw [List.map_cons, List.mem_cons, or_assoc, or_left_comm, ← rest]
      rfl

theorem get?_deliverAll (t : RecipientTable) (ds : List Delivered) (x : EmailId) :
    (t.deliverAll ds).get? x = if x ∈ ds.map Delivered.emailId then none else t.get? x := by
  induction ds generalizing t with
  | nil => simp [deliverAll]
  | cons d ds ih =>
      have rest := ih (t.markDelivered d.emailId)
      rw [get?_markDelivered] at rest
      rw [show t.deliverAll (d :: ds) = (t.markDelivered d.emailId).deliverAll ds from rfl, rest]
      by_cases same : x = d.emailId <;> simp [same]

/-! ## Rows for recipients -/

theorem delivered_ensure (t : RecipientTable) (r : Recipient) :
    (t.ensure r).delivered = t.delivered := by
  unfold ensure
  split <;> rfl

theorem ids_ensure (t : RecipientTable) (r : Recipient) :
    (t.ensure r).ids =
      if r.id ∈ t.delivered ∨ r.id ∈ t.ids then t.ids else r.id :: t.ids := by
  unfold ensure
  simp only [Bool.or_eq_true, decide_eq_true_eq, contains_iff]
  split <;> rfl

theorem get?_ensure (t : RecipientTable) (r : Recipient) (x : EmailId) :
    (t.ensure r).get? x =
      if r.id = x ∧ x ∉ t.delivered then some ((t.get? x).getD (.ofRecipient r)) else t.get? x := by
  unfold ensure
  simp only [Bool.or_eq_true, decide_eq_true_eq, contains_iff]
  split
  · rename_i present
    split
    · rename_i named
      obtain ⟨rfl, undelivered⟩ := named
      have has := present.resolve_left undelivered
      obtain ⟨row, found⟩ := Option.ne_none_iff_exists'.1 (mt get?_eq_none_iff.1 (not_not.2 has))
      rw [found, Option.getD_some]
    · rfl
  · rename_i absent
    obtain ⟨undelivered, missing⟩ := not_or.1 absent
    by_cases same : r.id = x
    · subst same
      rw [get?_eq_none_iff.2 missing]
      simp [undelivered, get?, RecipientRow.ofRecipient]
    · have other : (RecipientRow.ofRecipient r).id ≠ x := same
      simp [same, get?, other]

theorem id_update (row : RecipientRow) (label : RowLabel) (r : Recipient) :
    (row.update label r).id = row.id :=
  rfl

theorem delivered_mention (t : RecipientTable) (label : RowLabel) (r : Recipient) :
    (t.mention label r).delivered = t.delivered := by
  unfold mention
  split
  · rfl
  · exact delivered_ensure t r

theorem ids_mention (t : RecipientTable) (label : RowLabel) (r : Recipient) :
    (t.mention label r).ids =
      if r.id ∈ t.delivered ∨ r.id ∈ t.ids then t.ids else r.id :: t.ids := by
  unfold mention
  split
  · rename_i delivered
    simp [delivered]
  · rw [← ids_ensure]
    exact map_id_changeFirst (fun row => id_update row label r) _

/-- A mention updates the row of its own recipient, which it makes where there is none, and no
other row; of a delivered recipient it says nothing. -/
theorem get?_mention (t : RecipientTable) (label : RowLabel) (r : Recipient) (x : EmailId) :
    (t.mention label r).get? x =
      if r.id = x ∧ x ∉ t.delivered then
        some (((t.get? x).getD (.ofRecipient r)).update label r)
      else t.get? x := by
  unfold mention
  split
  · rename_i delivered
    have other : ¬(r.id = x ∧ x ∉ t.delivered) := by
      rintro ⟨rfl, undelivered⟩
      exact undelivered delivered
    rw [if_neg other]
  · rename_i undelivered
    have kept (row : RecipientRow) : (row.update label r).id = row.id := id_update row label r
    have changed :
        (changeFirst r.id (·.update label r) (t.ensure r).rows).find? (·.id == x) =
          if r.id = x then ((t.ensure r).rows.find? (·.id == x)).map (·.update label r)
          else (t.ensure r).rows.find? (·.id == x) :=
      find?_changeFirst kept (t.ensure r).rows
    have ensured := get?_ensure t r x
    simp only [get?] at ensured ⊢
    rw [changed, ensured]
    by_cases same : r.id = x
    · subst same
      simp [undelivered]
    · simp [same]

end RecipientTable

/-! ## What an answer says -/

/-- A recipient under the label of the list that names it. -/
structure Mention where
  label : RowLabel
  recipient : Recipient
  deriving DecidableEq, Repr

/-- What an answer says about emails that are not delivered, in the order it is taken in. -/
def SendJob.mentions (job : SendJob) : List Mention :=
  job.sending.map (Mention.mk .sending) ++ job.retrying.map (Mention.mk .retrying) ++
    job.failed.map (Mention.mk .failed)

namespace RecipientTable

/-- Takes in a list of mentions. -/
def mentionEach (t : RecipientTable) (ms : List Mention) : RecipientTable :=
  ms.foldl (fun t m => t.mention m.label m.recipient) t

theorem mentionAll_eq (t : RecipientTable) (label : RowLabel) (rs : List Recipient) :
    t.mentionAll label rs = t.mentionEach (rs.map (Mention.mk label)) := by
  simp [mentionAll, mentionEach, List.foldl_map]

theorem apply_of_code {t : RecipientTable} {job : SendJob} (sent : job.code.isSome) :
    t.apply job = (t.deliverAll job.successful).mentionEach job.mentions := by
  obtain ⟨code, sent⟩ := Option.isSome_iff_exists.1 sent
  simp only [apply, sent, mentionAll_eq, SendJob.mentions]
  simp [mentionEach, deliverAll, List.foldl_append]

theorem apply_of_no_code {t : RecipientTable} {job : SendJob} (unsent : job.code = none) :
    t.apply job = t.clear := by
  simp only [apply, unsent]

theorem delivered_mentionEach (t : RecipientTable) (ms : List Mention) :
    (t.mentionEach ms).delivered = t.delivered := by
  induction ms generalizing t with
  | nil => rfl
  | cons m ms ih => exact (ih _).trans (delivered_mention ..)

theorem get?_clear (t : RecipientTable) (x : EmailId) : t.clear.get? x = none :=
  rfl

/-- The ids reported delivered after an answer. -/
theorem mem_delivered_apply {t : RecipientTable} {job : SendJob} {x : EmailId} :
    x ∈ (t.apply job).delivered ↔
      (job.code.isSome ∧ x ∈ job.successful.map Delivered.emailId) ∨ x ∈ t.delivered := by
  cases code : job.code with
  | none => simp [apply_of_no_code code, clear]
  | some _ =>
      rw [apply_of_code (by simp [code]), delivered_mentionEach, mem_delivered_deliverAll]
      simp

/-! ## The invariant -/

/-- No id has two rows, and no delivered id has one. -/
structure WellFormed (t : RecipientTable) : Prop where
  nodup_ids : t.ids.Nodup
  undelivered : ∀ x ∈ t.ids, x ∉ t.delivered

theorem WellFormed.empty : WellFormed {} :=
  ⟨List.nodup_nil, by simp [ids]⟩

theorem WellFormed.clear {t : RecipientTable} : WellFormed t.clear :=
  ⟨List.nodup_nil, by simp [ids, RecipientTable.clear]⟩

theorem WellFormed.markDelivered {t : RecipientTable} (wf : WellFormed t) (id : EmailId) :
    WellFormed (t.markDelivered id) := by
  refine ⟨?_, ?_⟩
  · rw [ids_markDelivered]
    exact wf.nodup_ids.filter _
  · intro x member delivered
    rw [ids_markDelivered, List.mem_filter, bne_iff_ne] at member
    rcases mem_delivered_markDelivered.1 delivered with same | old
    · exact member.2 same
    · exact wf.undelivered x member.1 old

/-- The step of every operation that adds an id in front unless it is known. -/
theorem WellFormed.of_ids {t t' : RecipientTable} {r : Recipient} (wf : WellFormed t)
    (delivered : t'.delivered = t.delivered)
    (added : t'.ids = if r.id ∈ t.delivered ∨ r.id ∈ t.ids then t.ids else r.id :: t.ids) :
    WellFormed t' := by
  split at added
  · exact ⟨added ▸ wf.nodup_ids, by rw [added, delivered]; exact wf.undelivered⟩
  · rename_i new
    obtain ⟨undelivered, missing⟩ := not_or.1 new
    refine ⟨?_, ?_⟩
    · rw [added]
      exact List.nodup_cons.2 ⟨missing, wf.nodup_ids⟩
    · rw [added, delivered]
      intro x member
      rcases List.mem_cons.1 member with rfl | old
      · exact undelivered
      · exact wf.undelivered x old

theorem WellFormed.ensure {t : RecipientTable} (wf : WellFormed t) (r : Recipient) :
    WellFormed (t.ensure r) :=
  wf.of_ids (delivered_ensure t r) (ids_ensure t r)

theorem WellFormed.mention {t : RecipientTable} (wf : WellFormed t) (label : RowLabel)
    (r : Recipient) : WellFormed (t.mention label r) :=
  wf.of_ids (delivered_mention t label r) (ids_mention t label r)

theorem WellFormed.deliverAll {t : RecipientTable} (wf : WellFormed t) (ds : List Delivered) :
    WellFormed (t.deliverAll ds) := by
  induction ds generalizing t with
  | nil => exact wf
  | cons d ds ih => exact ih (wf.markDelivered d.emailId)

theorem WellFormed.mentionEach {t : RecipientTable} (wf : WellFormed t) (ms : List Mention) :
    WellFormed (t.mentionEach ms) := by
  induction ms generalizing t with
  | nil => exact wf
  | cons m ms ih => exact ih (wf.mention m.label m.recipient)

theorem WellFormed.apply {t : RecipientTable} (wf : WellFormed t) (job : SendJob) :
    WellFormed (t.apply job) := by
  cases code : job.code with
  | none => exact apply_of_no_code code ▸ WellFormed.clear
  | some _ =>
      rw [apply_of_code (by simp [code])]
      exact (wf.deliverAll job.successful).mentionEach job.mentions

/-- In a well-formed table no other row has the id of a row. -/
theorem WellFormed.exists_split {t : RecipientTable} (wf : WellFormed t) {row : RecipientRow}
    (member : row ∈ t.rows) :
    ∃ front back, t.rows = front ++ row :: back ∧
      (∀ other ∈ front, other.id ≠ row.id) ∧ ∀ other ∈ back, other.id ≠ row.id := by
  obtain ⟨front, back, split⟩ := List.append_of_mem member
  have nodup := wf.nodup_ids
  simp only [ids, split, List.map_append, List.map_cons, List.nodup_middle, List.nodup_cons,
    List.mem_append, List.mem_map, not_or, not_exists, not_and] at nodup
  exact ⟨front, back, split, nodup.1⟩

/-- In a well-formed table the row of an id is the only one. -/
theorem WellFormed.filter_eq {t : RecipientTable} (wf : WellFormed t) {row : RecipientRow}
    (member : row ∈ t.rows) : t.rows.filter (·.id == row.id) = [row] := by
  obtain ⟨front, back, split, inFront, inBack⟩ := wf.exists_split member
  have front_nil : front.filter (·.id == row.id) = [] := by
    simpa [List.filter_eq_nil_iff] using inFront
  have back_nil : back.filter (·.id == row.id) = [] := by
    simpa [List.filter_eq_nil_iff] using inBack
  rw [split, List.filter_append, List.filter_cons, front_nil, back_nil]
  simp

/-- In a well-formed table every row is the one found by its id. -/
theorem WellFormed.get?_eq {t : RecipientTable} (wf : WellFormed t) {row : RecipientRow}
    (member : row ∈ t.rows) : t.get? row.id = some row := by
  rw [get?, ← List.head?_filter, wf.filter_eq member, List.head?_cons]

end RecipientTable

end CampaignConsole
