import CampaignConsole.Proofs.Watch.TableLaws
import Mathlib.Data.List.DropRight

/-!
# The table as a function of the answers so far

`ofHistory` folds a history of answers into the empty table.  `get?_ofHistory` reads the row of an
id off the history: an id that was ever reported delivered has none, and any other one has the row
that its mentions since the last answer without a status code make (`rowOf`).  The first of these
mentions gives the addresses and the last one gives the label, the error and the attempts.

`row_ofHistory_characterized` says the same of the rows themselves: when there is one, that it is
the only one, and where each of its parts comes from.
-/

namespace CampaignConsole

namespace RecipientTable

/-- The table after a history of answers. -/
def ofHistory (jobs : List SendJob) : RecipientTable :=
  jobs.foldl apply {}

/-- The answers after the last one without a status code. -/
def sinceUnsent (jobs : List SendJob) : List SendJob :=
  jobs.rtakeWhile (·.code.isSome)

/-- The mentions of an id, in the order in which they are taken in. -/
def mentionsOf (x : EmailId) (jobs : List SendJob) : List Mention :=
  (jobs.flatMap SendJob.mentions).filter (·.recipient.id == x)

/-- Some answer with a status code reports an id delivered. -/
def Reported (x : EmailId) (jobs : List SendJob) : Prop :=
  ∃ job ∈ jobs, job.code.isSome ∧ x ∈ job.successful.map Delivered.emailId

theorem ofHistory_snoc (jobs : List SendJob) (job : SendJob) :
    ofHistory (jobs ++ [job]) = (ofHistory jobs).apply job := by
  simp [ofHistory, List.foldl_append]

theorem sinceUnsent_snoc_of_code {job : SendJob} (sent : job.code.isSome) (jobs : List SendJob) :
    sinceUnsent (jobs ++ [job]) = sinceUnsent jobs ++ [job] :=
  List.rtakeWhile_concat_pos _ _ _ sent

theorem sinceUnsent_snoc_of_no_code {job : SendJob} (unsent : job.code = none)
    (jobs : List SendJob) : sinceUnsent (jobs ++ [job]) = [] :=
  List.rtakeWhile_concat_neg _ _ _ (by simp [unsent])

theorem mentionsOf_snoc (x : EmailId) (jobs : List SendJob) (job : SendJob) :
    mentionsOf x (jobs ++ [job]) =
      mentionsOf x jobs ++ job.mentions.filter (·.recipient.id == x) := by
  simp [mentionsOf, List.flatMap_append]

theorem mentionsOf_ne_nil_iff {x : EmailId} {jobs : List SendJob} :
    mentionsOf x jobs ≠ [] ↔ ∃ job ∈ jobs, ∃ m ∈ job.mentions, m.recipient.id = x := by
  constructor
  · intro some
    obtain ⟨m, member⟩ := List.exists_mem_of_ne_nil _ some
    obtain ⟨said, named⟩ := List.mem_filter.1 member
    obtain ⟨job, answered, inJob⟩ := List.mem_flatMap.1 said
    exact ⟨job, answered, m, inJob, eq_of_beq named⟩
  · rintro ⟨job, answered, m, inJob, named⟩
    exact List.ne_nil_of_mem
      (List.mem_filter.2 ⟨List.mem_flatMap.2 ⟨job, answered, inJob⟩, beq_of_eq named⟩)

theorem reported_snoc {x : EmailId} {jobs : List SendJob} {job : SendJob} :
    Reported x (jobs ++ [job]) ↔
      (job.code.isSome ∧ x ∈ job.successful.map Delivered.emailId) ∨ Reported x jobs := by
  simp only [Reported, List.mem_append, List.mem_singleton]
  constructor
  · rintro ⟨found, member | rfl, reports⟩
    · exact Or.inr ⟨found, member, reports⟩
    · exact Or.inl reports
  · rintro (reports | ⟨found, member, reports⟩)
    · exact ⟨job, Or.inr rfl, reports⟩
    · exact ⟨found, Or.inl member, reports⟩

theorem wellFormed_ofHistory (jobs : List SendJob) : WellFormed (ofHistory jobs) := by
  induction jobs using List.reverseRecOn with
  | nil => exact WellFormed.empty
  | append_singleton jobs job ih =>
      rw [ofHistory_snoc]
      exact ih.apply job

theorem mem_delivered_ofHistory {x : EmailId} {jobs : List SendJob} :
    x ∈ (ofHistory jobs).delivered ↔ Reported x jobs := by
  induction jobs using List.reverseRecOn with
  | nil => simp [ofHistory, Reported]
  | append_singleton jobs job ih =>
      rw [ofHistory_snoc, mem_delivered_apply, reported_snoc, ih]

/-! ## The row that mentions make -/

/-- The row of an id after further mentions of it. -/
def extendRow (row : Option RecipientRow) (ms : List Mention) : Option RecipientRow :=
  ms.foldl (fun row m =>
    some ((row.getD (.ofRecipient m.recipient)).update m.label m.recipient)) row

/-- The row that the mentions of an id make: the first one makes it and the last one fills it in. -/
def rowOf (ms : List Mention) : Option RecipientRow := do
  let first ← ms.head?
  let last ← ms.getLast?
  return (RecipientRow.ofRecipient first.recipient).update last.label last.recipient

/-- An update leaves nothing of the updates before it. -/
theorem update_update (row : RecipientRow) (label label' : RowLabel) (r r' : Recipient) :
    (row.update label r).update label' r' = row.update label' r' :=
  rfl

theorem extendRow_eq_rowOf (ms : List Mention) : extendRow none ms = rowOf ms := by
  induction ms using List.reverseRecOn with
  | nil => rfl
  | append_singleton ms m ih =>
      have step : extendRow none (ms ++ [m]) = some
          (((extendRow none ms).getD (.ofRecipient m.recipient)).update m.label m.recipient) := by
        simp [extendRow, List.foldl_append]
      rw [step, ih]
      cases ms with
      | nil => rfl
      | cons first ms =>
          obtain ⟨last, isLast⟩ : ∃ last, (first :: ms).getLast? = some last :=
            ⟨_, List.getLast?_eq_some_getLast (List.cons_ne_nil first ms)⟩
          have newLast : (first :: (ms ++ [m])).getLast? = some m := by
            rw [← List.cons_append, List.getLast?_concat]
          simp [rowOf, isLast, newLast, update_update]

theorem rowOf_eq_none_iff {ms : List Mention} : rowOf ms = none ↔ ms = [] := by
  cases ms with
  | nil => simp [rowOf]
  | cons first ms => simp [rowOf, List.getLast?_eq_some_getLast]

/-- What a list of mentions does to the row of an undelivered id. -/
theorem get?_mentionEach {t : RecipientTable} {x : EmailId} (undelivered : x ∉ t.delivered)
    (ms : List Mention) :
    (t.mentionEach ms).get? x = extendRow (t.get? x) (ms.filter (·.recipient.id == x)) := by
  induction ms generalizing t with
  | nil => rfl
  | cons m ms ih =>
      have still : x ∉ (t.mention m.label m.recipient).delivered := by
        rwa [delivered_mention]
      have rest := ih still
      rw [get?_mention] at rest
      by_cases named : m.recipient.id = x
      · rw [if_pos ⟨named, undelivered⟩] at rest
        rw [List.filter_cons_of_pos (by simpa using named)]
        exact rest
      · rw [if_neg fun both => named both.1] at rest
        rw [List.filter_cons_of_neg (by simpa using named)]
        exact rest

/-! ## The history decides the table -/

/-- The row of an id, read off the history. -/
theorem get?_ofHistory (jobs : List SendJob) (x : EmailId) [Decidable (Reported x jobs)] :
    (ofHistory jobs).get? x =
      if Reported x jobs then none else rowOf (mentionsOf x (sinceUnsent jobs)) := by
  split
  · rename_i reported
    have delivered := mem_delivered_ofHistory.2 reported
    have wf := wellFormed_ofHistory jobs
    exact get?_eq_none_iff.2 fun member => wf.undelivered x member delivered
  · rename_i unreported
    -- From the end of the history: an answer without a code starts the mentions anew, any other
    -- one adds its own.
    rw [← extendRow_eq_rowOf]
    induction jobs using List.reverseRecOn with
    | nil => rfl
    | append_singleton jobs job ih =>
        obtain ⟨notNow, notBefore⟩ := not_or.1 (mt reported_snoc.2 unreported)
        rw [ofHistory_snoc]
        cases code : job.code with
        | none =>
            rw [sinceUnsent_snoc_of_no_code code, apply_of_no_code code, get?_clear]
            rfl
        | some _ =>
            have sent : job.code.isSome := by simp [code]
            have unlisted : x ∉ job.successful.map Delivered.emailId := fun member =>
              notNow ⟨sent, member⟩
            have undelivered : x ∉ ((ofHistory jobs).deliverAll job.successful).delivered := by
              rw [mem_delivered_deliverAll, mem_delivered_ofHistory]
              exact not_or.2 ⟨unlisted, notBefore⟩
            rw [apply_of_code sent, get?_mentionEach undelivered, get?_deliverAll,
              if_neg unlisted, ih notBefore, sinceUnsent_snoc_of_code sent, mentionsOf_snoc]
            exact (List.foldl_append ..).symm

/-- The last mention since the rows were forgotten is the last one of all. -/
theorem getLast?_mentionsOf_sinceUnsent {x : EmailId} {jobs : List SendJob} {last : Mention}
    (isLast : (mentionsOf x (sinceUnsent jobs)).getLast? = some last) :
    (mentionsOf x jobs).getLast? = some last := by
  have parts : jobs.rdropWhile (·.code.isSome) ++ sinceUnsent jobs = jobs :=
    List.rdropWhile_append_rtakeWhile ..
  rw [← parts, mentionsOf, List.flatMap_append, List.filter_append, List.getLast?_append]
  rw [mentionsOf] at isLast
  rw [isLast, Option.some_or]

/-- **What a history leaves on the screen.**  An id has a row exactly if no answer with a status
code ever reported it delivered and some answer since the last one without a status code mentions
it.  The row is then the only one; its addresses are those of the first mention since that answer,
and its label, error and attempts are those of the last mention of all. -/
theorem row_ofHistory_characterized (jobs : List SendJob) (x : EmailId) :
    ((∃ row ∈ (ofHistory jobs).rows, row.id = x) ↔
      (∀ job ∈ jobs, job.code.isSome → x ∉ job.successful.map Delivered.emailId) ∧
        ∃ job ∈ sinceUnsent jobs, ∃ m ∈ job.mentions, m.recipient.id = x) ∧
    ∀ row ∈ (ofHistory jobs).rows, row.id = x →
      (ofHistory jobs).rows.filter (·.id == x) = [row] ∧
      ∃ first last : Mention,
        (mentionsOf x (sinceUnsent jobs)).head? = some first ∧
        (mentionsOf x jobs).getLast? = some last ∧
        row.email = first.recipient.email ∧ row.fullName = first.recipient.fullName ∧
        row.label = some last.label ∧ row.tooltip = last.recipient.lastError ∧
        row.attempts = last.recipient.retries := by
  classical
  have view := get?_ofHistory jobs x
  refine ⟨?_, ?_⟩
  · have unreported : ¬Reported x jobs ↔
        ∀ job ∈ jobs, job.code.isSome → x ∉ job.successful.map Delivered.emailId := by
      simp [Reported]
    rw [← mem_ids_iff, ← not_not (a := x ∈ _), ← get?_eq_none_iff, view, ← unreported,
      ← mentionsOf_ne_nil_iff]
    split
    · rename_i reported
      simp [reported]
    · rename_i never
      simp [rowOf_eq_none_iff, never]
  · rintro row member rfl
    have wf := wellFormed_ofHistory jobs
    refine ⟨wf.filter_eq member, ?_⟩
    rw [wf.get?_eq member] at view
    split at view
    · cases view
    · simp only [rowOf, Option.bind_eq_bind, Option.pure_def] at view
      obtain ⟨first, isFirst, view⟩ := Option.bind_eq_some_iff.1 view.symm
      obtain ⟨last, isLast, made⟩ := Option.bind_eq_some_iff.1 view
      cases made
      exact ⟨first, last, isFirst, getLast?_mentionsOf_sinceUnsent isLast, rfl, rfl, rfl, rfl, rfl⟩

/-- A recipient is sent to, the job is taken back, and the recipient is retried and then fails. -/
def takenBackHistory : List SendJob :=
  let recipient (email : String) (retries : Nat) (lastError : Option String) : Recipient :=
    { id := ⟨"7"⟩, email, fullName := "Ada", retries, lastError }
  [{ code := some .pending, sending := [recipient "old@example.com" 0 none] },
    {},
    { code := some .pending, retrying := [recipient "new@example.com" 1 none] },
    { code := some .complete, failed := [recipient "newer@example.com" 3 (some "550")] }]

/-- The row that is left: the addresses of the retry and the outcome of the failure. -/
def takenBackRow : RecipientRow :=
  { id := ⟨"7"⟩, email := "new@example.com", fullName := "Ada", label := some .failed
    tooltip := some "550", attempts := 3 }

theorem row_ofHistory_takenBack :
    (takenBackRow ∈ (ofHistory takenBackHistory).rows ∧ takenBackRow.id = ⟨"7"⟩) ∧
      (ofHistory takenBackHistory).rows.filter (·.id == ⟨"7"⟩) = [takenBackRow] ∧
      ∃ first last : Mention,
        (mentionsOf ⟨"7"⟩ (sinceUnsent takenBackHistory)).head? = some first ∧
        (mentionsOf ⟨"7"⟩ takenBackHistory).getLast? = some last ∧
        takenBackRow.email = first.recipient.email ∧
        takenBackRow.fullName = first.recipient.fullName ∧
        takenBackRow.label = some last.label ∧
        takenBackRow.tooltip = last.recipient.lastError ∧
        takenBackRow.attempts = last.recipient.retries := by
  have member : takenBackRow ∈ (ofHistory takenBackHistory).rows := by decide
  exact ⟨⟨member, rfl⟩,
    (row_ofHistory_characterized takenBackHistory ⟨"7"⟩).2 takenBackRow member rfl⟩

end RecipientTable

end CampaignConsole
