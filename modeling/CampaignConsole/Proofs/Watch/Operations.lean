import CampaignConsole.Proofs.Watch.TableLaws

/-!
# The table under any order of its operations

`TableStep` is one use of the table: marking an id delivered, asking for the row of a recipient,
dropping all rows, or taking in an answer.  `reach` folds steps from the empty table.

* `WellFormed.step` is the step lemma of the invariant, and `mem_delivered_step` says which ids a
  step adds to the delivered ones; no step takes one away.
* `WellFormed.deliver_cases` says what marking an id does to a well-formed table: it drops the only
  row of that id, or nothing.
* `reach_keeps_invariant` puts them together for every order of steps.
-/

namespace CampaignConsole

/-- One use of the table. -/
inductive TableStep where
  | deliver (id : EmailId)
  | getOrCreate (r : Recipient)
  | clear
  | answer (job : SendJob)

namespace TableStep

/-- The table after a step. -/
def run (t : RecipientTable) : TableStep → RecipientTable
  | .deliver id => (t.deliver id).1
  | .getOrCreate r => (t.getOrCreate r).1
  | .clear => t.clear
  | .answer job => t.apply job

/-- The step reports an id delivered. -/
def Delivers (x : EmailId) : TableStep → Prop
  | .deliver id => id = x
  | .answer job => job.code.isSome ∧ x ∈ job.successful.map Delivered.emailId
  | .getOrCreate _ => False
  | .clear => False

end TableStep

namespace RecipientTable

/-- The table that steps lead to, from the empty one. -/
def reach (steps : List TableStep) : RecipientTable :=
  steps.foldl TableStep.run {}

theorem reach_append (steps later : List TableStep) :
    reach (steps ++ later) = later.foldl TableStep.run (reach steps) := by
  simp [reach, List.foldl_append]

/-! ## One step -/

theorem WellFormed.step {t : RecipientTable} (wf : WellFormed t) (step : TableStep) :
    WellFormed (step.run t) := by
  cases step with
  | deliver id => exact wf.markDelivered id
  | getOrCreate r => exact wf.ensure r
  | clear => exact WellFormed.clear
  | answer job => exact wf.apply job

/-- The delivered ids after a step are the ones before it and the ones that it reports. -/
theorem mem_delivered_step {t : RecipientTable} {step : TableStep} {x : EmailId} :
    x ∈ (step.run t).delivered ↔ step.Delivers x ∨ x ∈ t.delivered := by
  cases step with
  | deliver id =>
      rw [TableStep.run, deliver, mem_delivered_markDelivered, TableStep.Delivers, eq_comm]
  | getOrCreate r => simp [TableStep.run, getOrCreate, delivered_ensure, TableStep.Delivers]
  | clear => simp [TableStep.run, clear, TableStep.Delivers]
  | answer job => exact mem_delivered_apply

/-- A delivered id has no row and gets none. -/
theorem WellFormed.not_found_of_delivered {t : RecipientTable} (wf : WellFormed t) {x : EmailId}
    (delivered : x ∈ t.delivered) :
    t.contains x = false ∧ t.get? x = none ∧
      ∀ r : Recipient, r.id = x → (t.getOrCreate r).2 = none := by
  have missing : x ∉ t.ids := fun member => wf.undelivered x member delivered
  refine ⟨?_, get?_eq_none_iff.2 missing, ?_⟩
  · rw [← Bool.not_eq_true, contains_iff]
    exact missing
  · rintro r rfl
    have same : t.ensure r = t := by simp [RecipientTable.ensure, delivered]
    rw [getOrCreate, same]
    exact get?_eq_none_iff.2 missing

theorem rows_deliver (t : RecipientTable) (x : EmailId) :
    (t.deliver x).1.rows = t.rows.filter (·.id != x) :=
  rfl

/-- Marking an id drops its row where it has one, and touches nothing else. -/
theorem WellFormed.deliver_cases {t : RecipientTable} (wf : WellFormed t) (x : EmailId) :
    ((t.deliver x).2 = true ∧ ∃ front row back,
      t.rows = front ++ row :: back ∧ row.id = x ∧ (t.deliver x).1.rows = front ++ back) ∨
    ((t.deliver x).2 = false ∧ x ∉ t.ids ∧ (t.deliver x).1.rows = t.rows) := by
  by_cases member : x ∈ t.ids
  · obtain ⟨row, inRows, rfl⟩ := mem_ids_iff.1 member
    obtain ⟨front, back, split, inFront, inBack⟩ := wf.exists_split inRows
    have front_kept : front.filter (·.id != row.id) = front := by
      rw [List.filter_eq_self]
      exact fun other there => bne_iff_ne.2 (inFront other there)
    have back_kept : back.filter (·.id != row.id) = back := by
      rw [List.filter_eq_self]
      exact fun other there => bne_iff_ne.2 (inBack other there)
    refine Or.inl ⟨contains_iff.2 member, front, row, back, split, rfl, ?_⟩
    rw [rows_deliver, split, List.filter_append, front_kept,
      List.filter_cons_of_neg (by simp), back_kept]
  · refine Or.inr ⟨?_, member, ?_⟩
    · rw [← Bool.not_eq_true]
      exact mt contains_iff.1 member
    · rw [rows_deliver, filter_eq_rows member]

/-! ## Many steps -/

theorem WellFormed.foldl {t : RecipientTable} (wf : WellFormed t) (steps : List TableStep) :
    WellFormed (steps.foldl TableStep.run t) := by
  induction steps generalizing t with
  | nil => exact wf
  | cons step steps ih => exact ih (wf.step step)

theorem mem_delivered_foldl {t : RecipientTable} {steps : List TableStep} {x : EmailId} :
    x ∈ (steps.foldl TableStep.run t).delivered ↔
      (∃ step ∈ steps, step.Delivers x) ∨ x ∈ t.delivered := by
  induction steps generalizing t with
  | nil => simp
  | cons step steps ih =>
      rw [List.foldl_cons, ih, mem_delivered_step, List.exists_mem_cons_iff, or_assoc, or_left_comm]

theorem wellFormed_reach (steps : List TableStep) : WellFormed (reach steps) :=
  WellFormed.empty.foldl steps

/-- **The invariant of the table, under any order of its operations.**  No id has two rows, no
delivered id has a row, and no delivered id is forgotten.  So an id that some step reported
delivered, however long ago, is not found and gets no row.  Marking an id tells whether it had a
row; that row goes, and the others stay as they are and where they are. -/
theorem reach_keeps_invariant (steps : List TableStep) (x : EmailId) :
    ((reach steps).rows.map (·.id)).Nodup ∧
    (∀ row ∈ (reach steps).rows, row.id ∉ (reach steps).delivered) ∧
    (∀ later, x ∈ (reach steps).delivered → x ∈ (reach (steps ++ later)).delivered) ∧
    ((∃ step ∈ steps, step.Delivers x) →
      (reach steps).contains x = false ∧ (reach steps).get? x = none ∧
        ∀ r : Recipient, r.id = x → ((reach steps).getOrCreate r).2 = none) ∧
    (((reach steps).deliver x).2 = true ↔ ∃ row ∈ (reach steps).rows, row.id = x) ∧
    (((reach steps).deliver x).2 = true → ∃ front row back,
      (reach steps).rows = front ++ row :: back ∧ row.id = x ∧
        ((reach steps).deliver x).1.rows = front ++ back) ∧
    (((reach steps).deliver x).2 = false →
      ((reach steps).deliver x).1.rows = (reach steps).rows) := by
  have wf := wellFormed_reach steps
  refine ⟨wf.nodup_ids, ?_, ?_, ?_, ?_, ?_, ?_⟩
  · intro row member
    exact wf.undelivered row.id (mem_ids_iff.2 ⟨row, member, rfl⟩)
  · intro later delivered
    rw [reach_append]
    exact mem_delivered_foldl.2 (Or.inr delivered)
  · intro reported
    exact wf.not_found_of_delivered (mem_delivered_foldl.2 (Or.inl reported))
  · rw [← mem_ids_iff]
    exact contains_iff
  · intro removed
    rcases wf.deliver_cases x with ⟨_, found⟩ | ⟨kept, _⟩
    · exact found
    · rw [removed] at kept
      cases kept
  · intro kept
    rcases wf.deliver_cases x with ⟨removed, _⟩ | ⟨_, _, same⟩
    · rw [kept] at removed
      cases removed
    · exact same

/-- Two emails are sent to, one is delivered, all rows are dropped, and both are named again. -/
def renamedSteps : List TableStep :=
  let recipient (id : String) : Recipient :=
    { id := ⟨id⟩, email := "", fullName := "", retries := 0, lastError := none }
  [.answer { code := some .pending, sending := [recipient "7", recipient "8"] },
    .answer { code := some .pending, successful := [.id ⟨"7"⟩] },
    .clear,
    .getOrCreate (recipient "7"),
    .answer { code := some .pending, failed := [recipient "8", recipient "7"] }]

theorem reach_keeps_invariant_renamed :
    (∃ step ∈ renamedSteps, step.Delivers ⟨"7"⟩) ∧
      (reach renamedSteps).get? ⟨"7"⟩ = none ∧
      (∃ row ∈ (reach renamedSteps).rows, row.id = ⟨"8"⟩) ∧
      ((reach renamedSteps).deliver ⟨"8"⟩).2 = true := by
  have reported : ∃ step ∈ renamedSteps, step.Delivers ⟨"7"⟩ :=
    ⟨_, List.mem_cons_of_mem _ List.mem_cons_self, rfl, List.mem_singleton.2 rfl⟩
  have shown : ∃ row ∈ (reach renamedSteps).rows, row.id = ⟨"8"⟩ := by decide
  exact ⟨reported, ((reach_keeps_invariant renamedSteps ⟨"7"⟩).2.2.2.1 reported).2.1, shown,
    (reach_keeps_invariant renamedSteps ⟨"8"⟩).2.2.2.2.1.2 shown⟩

end RecipientTable

end CampaignConsole
