import CampaignConsole.Proofs.Watch.DisplayOrder
import CampaignConsole.Proofs.Watch.PollRun

/-!
# The same answer again

An answer that was just taken in changes nothing when it comes again: its delivered ids have no row,
every other id that it names has one, and the last mention of an id leaves nothing of the ones
before it.  `apply_again` says so of the table, one view at a time.

`same_answer_changes_nothing` carries it to a watch: as long as the page keeps answering the same,
whatever is shown is what was shown before.
-/

namespace CampaignConsole

namespace RecipientTable

/-! ## The views decide the table -/

section

variable {names : List EmailId} {t t' : RecipientTable} {x : EmailId}

theorem NewestFirst.wellFormed (newest : NewestFirst names t) : WellFormed t := by
  refine ⟨newest.ordered.imp fun {a b} earlier => ?_, fun x has => ((newest.mem_ids x).1 has).2⟩
  rintro rfl
  exact Nat.lt_irrefl _ earlier

theorem WellFormed.rows_eq (wf : WellFormed t) : t.rows = t.ids.filterMap t.get? := by
  rw [ids, List.filterMap_map]
  have found : ∀ row ∈ t.rows, (t.get? ∘ (·.id)) row = some row :=
    fun row member => wf.get?_eq member
  rw [List.filterMap_congr found, List.filterMap_some]

/-- Tables with the same views are the same. -/
theorem WellFormed.ext (wf : WellFormed t) (wf' : WellFormed t') (ids : t.ids = t'.ids)
    (get? : ∀ x, t.get? x = t'.get? x) (delivered : t.delivered = t'.delivered) : t = t' := by
  have rows : t.rows = t'.rows := by
    rw [wf.rows_eq, wf'.rows_eq, ids]
    exact congrArg (List.filterMap · t'.ids) (funext get?)
  cases t
  cases t'
  cases rows
  cases delivered
  rfl

/-! ## Delivered ids again -/

theorem WellFormed.markDelivered_known (wf : WellFormed t) (known : x ∈ t.delivered) :
    t.markDelivered x = t := by
  have missing : x ∉ t.ids := fun has => wf.undelivered x has known
  rw [RecipientTable.markDelivered, filter_eq_rows missing, if_pos known]

theorem WellFormed.deliverAll_known (wf : WellFormed t) {ds : List Delivered}
    (known : ∀ d ∈ ds, d.emailId ∈ t.delivered) : t.deliverAll ds = t := by
  induction ds with
  | nil => rfl
  | cons d ds ih =>
      have first : t.markDelivered d.emailId = t :=
        wf.markDelivered_known (known d List.mem_cons_self)
      have rest : t.deliverAll ds = t := ih fun other member =>
        known other (List.mem_cons_of_mem d member)
      rw [show t.deliverAll (d :: ds) = (t.markDelivered d.emailId).deliverAll ds from rfl, first,
        rest]

/-! ## Mentions again -/

theorem ids_mentionEach_known {ms : List Mention}
    (known : ∀ m ∈ ms, m.recipient.id ∈ t.delivered ∨ m.recipient.id ∈ t.ids) :
    (t.mentionEach ms).ids = t.ids := by
  induction ms generalizing t with
  | nil => rfl
  | cons m ms ih =>
      have first : (t.mention m.label m.recipient).ids = t.ids := by
        rw [ids_mention, if_pos (known m List.mem_cons_self)]
      have still : ∀ other ∈ ms, other.recipient.id ∈ (t.mention m.label m.recipient).delivered ∨
          other.recipient.id ∈ (t.mention m.label m.recipient).ids := by
        intro other member
        rw [delivered_mention, first]
        exact known other (List.mem_cons_of_mem m member)
      exact (ih still).trans first

/-- Further mentions leave of a row what no mention changes. -/
theorem extendRow_some (row : RecipientRow) (ms : List Mention) :
    ∃ row', extendRow (some row) ms = some row' ∧
      ∀ label r, row'.update label r = row.update label r := by
  induction ms generalizing row with
  | nil => exact ⟨row, rfl, fun _ _ => rfl⟩
  | cons m ms ih =>
      rcases ih (row.update m.label m.recipient) with ⟨row', extended, same⟩
      exact ⟨row', extended, fun label r => same label r⟩

theorem extendRow_snoc (row : Option RecipientRow) (ms : List Mention) (m : Mention) :
    extendRow row (ms ++ [m]) =
      some (((extendRow row ms).getD (.ofRecipient m.recipient)).update m.label m.recipient) := by
  simp [extendRow, List.foldl_append]

/-- The same mentions again leave a row as it is: the last one overwrites what came before. -/
theorem extendRow_extendRow (row : Option RecipientRow) (ms : List Mention) :
    extendRow (extendRow row ms) ms = extendRow row ms := by
  induction ms using List.reverseRecOn with
  | nil => rfl
  | append_singleton ms m _ =>
      rw [extendRow_snoc row ms m]
      generalize (extendRow row ms).getD (.ofRecipient m.recipient) = base
      rcases extendRow_some (base.update m.label m.recipient) ms with ⟨row', extended, same⟩
      rw [extendRow_snoc, extended, Option.getD_some, same]
      rfl

theorem get?_mentionEach_again (wf : WellFormed t) (ms : List Mention) (x : EmailId) :
    ((t.mentionEach ms).mentionEach ms).get? x = (t.mentionEach ms).get? x := by
  by_cases delivered : x ∈ t.delivered
  · have once := wf.mentionEach ms
    have twice := once.mentionEach ms
    have known : x ∈ (t.mentionEach ms).delivered := by rwa [delivered_mentionEach]
    have knownAgain : x ∈ ((t.mentionEach ms).mentionEach ms).delivered := by
      rwa [delivered_mentionEach]
    rw [(once.not_found_of_delivered known).2.1, (twice.not_found_of_delivered knownAgain).2.1]
  · have still : x ∉ (t.mentionEach ms).delivered := by rwa [delivered_mentionEach]
    rw [get?_mentionEach still, get?_mentionEach delivered, extendRow_extendRow]

/-! ## The whole answer again -/

theorem NewestFirst.apply_again (newest : NewestFirst names t) (job : SendJob) :
    (t.apply job).apply job = t.apply job := by
  have after := newest.step (.answer job)
  cases code : job.code with
  | none => rw [apply_of_no_code code, apply_of_no_code code]; rfl
  | some _ =>
      have sent : job.code.isSome := by simp [code]
      rw [TableStep.extendNames, if_pos sent] at after
      have ordered : NewestFirst (names ++ job.namedIds) (t.apply job) := after
      have wf : WellFormed (t.apply job) := ordered.wellFormed
      have delivered : (t.apply job).deliverAll job.successful = t.apply job := by
        refine wf.deliverAll_known fun d member => mem_delivered_apply.2 (Or.inl ⟨sent, ?_⟩)
        exact List.mem_map_of_mem member
      have known : ∀ m ∈ job.mentions,
          m.recipient.id ∈ (t.apply job).delivered ∨ m.recipient.id ∈ (t.apply job).ids := by
        intro m member
        have named : m.recipient.id ∈ names ++ job.namedIds := by
          rw [← job.map_id_mentions]
          exact List.mem_append_right names (List.mem_map_of_mem member)
        by_cases reported : m.recipient.id ∈ (t.apply job).delivered
        · exact Or.inl reported
        · exact Or.inr ((ordered.mem_ids _).2 ⟨named, reported⟩)
      rw [apply_of_code sent (t := t.apply job), delivered]
      refine WellFormed.ext (wf.mentionEach _) wf ?_ ?_ ?_
      · exact ids_mentionEach_known known
      · intro x
        rw [apply_of_code sent]
        exact get?_mentionEach_again (newest.wellFormed.deliverAll job.successful) job.mentions x
      · exact delivered_mentionEach ..

end

theorem ofHistory_eq_reach (jobs : List SendJob) : ofHistory jobs = reach (jobs.map .answer) := by
  rw [ofHistory, reach, List.foldl_map]
  rfl

/-- The last answer of a history leaves the table as it is when it comes again. -/
theorem ofHistory_apply_last {jobs : List SendJob} {job : SendJob}
    (last : jobs.getLast? = some job) : (ofHistory jobs).apply job = ofHistory jobs := by
  rcases List.getLast?_eq_some_iff.1 last with ⟨before, rfl⟩
  rw [ofHistory_snoc, ofHistory_eq_reach]
  exact (newestFirst_reach _).apply_again job

end RecipientTable

/-! ## A page that keeps answering the same -/

namespace WatchRun

/-- A run shows what it showed at its start, and the page has nothing to say but one answer. -/
structure Steady (job : SendJob) (start run : WatchRun) : Prop where
  table : run.watch.table = start.watch.table
  panel : run.watch.panel = start.watch.panel
  answers : ∀ answer ∈ run.script.answers, answer = none ∨ answer = some job
  shown : ∃ shown, run.script.shown = shown ++ start.script.shown ∧
    ∀ w ∈ shown, w.table = start.watch.table ∧ w.panel = start.watch.panel

section

variable {job : SendJob} {start run : WatchRun}

/-- The step lemma: a cycle fails, or it takes in what is there already. -/
theorem Steady.poll (steady : Steady job start run)
    (taken : start.watch.table.apply job = start.watch.table)
    (told : start.watch.panel = some (.ofJob job)) (clock : String) :
    Steady job start (run.poll clock) := by
  have left {answer : Option SendJob} (member : answer ∈ run.script.answers.tail) :
      answer = none ∨ answer = some job := steady.answers answer (List.mem_of_mem_tail member)
  rcases poll_cases run clock with ⟨_, outcome, _, ended⟩
  cases outcome with
  | idle =>
      rcases ended with ⟨_, watch, _, answers, shown⟩
      refine ⟨watch ▸ steady.table, watch ▸ steady.panel, answers ▸ steady.answers, ?_⟩
      rw [shown]
      exact steady.shown
  | failed =>
      rcases ended with ⟨_, _, watch, _, answers, shown⟩
      refine ⟨?_, ?_, fun answer member => left (answers ▸ member), ?_⟩
      · rw [watch, ← steady.table]
      · rw [watch, ← steady.panel]
      · rw [shown]
        exact steady.shown
  | rendered =>
      rcases ended with ⟨arrived, _, next, watch, _, answers, shown⟩
      have same : arrived = job := by
        rcases List.head?_eq_some_iff.1 (Option.join_eq_some_iff.1 next) with ⟨rest, split⟩
        rcases steady.answers (some arrived) (split ▸ List.mem_cons_self) with none | some
        · cases none
        · exact Option.some.inj some
      have table : (run.poll clock).watch.table = start.watch.table := by
        rw [watch, same, steady.table, taken]
      have panel : (run.poll clock).watch.panel = start.watch.panel := by
        rw [watch, same, told]
      refine ⟨table, panel, fun answer member => left (answers ▸ member), ?_⟩
      rcases steady.shown with ⟨before, shownBefore, all⟩
      refine ⟨(run.poll clock).watch :: before, ?_, ?_⟩
      · rw [shown, shownBefore, List.cons_append]
      · intro w member
        rcases List.mem_cons.1 member with rfl | earlier
        · exact ⟨table, panel⟩
        · exact all w earlier

theorem Steady.foldl (steady : Steady job start run)
    (taken : start.watch.table.apply job = start.watch.table)
    (told : start.watch.panel = some (.ofJob job)) (events : List WatchEvent) :
    Steady job start (events.foldl next run) := by
  induction events generalizing run with
  | nil => exact steady
  | cons event events ih =>
      cases event with
      | poll clock => exact ih (steady.poll taken told clock)
      | reveal => exact ih ⟨steady.table, steady.panel, steady.answers, steady.shown⟩

end

/-- **The same answer again changes nothing.**  Whatever was done to a table, an answer that was
just taken in leaves its rows and its delivered ids as they are when it comes again, and a watch
that takes it in again shows the same panel.  So while the page says nothing but its last answer,
the table and the panel stay what they are, and so does whatever is shown meanwhile, however many
requests fail in between. -/
theorem same_answer_changes_nothing (job : SendJob) :
    (∀ steps, ((RecipientTable.reach steps).apply job).apply job =
      (RecipientTable.reach steps).apply job) ∧
    (∀ (w : Watch) (steps : List TableStep) (clock again : String),
      w.table = RecipientTable.reach steps →
      (w.takeIn job clock).takeIn job again = { w.takeIn job clock with clock := some again }) ∧
    ∀ (visible : Bool) (answers : List (Option SendJob)) (events more : List WatchEvent),
      let run := reach visible answers events
      let after := more.foldl next run
      (given answers run.script.calls).reduceOption.getLast? = some job →
      (∀ answer ∈ run.script.answers, answer = none ∨ answer = some job) →
      after.watch.table = run.watch.table ∧ after.watch.panel = run.watch.panel ∧
      ∃ shown, after.script.shown = shown ++ run.script.shown ∧
        ∀ w ∈ shown, w.table = run.watch.table ∧ w.panel = run.watch.panel := by
  refine ⟨fun steps => ?_, fun w steps clock again reached => ?_, ?_⟩
  · exact (RecipientTable.newestFirst_reach steps).apply_again job
  · have taken : (w.table.apply job).apply job = w.table.apply job := by
      rw [reached]
      exact (RecipientTable.newestFirst_reach steps).apply_again job
    simp only [Watch.takeIn, taken]
  · intro visible answers events more run after last only
    have shows : Shows answers run := (Shows.start visible answers).foldl events
    have taken : run.watch.table.apply job = run.watch.table := by
      rw [shows.table]
      exact RecipientTable.ofHistory_apply_last last
    have told : run.watch.panel = some (.ofJob job) := by
      rw [shows.panel, last]
      rfl
    have start : Steady job run run := ⟨rfl, rfl, only, [], rfl, by simp⟩
    have steady : Steady job run after := start.foldl taken told more
    exact ⟨steady.table, steady.panel, steady.shown⟩

/-- An answer that names one email three times and another one that it also reports delivered. -/
def overlapping : SendJob :=
  let recipient (id : String) (retries : Nat) : Recipient :=
    { id := ⟨id⟩, email := "", fullName := "", retries, lastError := none }
  { code := some .pending
    successful := [.id ⟨"8"⟩]
    sending := [recipient "7" 0, recipient "9" 0]
    retrying := [recipient "7" 1, recipient "8" 1]
    failed := [recipient "7" 2] }

theorem same_answer_changes_nothing_overlapping :
    let run := reach true [some overlapping, none, some overlapping] [.poll "10:00"]
    let after := [.poll "10:02", .poll "10:04"].foldl next run
    run.watch.table.rows.map (fun row => (row.id, row.attempts)) =
        [(⟨"9"⟩, 0), (⟨"7"⟩, 2)] ∧
      after.watch.requests = 3 ∧ after.watch.failures = 1 ∧
      after.watch.table = run.watch.table ∧ after.watch.panel = run.watch.panel ∧
      (run.watch.takeIn overlapping "10:06").takeIn overlapping "10:08" =
        { run.watch.takeIn overlapping "10:06" with clock := some "10:08" } := by
  intro run after
  have rows : run.watch.table.rows.map (fun row => (row.id, row.attempts)) =
      [(⟨"9"⟩, 0), (⟨"7"⟩, 2)] := by decide
  have requests : after.watch.requests = 3 := by decide
  have failures : after.watch.failures = 1 := by decide
  have only : ∀ answer ∈ run.script.answers, answer = none ∨ answer = some overlapping := by
    intro answer member
    rcases List.mem_cons.1 member with rfl | rest
    · exact Or.inl rfl
    · exact Or.inr (List.mem_singleton.1 rest)
  have steady := (same_answer_changes_nothing overlapping).2.2 true
    [some overlapping, none, some overlapping] [.poll "10:00"] [.poll "10:02", .poll "10:04"]
    rfl only
  have again := (same_answer_changes_nothing overlapping).2.1 run.watch [.answer overlapping]
    "10:06" "10:08" rfl
  exact ⟨rows, requests, failures, steady.1, steady.2.1, again⟩

end WatchRun

end CampaignConsole
