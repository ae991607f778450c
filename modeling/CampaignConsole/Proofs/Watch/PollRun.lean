import CampaignConsole.Proofs.Watch.History
import CampaignConsole.Watch.Poll
import Mathlib.Data.List.ReduceOption

/-!
# A watch as a function of the answers that arrived

A `WatchRun` is a watch at a scripted source, with what became of its cycles.  Events, which are
cycles and the panel being made visible, lead from an untouched watch to others (`reach`).

* `Ended` says what a cycle did, by its outcome, and `poll_cases` that a cycle did one of the three.
* `Shows` is the invariant: the counters, the table and the panel are read off the answers that
  arrived.  `Shows.poll` is its step lemma.
* `reach_shows_history` puts them together for every order of events and every source.
-/

namespace CampaignConsole

/-- What happens around a watch: a cycle at a time of day, or the panel is made visible. -/
inductive WatchEvent where
  | poll (clock : String)
  | reveal

/-- A watch at a scripted source, and what became of its cycles, in order. -/
structure WatchRun where
  watch : Watch := {}
  script : WatchScript
  outcomes : List PollOutcome := []

namespace WatchRun

/-- The run after one more cycle. -/
def poll (run : WatchRun) (clock : String) : WatchRun :=
  let ((watch, outcome), script) :=
    (run.watch.poll (WatchScript.actions clock)).run run.script
  { watch, script, outcomes := run.outcomes ++ [outcome] }

/-- The run after one more event. -/
def next (run : WatchRun) : WatchEvent → WatchRun
  | .poll clock => run.poll clock
  | .reveal => { run with script := run.script.reveal }

/-- The run that events lead to, from an untouched watch. -/
def reach (visible : Bool) (answers : List (Option SendJob)) (events : List WatchEvent) :
    WatchRun :=
  events.foldl next { script := { visible, answers } }

/-- The cycles that find the panel visible. -/
def visiblePolls : Bool → List WatchEvent → Nat
  | _, [] => 0
  | visible, .poll _ :: events => (if visible then 1 else 0) + visiblePolls visible events
  | _, .reveal :: events => visiblePolls true events

/-- The first answers of a source, as many as it was asked for; it fails once none is left. -/
def given (answers : List (Option SendJob)) (calls : Nat) : List (Option SendJob) :=
  (List.range calls).map fun i => answers[i]?.join

/-! ## One cycle -/

/-- What a cycle at a time of day did that ended with an outcome. -/
def Ended (run after : WatchRun) (clock : String) : PollOutcome → Prop
  | .idle =>
      run.script.visible = false ∧ after.watch = run.watch ∧
        after.script.calls = run.script.calls ∧ after.script.answers = run.script.answers ∧
        after.script.shown = run.script.shown
  | .failed =>
      run.script.visible = true ∧ run.script.answers.head?.join = none ∧
        after.watch = { run.watch with
          requests := run.watch.requests + 1, failures := run.watch.failures + 1 } ∧
        after.script.calls = run.script.calls + 1 ∧
        after.script.answers = run.script.answers.tail ∧ after.script.shown = run.script.shown
  | .rendered =>
      ∃ job, run.script.visible = true ∧ run.script.answers.head?.join = some job ∧
        after.watch = {
          table := run.watch.table.apply job, panel := some (.ofJob job), clock := some clock
          requests := run.watch.requests + 1, failures := run.watch.failures } ∧
        after.script.calls = run.script.calls + 1 ∧
        after.script.answers = run.script.answers.tail ∧
        after.script.shown = after.watch :: run.script.shown

/-- A cycle ends in one of three ways, and leaves the switch of the panel alone. -/
theorem poll_cases (run : WatchRun) (clock : String) :
    (run.poll clock).script.visible = run.script.visible ∧
      ∃ outcome, (run.poll clock).outcomes = run.outcomes ++ [outcome] ∧
        Ended run (run.poll clock) clock outcome := by
  obtain ⟨watch, ⟨visible, answers, calls, shown, now, cycledAt⟩, outcomes⟩ := run
  cases visible with
  | false => exact ⟨rfl, .idle, rfl, rfl, rfl, rfl, rfl, rfl⟩
  | true =>
      rcases answers with _ | ⟨_ | job, answers⟩
      · exact ⟨rfl, .failed, rfl, rfl, rfl, rfl, rfl, rfl, rfl⟩
      · exact ⟨rfl, .failed, rfl, rfl, rfl, rfl, rfl, rfl, rfl⟩
      · exact ⟨rfl, .rendered, rfl, job, rfl, rfl, rfl, rfl, rfl, rfl⟩

/-! ## The answers that arrived -/

theorem given_succ (answers : List (Option SendJob)) (calls : Nat) :
    given answers (calls + 1) =
      given answers calls ++ [(answers.drop calls).head?.join] := by
  rw [given, given, List.range_succ, List.map_append, List.map_singleton, List.head?_drop]

theorem length_given (answers : List (Option SendJob)) (calls : Nat) :
    (given answers calls).length = calls := by
  simp [given]

/-- Every answer is a failure or a job. -/
theorem countP_isNone_add_length_reduceOption (answers : List (Option SendJob)) :
    answers.countP (·.isNone) + answers.reduceOption.length = answers.length := by
  induction answers with
  | nil => rfl
  | cons answer answers ih =>
      cases answer with
      | none =>
          rw [List.countP_cons_of_pos rfl, List.reduceOption_cons_of_none, List.length_cons]
          omega
      | some job =>
          rw [List.countP_cons_of_neg (by simp), List.reduceOption_cons_of_some, List.length_cons,
            List.length_cons]
          omega

/-- The counters, the table and the panel are what the answers given so far make of them. -/
structure Shows (answers : List (Option SendJob)) (run : WatchRun) : Prop where
  left : run.script.answers = answers.drop run.script.calls
  requests : run.watch.requests = run.script.calls
  failures : run.watch.failures = (given answers run.script.calls).countP (·.isNone)
  failed : run.outcomes.count .failed = run.watch.failures
  rendered : run.outcomes.count .rendered = (given answers run.script.calls).reduceOption.length
  shown : run.script.shown.length = run.outcomes.count .rendered
  table : run.watch.table =
    RecipientTable.ofHistory (given answers run.script.calls).reduceOption
  panel : run.watch.panel =
    (given answers run.script.calls).reduceOption.getLast?.map StatusPanel.ofJob
  clock : run.watch.clock.isSome = run.watch.panel.isSome

theorem Shows.start (visible : Bool) (answers : List (Option SendJob)) :
    Shows answers { script := { visible, answers } } :=
  ⟨rfl, rfl, rfl, rfl, rfl, rfl, rfl, rfl, rfl⟩

section

variable {answers : List (Option SendJob)} {run after : WatchRun} {clock : String}

theorem Shows.idle (shows : Shows answers run) (ended : Ended run after clock .idle)
    (outcomes : after.outcomes = run.outcomes ++ [.idle]) : Shows answers after := by
  obtain ⟨_, watch, calls, left, shown⟩ := ended
  constructor
  case left => rw [left, calls, shows.left]
  case requests => rw [watch, calls, shows.requests]
  case failures => rw [watch, calls, shows.failures]
  case failed => rw [outcomes, watch, List.count_append, shows.failed]; rfl
  case rendered => rw [outcomes, calls, List.count_append, shows.rendered]; rfl
  case shown => rw [outcomes, shown, List.count_append, shows.shown]; rfl
  case table => rw [watch, calls, shows.table]
  case panel => rw [watch, calls, shows.panel]
  case clock => rw [watch, shows.clock]

theorem Shows.failed_next (shows : Shows answers run) (ended : Ended run after clock .failed)
    (outcomes : after.outcomes = run.outcomes ++ [.failed]) : Shows answers after := by
  obtain ⟨_, next, watch, calls, left, shown⟩ := ended
  have asked := given_succ answers run.script.calls
  rw [← shows.left, next, ← calls] at asked
  have jobs : (given answers after.script.calls).reduceOption =
      (given answers run.script.calls).reduceOption := by
    rw [asked, List.reduceOption_append, List.reduceOption_cons_of_none, List.reduceOption_nil,
      List.append_nil]
  constructor
  case left => rw [left, calls, shows.left, List.tail_drop]
  case requests => rw [watch, calls, ← shows.requests]
  case failures => rw [watch, asked, List.countP_append, ← shows.failures]; rfl
  case failed => rw [outcomes, watch, List.count_append, shows.failed]; rfl
  case rendered => rw [outcomes, jobs, List.count_append, shows.rendered]; rfl
  case shown => rw [outcomes, shown, List.count_append, shows.shown]; rfl
  case table => rw [watch, jobs, ← shows.table]
  case panel => rw [watch, jobs, ← shows.panel]
  case clock => rw [watch, ← shows.clock]

theorem Shows.rendered_next (shows : Shows answers run) (ended : Ended run after clock .rendered)
    (outcomes : after.outcomes = run.outcomes ++ [.rendered]) : Shows answers after := by
  obtain ⟨job, _, next, watch, calls, left, shown⟩ := ended
  have asked := given_succ answers run.script.calls
  rw [← shows.left, next, ← calls] at asked
  have jobs : (given answers after.script.calls).reduceOption =
      (given answers run.script.calls).reduceOption ++ [job] := by
    rw [asked, List.reduceOption_append, List.reduceOption_cons_of_some, List.reduceOption_nil]
  constructor
  case left => rw [left, calls, shows.left, List.tail_drop]
  case requests => rw [watch, calls, ← shows.requests]
  case failures => rw [watch, asked, List.countP_append, ← shows.failures]; rfl
  case failed => rw [outcomes, watch, List.count_append, shows.failed]; rfl
  case rendered =>
      rw [outcomes, jobs, List.count_append, shows.rendered, List.length_append]
      rfl
  case shown => rw [outcomes, shown, List.count_append, List.length_cons, shows.shown]; rfl
  case table => rw [watch, jobs, RecipientTable.ofHistory_snoc, ← shows.table]
  case panel => rw [watch, jobs, List.getLast?_concat]; rfl
  case clock => rw [watch]; rfl

end

/-- The step lemma: a cycle keeps up with the answers, whatever became of it. -/
theorem Shows.poll {answers : List (Option SendJob)} {run : WatchRun} (shows : Shows answers run)
    (clock : String) : Shows answers (run.poll clock) := by
  obtain ⟨_, outcome, outcomes, ended⟩ := poll_cases run clock
  cases outcome with
  | idle => exact shows.idle ended outcomes
  | failed => exact shows.failed_next ended outcomes
  | rendered => exact shows.rendered_next ended outcomes

/-! ## Many events -/

theorem Shows.foldl {answers : List (Option SendJob)} {run : WatchRun} (shows : Shows answers run)
    (events : List WatchEvent) : Shows answers (events.foldl next run) := by
  induction events generalizing run with
  | nil => exact shows
  | cons event events ih =>
      cases event with
      | poll clock => exact ih (shows.poll clock)
      | reveal => exact ih ⟨shows.left, shows.requests, shows.failures, shows.failed,
          shows.rendered, shows.shown, shows.table, shows.panel, shows.clock⟩

/-- The source is asked once by every cycle that finds the panel visible, and by no other. -/
theorem calls_foldl (run : WatchRun) (events : List WatchEvent) :
    (events.foldl next run).script.calls =
      run.script.calls + visiblePolls run.script.visible events := by
  induction events generalizing run with
  | nil => rfl
  | cons event events ih =>
      cases event with
      | reveal => exact ih _
      | poll clock =>
          obtain ⟨switch, outcome, _, ended⟩ := poll_cases run clock
          rw [List.foldl_cons, ih]
          show (run.poll clock).script.calls + visiblePolls (run.poll clock).script.visible events =
            run.script.calls +
              ((if run.script.visible then 1 else 0) + visiblePolls run.script.visible events)
          rw [switch]
          cases outcome with
          | idle =>
              obtain ⟨hidden, _, calls, _⟩ := ended
              simp [hidden, calls]
          | failed =>
              obtain ⟨visible, _, _, calls, _⟩ := ended
              simp only [visible, calls, if_true]
              omega
          | rendered =>
              obtain ⟨_, visible, _, _, calls, _⟩ := ended
              simp only [visible, calls, if_true]
              omega

/-- **A watch shows the history of the answers that arrived.**  The source is asked once by every
cycle that finds the panel visible, and by no other.  The counters count the requests and the
failures, and each request was shown or failed.  The table and the panel are those of the jobs that
arrived, in their order, as if no request had failed and no cycle had found the panel hidden; there
is a panel, and a time of day, once a job arrived.  One more cycle asks and shows, fails and counts,
or does nothing, and what is shown is the watch after it took the job in. -/
theorem reach_shows_history (visible : Bool) (answers : List (Option SendJob))
    (events : List WatchEvent) :
    let run := reach visible answers events
    let arrived := given answers run.script.calls
    let jobs := arrived.reduceOption
    run.script.calls = visiblePolls visible events ∧
    run.watch.requests = run.script.calls ∧
    run.watch.failures = arrived.countP (·.isNone) ∧
    run.outcomes.count .failed = run.watch.failures ∧
    run.outcomes.count .rendered + run.watch.failures = run.watch.requests ∧
    run.watch.table = RecipientTable.ofHistory jobs ∧
    run.watch.panel = jobs.getLast?.map StatusPanel.ofJob ∧
    (run.watch.panel = none ↔ jobs = []) ∧
    (run.watch.clock = none ↔ jobs = []) ∧
    run.script.shown.length = run.outcomes.count .rendered ∧
    ∀ clock, ∃ outcome, (run.poll clock).outcomes = run.outcomes ++ [outcome] ∧
      Ended run (run.poll clock) clock outcome := by
  intro run arrived jobs
  have shows : Shows answers run := (Shows.start visible answers).foldl events
  have asked : run.script.calls = 0 + visiblePolls visible events := calls_foldl _ events
  have total := countP_isNone_add_length_reduceOption arrived
  rw [length_given, ← shows.failures, ← shows.rendered, ← shows.requests] at total
  have panel_none : run.watch.panel = none ↔ jobs = [] := by
    rw [shows.panel, Option.map_eq_none_iff, List.getLast?_eq_none_iff]
  have clock_none : run.watch.clock = none ↔ run.watch.panel = none := by
    rw [← Option.not_isSome_iff_eq_none, shows.clock, Option.not_isSome_iff_eq_none]
  refine ⟨by omega, shows.requests, shows.failures, shows.failed, by omega, shows.table,
    shows.panel, panel_none, clock_none.trans panel_none, shows.shown, ?_⟩
  intro clock
  exact (poll_cases run clock).2

end WatchRun

end CampaignConsole
