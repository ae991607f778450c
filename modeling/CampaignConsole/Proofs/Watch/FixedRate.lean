import CampaignConsole.Proofs.Watch.PollRun
import Mathlib.Algebra.Order.Floor.Div

/-!
# The watch loop polls at a fixed rate

A loop that is cut off after a span of time is so many cycles in a row: as many as intervals start
in the span, the first one at once and one interval between one and the next (`cycleTimes`).

* `poll_moved` is the step lemma: what a cycle does does not depend on the time that has passed or
  on the cycles before it.
* `runFor_eq` is the induction on the time that is left.
* `loop_polls_at_fixed_rate` adds spans that follow one another, with the panel made visible between
  them.
-/

namespace CampaignConsole

namespace WatchScript

/-- A watch at a scripted source, where a clock tells the time of day by the time
that has passed. -/
def timed (clock : Nat → String) : WatchActions (StateM WatchScript) :=
  { actions "" with clock := fun s => (clock s.now, s) }

example (clock : String) : timed (fun _ => clock) = actions clock := rfl

/-- A script at another time, with other cycles behind it. -/
def moved (s : WatchScript) (now : Nat) (cycledAt : List Nat) : WatchScript :=
  { s with now, cycledAt }

end WatchScript

/-- The loop runs for a span of time, or the panel is made visible. -/
inductive WatchStep where
  | span (milliseconds : Nat)
  | reveal

/-- The times of the cycles in a span that starts at a time. -/
def cycleTimes (interval span start : Nat) : List Nat :=
  (List.range (span ⌈/⌉ interval)).map (start + · * interval)

namespace WatchStep

/-- The time that a step takes. -/
def milliseconds : WatchStep → Nat
  | .span milliseconds => milliseconds
  | .reveal => 0

/-- The cycles in a step. -/
def cycles (interval : Nat) : WatchStep → Nat
  | .span milliseconds => milliseconds ⌈/⌉ interval
  | .reveal => 0

/-- The times of the cycles of steps that start at a time. -/
def timesFrom (interval : Nat) : Nat → List WatchStep → List Nat
  | _, [] => []
  | start, .span length :: steps =>
      cycleTimes interval length start ++ timesFrom interval (start + length) steps
  | start, .reveal :: steps => timesFrom interval start steps

/-- What happens in steps that start at a time. -/
def eventsFrom (clock : Nat → String) (interval : Nat) : Nat → List WatchStep → List WatchEvent
  | _, [] => []
  | start, .span length :: steps =>
      (cycleTimes interval length start).map (.poll ∘ clock) ++
        eventsFrom clock interval (start + length) steps
  | start, .reveal :: steps => .reveal :: eventsFrom clock interval start steps

end WatchStep

/-- The watch after steps, with a loop for each span of time. -/
def Watch.follow (clock : Nat → String) (interval : Nat) :
    List WatchStep → Watch → StateM WatchScript Watch
  | [], w => return w
  | .span length :: steps, w => do
      (← w.runFor (WatchScript.timed clock) interval length).follow clock interval steps
  | .reveal :: steps, w => do
      modify WatchScript.reveal
      w.follow clock interval steps

/-! ## The cycles of a span -/

section

variable {interval span : Nat}

theorem pos_of_not_dvd (between : ¬interval ∣ span) : 0 < span := by
  rw [Nat.pos_iff_ne_zero]
  intro none
  exact between (none ▸ Nat.dvd_zero interval)

theorem cycleTimes_short (left : 0 < span) (short : span ≤ interval) (start : Nat) :
    cycleTimes interval span start = [start] := by
  have one : span ⌈/⌉ interval = 1 := by
    rw [Nat.ceilDiv_eq_add_pred_div]
    exact Nat.div_eq_of_lt_le (by omega) (by omega)
  rw [cycleTimes, one, List.range_one, List.map_singleton, Nat.zero_mul, Nat.add_zero]

theorem cycleTimes_long (positive : 0 < interval) (long : interval < span) (start : Nat) :
    cycleTimes interval span start =
      start :: cycleTimes interval (span - interval) (start + interval) := by
  have more : span ⌈/⌉ interval = (span - interval) ⌈/⌉ interval + 1 := by
    rw [Nat.ceilDiv_eq_add_pred_div, Nat.ceilDiv_eq_add_pred_div, ← Nat.add_div_right _ positive]
    congr 1
    omega
  have next (k : Nat) : start + (k + 1) * interval = start + interval + k * interval := by
    rw [Nat.succ_mul]
    omega
  rw [cycleTimes, more, List.range_succ_eq_map, List.map_cons, List.map_map, cycleTimes,
    Nat.zero_mul, Nat.add_zero]
  exact congrArg (start :: ·) (List.map_congr_left fun k _ => next k)

/-- A span starts with a cycle. -/
theorem head?_cycleTimes (positive : 0 < interval) (left : 0 < span) (start : Nat) :
    (cycleTimes interval span start).head? = some start := by
  rcases Nat.lt_or_ge interval span with long | short
  · rw [cycleTimes_long positive long, List.head?_cons]
  · rw [cycleTimes_short left short, List.head?_cons]

end

/-! ## One cycle -/

namespace WatchRun

/-- A cycle does what it does at any time, and whatever cycles were before it. -/
theorem poll_moved (clock : Nat → String) (run : WatchRun) (now : Nat) (cycledAt : List Nat) :
    ∃ outcome, (run.watch.poll (WatchScript.timed clock)).run (run.script.moved now cycledAt) =
      (((run.poll (clock now)).watch, outcome),
        (run.poll (clock now)).script.moved now (now :: cycledAt)) := by
  obtain ⟨watch, ⟨visible, answers, calls, shown, _, _⟩, outcomes⟩ := run
  cases visible with
  | false => exact ⟨_, rfl⟩
  | true => rcases answers with _ | ⟨_ | job, answers⟩ <;> exact ⟨_, rfl⟩

/-! ## The cycles of a loop -/

section

variable {interval span : Nat}

/-- A loop with time left is a cycle, a wait for the interval or what is left, and a loop. -/
theorem runFor_of_pos (clock : Nat → String) (positive : 0 < interval) (left : 0 < span)
    (w : Watch) (s : WatchScript) :
    (w.runFor (WatchScript.timed clock) interval span).run s =
      let cycle := (w.poll (WatchScript.timed clock)).run s
      (cycle.1.1.runFor (WatchScript.timed clock) interval (span - interval)).run
        (cycle.2.moved (cycle.2.now + min interval span) cycle.2.cycledAt) := by
  rw [Watch.runFor, if_neg left.ne', max_eq_right positive]
  rfl

/-- A loop is as many cycles in a row as start in its span, each at its time. -/
theorem runFor_eq (clock : Nat → String) (positive : 0 < interval) (between : ¬interval ∣ span)
    (run : WatchRun) (now : Nat) (cycledAt : List Nat) :
    let times := cycleTimes interval span now
    let polled := (times.map clock).foldl poll run
    (run.watch.runFor (WatchScript.timed clock) interval span).run (run.script.moved now cycledAt) =
      (polled.watch, polled.script.moved (now + span) (times.reverse ++ cycledAt)) := by
  induction span using Nat.strongRecOn generalizing run now cycledAt with
  | ind span ih =>
      have left : 0 < span := pos_of_not_dvd between
      obtain ⟨outcome, polled⟩ := poll_moved clock run now cycledAt
      rw [runFor_of_pos clock positive left, polled]
      rcases Nat.lt_or_ge interval span with long | short
      · have later : ¬interval ∣ span - interval := by
          rw [Nat.dvd_sub_self_right, not_or]
          exact ⟨between, Nat.not_le.2 long⟩
        have rest := ih (span - interval) (by omega) later (run.poll (clock now)) (now + interval)
          (now :: cycledAt)
        have whole : now + interval + (span - interval) = now + span := by omega
        rw [whole] at rest
        rw [cycleTimes_long positive long]
        dsimp only
        rw [List.reverse_cons, List.append_assoc, min_eq_left long.le]
        exact rest
      · have done : span - interval = 0 := Nat.sub_eq_zero_of_le short
        rw [cycleTimes_short left short]
        dsimp only
        rw [done, Watch.runFor, if_pos rfl, min_eq_right short]
        rfl

end

/-! ## Spans one after another -/

section

variable {interval : Nat}

theorem foldl_next_poll (clock : Nat → String) (times : List Nat) (run : WatchRun) :
    (times.map (.poll ∘ clock)).foldl next run = (times.map clock).foldl poll run := by
  rw [List.foldl_map, List.foldl_map]
  rfl

/-- Spans that follow one another are the cycles of each, with the panel made visible between. -/
theorem follow_eq (clock : Nat → String) (positive : 0 < interval) {steps : List WatchStep}
    (between : ∀ length, .span length ∈ steps → ¬interval ∣ length) (run : WatchRun) (now : Nat)
    (cycledAt : List Nat) :
    let polled := (WatchStep.eventsFrom clock interval now steps).foldl next run
    (run.watch.follow clock interval steps).run (run.script.moved now cycledAt) =
      (polled.watch, polled.script.moved (now + (steps.map (·.milliseconds)).sum)
        ((WatchStep.timesFrom interval now steps).reverse ++ cycledAt)) := by
  induction steps generalizing run now cycledAt with
  | nil => rfl
  | cons step steps ih =>
      have later : ∀ length, .span length ∈ steps → ¬interval ∣ length := fun length member =>
        between length (List.mem_cons_of_mem step member)
      cases step with
      | span length =>
          have looped :=
            runFor_eq clock positive (between length List.mem_cons_self) run now cycledAt
          have rest := ih later (((cycleTimes interval length now).map clock).foldl poll run)
            (now + length) ((cycleTimes interval length now).reverse ++ cycledAt)
          rw [Watch.follow, StateT.run_bind, looped]
          simp only [WatchStep.eventsFrom, WatchStep.timesFrom, List.foldl_append, List.map_cons,
            List.sum_cons, List.reverse_append, List.append_assoc, foldl_next_poll]
          rw [WatchStep.milliseconds, ← Nat.add_assoc]
          exact rest
      | reveal =>
          have rest := ih later { run with script := run.script.reveal } now cycledAt
          rw [List.map_cons, List.sum_cons, WatchStep.milliseconds, Nat.zero_add]
          exact rest

theorem outcomes_foldl_poll (clocks : List String) (run : WatchRun) :
    (clocks.foldl poll run).outcomes.length = run.outcomes.length + clocks.length := by
  induction clocks generalizing run with
  | nil => rfl
  | cons clock clocks ih =>
      have one : (run.poll clock).outcomes.length = run.outcomes.length + 1 := List.length_append
      rw [List.foldl_cons, ih, one, List.length_cons]
      omega

theorem length_cycleTimes (interval span start : Nat) :
    (cycleTimes interval span start).length = span ⌈/⌉ interval := by
  rw [cycleTimes, List.length_map, List.length_range]

theorem outcomes_foldl_next (clock : Nat → String) (interval now : Nat) (steps : List WatchStep)
    (run : WatchRun) :
    ((WatchStep.eventsFrom clock interval now steps).foldl next run).outcomes.length =
      run.outcomes.length + (steps.map (·.cycles interval)).sum := by
  induction steps generalizing run now with
  | nil => rfl
  | cons step steps ih =>
      cases step with
      | span length =>
          rw [WatchStep.eventsFrom, List.foldl_append, ih, foldl_next_poll, outcomes_foldl_poll,
            List.length_map, length_cycleTimes, List.map_cons, List.sum_cons, WatchStep.cycles,
            Nat.add_assoc]
      | reveal =>
          rw [WatchStep.eventsFrom, List.foldl_cons, ih, List.map_cons, List.sum_cons,
            WatchStep.cycles, Nat.zero_add]
          rfl

end

/-- **The loop is repeated polling at a fixed rate.**  Whatever a watch has shown, whatever its
source answers and whether its panel is visible, a loop that is cut off after a span is as many
cycles in a row as intervals start in the span, at once and then every interval, and nothing else
changes but the time.  No outcome of a cycle ends the loop or moves the next one.  Spans that follow
one another, with the panel made visible between them, each start with a cycle at once, and their
cycles add up. -/
theorem loop_polls_at_fixed_rate (clock : Nat → String) {interval : Nat} (positive : 0 < interval)
    (w : Watch) (s : WatchScript) :
    (∀ span, ¬interval ∣ span →
      let times := (List.range (span ⌈/⌉ interval)).map (s.now + · * interval)
      let polled := (times.map clock).foldl poll { watch := w, script := s }
      (w.runFor (WatchScript.timed clock) interval span).run s =
        (polled.watch, polled.script.moved (s.now + span) (times.reverse ++ s.cycledAt)) ∧
      polled.outcomes.length = span ⌈/⌉ interval) ∧
    ∀ steps, (∀ length, WatchStep.span length ∈ steps → ¬interval ∣ length) →
      let times := WatchStep.timesFrom interval s.now steps
      let polled := (WatchStep.eventsFrom clock interval s.now steps).foldl next
        { watch := w, script := s }
      (w.follow clock interval steps).run s =
        (polled.watch, polled.script.moved (s.now + (steps.map (·.milliseconds)).sum)
          (times.reverse ++ s.cycledAt)) ∧
      polled.outcomes.length = (steps.map (·.cycles interval)).sum ∧
      ∀ length start, WatchStep.span length ∈ steps →
        (cycleTimes interval length start).head? = some start := by
  let start : WatchRun := { watch := w, script := s }
  constructor
  · intro span between times polled
    refine ⟨runFor_eq clock positive between start s.now s.cycledAt, ?_⟩
    have counted := outcomes_foldl_poll ((cycleTimes interval span s.now).map clock) start
    rw [List.length_map, length_cycleTimes] at counted
    exact counted.trans (Nat.zero_add _)
  · intro steps between times polled
    refine ⟨follow_eq clock positive between start s.now s.cycledAt, ?_⟩
    refine ⟨(outcomes_foldl_next clock interval s.now steps start).trans (Nat.zero_add _), ?_⟩
    intro length first member
    exact head?_cycleTimes positive (pos_of_not_dvd (between length member)) first

/-- Five cycles in two spans: the first three find the panel hidden, the next one fails. -/
theorem loop_polls_at_fixed_rate_two_spans :
    let s : WatchScript := { visible := false, answers := [none, some { code := some .pending }] }
    let steps := [.span 5, .reveal, .span 3]
    let after := (({} : Watch).follow (fun now => toString now) 2 steps).run s
    (∀ length, WatchStep.span length ∈ steps → ¬2 ∣ length) ∧
      after.2.cycledAt = [7, 5, 4, 2, 0] ∧ after.2.now = 8 ∧ after.2.calls = 2 ∧
      after.1.failures = 1 ∧ after.1.clock = some "7" := by
  intro s steps after
  have between : ∀ length, WatchStep.span length ∈ steps → ¬2 ∣ length := by
    intro length member
    have odd : length = 5 ∨ length = 3 := by simpa [steps] using member
    omega
  obtain ⟨ran, _⟩ := (loop_polls_at_fixed_rate (fun now => toString now) (by decide) {} s).2 steps
    between
  refine ⟨between, ?_⟩
  rw [show after = _ from ran]
  decide

end WatchRun

end CampaignConsole
