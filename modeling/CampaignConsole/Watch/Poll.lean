import CampaignConsole.Watch.StatusPanel

/-!
Watching a send job.

A `Watch` holds what was shown so far.  One cycle (`Watch.poll`) asks for the job while the panel is
visible, takes in the answer and shows it; a failed request changes nothing but two counters and is
tried again in the next cycle.  `Watch.runFor` is the endless loop of cycles and waits, cut off
after a span of time.
-/

namespace CampaignConsole

/-- What a watch has shown so far. -/
structure Watch where
  table : RecipientTable := {}
  /-- The panel of the last answer. -/
  panel : Option StatusPanel := none
  /-- The time of day of the last answer. -/
  clock : Option String := none
  /-- The requests made. -/
  requests : Nat := 0
  /-- The requests that failed. -/
  failures : Nat := 0

/-- What became of one cycle. -/
inductive PollOutcome where
  /-- The panel is hidden; no request was made. -/
  | idle
  /-- The answer was shown. -/
  | rendered
  /-- The request failed. -/
  | failed
  deriving DecidableEq, Repr

/-- What a watch needs around it. -/
structure WatchActions (m : Type → Type) where
  /-- Whether the panel is visible. -/
  visible : m Bool
  /-- Asks for the job; `none` where the request fails. -/
  fetch : m (Option SendJob)
  /-- The time of day. -/
  clock : m String
  /-- Shows the panel and its table. -/
  display : Watch → m Unit
  /-- Lets some milliseconds pass. -/
  wait : Nat → m Unit

namespace Watch

/-- Takes in an answer that arrived at a time of day. -/
def takeIn (w : Watch) (job : SendJob) (clock : String) : Watch :=
  { w with table := w.table.apply job, panel := some (.ofJob job), clock := some clock }

variable {m : Type → Type} [Monad m]

/-- One cycle. -/
def poll (actions : WatchActions m) (w : Watch) : m (Watch × PollOutcome) := do
  if ← actions.visible then
    let asked := { w with requests := w.requests + 1 }
    match ← actions.fetch with
    | some job =>
        let shown := asked.takeIn job (← actions.clock)
        actions.display shown
        return (shown, .rendered)
    | none => return ({ asked with failures := asked.failures + 1 }, .failed)
  else return (w, .idle)

/-- A number of cycles, one after the other. -/
def cycles (actions : WatchActions m) : Nat → Watch → m Watch
  | 0, w => return w
  | n + 1, w => do
      let (w, _) ← w.poll actions
      w.cycles actions n

/-- The loop for a span of time that starts now: a cycle, then a wait, and so on while time is
left.  The interval between two cycles is at least one millisecond; the last wait ends with the
span. -/
def runFor (actions : WatchActions m) (interval remaining : Nat) (w : Watch) : m Watch := do
  if remaining = 0 then return w
  else
    let (w, _) ← w.poll actions
    let pause := max 1 interval
    actions.wait (min pause remaining)
    w.runFor actions interval (remaining - pause)
termination_by remaining
decreasing_by omega

end Watch

/-! ## A scripted source -/

/-- A source whose answers are known in advance, with the panel switch and a record
of what was shown. -/
structure WatchScript where
  visible : Bool
  /-- The answers to come; a failure once none is left. -/
  answers : List (Option SendJob)
  /-- The requests that reached the source. -/
  calls : Nat := 0
  /-- What was shown, last first. -/
  shown : List Watch := []
  /-- The milliseconds that have passed. -/
  now : Nat := 0
  /-- The times of the cycles, last first. -/
  cycledAt : List Nat := []

namespace WatchScript

/-- Takes the next answer. -/
def fetch : StateM WatchScript (Option SendJob) := fun s =>
  (s.answers.head?.join, { s with answers := s.answers.tail, calls := s.calls + 1 })

/-- Tells whether the panel is visible, which every cycle asks first. -/
def look : StateM WatchScript Bool := fun s =>
  (s.visible, { s with cycledAt := s.now :: s.cycledAt })

/-- Makes the panel visible. -/
def reveal (s : WatchScript) : WatchScript :=
  { s with visible := true }

/-- A watch at a scripted source, at a fixed time of day. -/
def actions (clock : String) : WatchActions (StateM WatchScript) where
  visible := look
  fetch := fetch
  clock := return clock
  display w := modify fun s => { s with shown := w :: s.shown }
  wait milliseconds := modify fun s => { s with now := s.now + milliseconds }

end WatchScript

end CampaignConsole
