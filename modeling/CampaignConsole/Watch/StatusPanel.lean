import CampaignConsole.Watch.RecipientTable

/-!
The panel above the table of recipients: how far the send job has come, in one mode, one number and
one line.
-/

namespace CampaignConsole

/-- The mode of the panel. -/
inductive PanelMode where
  /-- The campaign was never sent. -/
  | notSent
  /-- The send job is queued or under way. -/
  | pending
  /-- The send job has ended. -/
  | complete
  deriving DecidableEq, Repr

/-- What the panel shows besides the rows. -/
structure StatusPanel where
  mode : PanelMode
  /-- From 0 to 100. -/
  percent : Float
  /-- The line of counts; empty where the campaign was never sent. -/
  summary : String
  description : Option String

namespace SendJob

/-- The mode of the panel for a job. -/
def panelMode (job : SendJob) : PanelMode :=
  match job.code with
  | none => .notSent
  | some code => if code.isComplete then .complete else .pending

/-- The line of counts; the total is left out where it is zero. -/
def summaryLine (job : SendJob) : String :=
  toString job.successful.length ++ " sent ok, " ++ toString job.failed.length ++ " failed, " ++
    toString job.retrying.length ++ " retrying" ++
    (if 0 < job.totalToSend then ", " ++ toString job.totalToSend ++ " in total to send" else "")

end SendJob

/-- A progress kept between 0 and 100; what is not a number counts as 0. -/
def clampPercent (percent : Float) : Float :=
  if percent.isNaN then 0.0
  else if percent < 0.0 then 0.0
  else if 100.0 < percent then 100.0
  else percent

/-- The panel for a job. -/
def StatusPanel.ofJob (job : SendJob) : StatusPanel :=
  match job.panelMode with
  | .notSent =>
      { mode := .notSent, percent := 0.0, summary := "", description := job.description }
  | mode =>
      { mode, percent := clampPercent job.percent, summary := job.summaryLine
        description := job.description }

end CampaignConsole
