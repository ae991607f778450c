import CampaignConsole.Command.Basic
import CampaignConsole.Terminal.CampaignScreen
import CampaignConsole.Terminal.PanelScreen

/-!
Running commands.

A command sends requests, reads and replaces the state file and prints; `Console` is what it needs
for that.  Commands about the campaign list open the store before anything else.  A command that
watches ends by asking for the watch, which goes on until the program is stopped.
-/

namespace CampaignConsole

open Files Terminal

/-- Printing. -/
class Printer (m : Type → Type) where
  print : String → m Unit

/-- The time of day, and letting time pass. -/
class Clock (m : Type → Type) where
  /-- The time of day, as the panel shows it. -/
  time : m String
  /-- Lets some milliseconds pass. -/
  wait : Nat → m Unit

/-- What commands need around them. -/
class Console (m : Type → Type) extends Monad m, Web m, FileSystem m, Printer m, Clock m

/-- What follows a command that did not fail. -/
inductive Ending where
  | done
  /-- The send job is watched from now on. -/
  | watch
  deriving DecidableEq, Repr

namespace Command

variable {m : Type → Type} [Console m]

/-- Prints lines. -/
def printLines (terminal : Terminal.Settings) (lines : List Line) : m Unit :=
  Printer.print (renderLines terminal.colors lines)

/-! ## Sending -/

/-- Starts the send job. -/
def runSend (settings : Settings) (terminal : Terminal.Settings) (watch : Bool) :
    m (Except CommandError Ending) := do
  match ← (CampaignPage.ofAddress settings.pageUrl).startSend with
  | .error e => return .error (.startFailed e)
  | .ok () =>
      printLines terminal [[.colored .green "✓ Send has been initiated"]]
      if watch then return .ok .watch
      else
        printLines terminal [[.dimmed "  Run \x60mailwatch watch\x60 to follow the progress."]]
        return .ok .done

/-! ## Groups -/

/-- Adds a recipient group or removes it. -/
def runGroup (settings : Settings) (terminal : Terminal.Settings) (name : String)
    (isRecipient : Bool) : m (Except CommandError Ending) := do
  match ← (CampaignPage.ofAddress settings.pageUrl).setGroup name isRecipient with
  | .error e => return .error (.groupFailed name e)
  | .ok () =>
      let done := if isRecipient then "✓ Added recipient group" else "✓ Removed recipient group"
      printLines terminal [[.colored .green done, .plain " ", .colored .cyan name]]
      return .ok .done

/-! ## Campaigns -/

/-- Asks for the campaign list and applies the remembered sort. -/
def loadDesk (settings : Settings) (store : StateStore) : m (Except CommandError CampaignDesk) := do
  match ← CampaignPage.listCampaigns settings.listUrl with
  | .error e =>
      return .error
        (if e.isNotFound then .noList settings.listUrl else .listFailed settings.listUrl e)
  | .ok campaigns => return .ok (CampaignDesk.load campaigns store).restore.1

/-- Takes the campaigns named out of a list, and tells the names that no campaign has. -/
def exclude (list : CampaignList) : List String → CampaignList × List String
  | [] => (list, [])
  | name :: names =>
      match list.remove? name with
      | some (_, list) => exclude list names
      | none =>
          let (list, missing) := exclude list names
          (list, name :: missing)

/-- Prints a list with its controls. -/
def printDesk (terminal : Terminal.Settings) (desk : CampaignDesk) : m Unit :=
  printLines terminal (campaignLines desk.list desk.controls)

/-- Shows the list. -/
def runList (settings : Settings) (terminal : Terminal.Settings) (store : StateStore)
    (choice : Option SortChoice) (names : List String) : m (Except CommandError Ending) := do
  match ← loadDesk settings store with
  | .error e => return .error e
  | .ok desk =>
      let (desk, outcome) ← match choice with
        | none => pure (desk, .ok ())
        | some choice => desk.userSort choice
      match outcome with
      | .error e => return .error (.store e)
      | .ok () =>
          let (list, missing) := exclude desk.list names
          printLines terminal (missing.map fun name =>
            [.colored .yellow ("⚠ No campaign named " ++ name)])
          printDesk terminal { desk with list }
          return .ok .done

/-- Activates a sort control and shows the list. -/
def runSort (settings : Settings) (terminal : Terminal.Settings) (store : StateStore)
    (field : SortField) : m (Except CommandError Ending) := do
  match ← loadDesk settings store with
  | .error e => return .error e
  | .ok desk =>
      match ← desk.activate field with
      | (_, .error e) => return .error (.store e)
      | (desk, .ok choice) =>
          printLines terminal
            [[.bold ("Sorted by " ++ choice.field.text ++ " (" ++ choice.direction.text ++ ")")],
              []]
          printDesk terminal desk
          return .ok .done

/-- Creates a campaign job and shows the list. -/
def runCreate (settings : Settings) (terminal : Terminal.Settings) (store : StateStore)
    (action : Option String) (fields : FormValues) : m (Except CommandError Ending) := do
  let page := CampaignPage.ofAddress settings.pageUrl
  match ← page.createJob (action.getD settings.listUrl) fields with
  | .error e => return .error (.createFailed e)
  | .ok () =>
      printLines terminal [[.colored .green "✓ Campaign job created"], []]
      match ← loadDesk settings store with
      | .error e => return .error e
      | .ok desk =>
          printDesk terminal desk
          return .ok .done

/-- Runs a command about the campaign list. -/
def runCampaign (settings : Settings) (terminal : Terminal.Settings) (command : CampaignCommand) :
    m (Except CommandError Ending) := do
  match ← StateStore.openAt ⟨settings.statePath⟩ with
  | .error e => return .error (.store e)
  | .ok store =>
      match command with
      | .list sort descending names =>
          let choice := sort.map fun field => ⟨field, .ofAscending (!descending)⟩
          runList settings terminal store choice names
      | .sort field => runSort settings terminal store field
      | .create action fields => runCreate settings terminal store action fields

/-! ## Commands -/

/-- Runs a command. -/
def run (settings : Settings) (terminal : Terminal.Settings) (command : Command) :
    m (Except CommandError Ending) :=
  match command with
  | .watch => return .ok .watch
  | .send follow => runSend settings terminal follow
  | .group name isRecipient => runGroup settings terminal name isRecipient
  | .campaign command => runCampaign settings terminal command

/-- What a watch of the page's send job needs, on a terminal. -/
def watchActions (settings : Settings) (terminal : Terminal.Settings) : WatchActions m where
  visible := return true
  fetch := return (← (CampaignPage.ofAddress settings.pageUrl).fetchStatus).toOption
  clock := Clock.time
  display w := Printer.print (watchText terminal w)
  wait := Clock.wait

end Command

end CampaignConsole
