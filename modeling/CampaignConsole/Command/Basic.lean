import CampaignConsole.Campaign.Desk
import CampaignConsole.Page.Client

/-!
The commands of the console, and how they fail.
-/

namespace CampaignConsole

/-- A command about the campaign list. -/
inductive CampaignCommand where
  /-- Shows the list, sorted as asked or else as remembered, without the campaigns named. -/
  | list (sort : Option SortField) (descending : Bool) (exclude : List String)
  /-- Activates the sort control of a column and shows the list. -/
  | sort (field : SortField)
  /-- Creates a campaign job and shows the list. -/
  | create (action : Option String) (fields : FormValues)
  deriving DecidableEq, Repr

/-- A command of the console. -/
inductive Command where
  /-- Follows the send job. -/
  | watch
  /-- Starts the send job, and follows it where asked. -/
  | send (watch : Bool)
  /-- Adds a recipient group to the campaign or removes it. -/
  | group (name : String) (isRecipient : Bool)
  | campaign (command : CampaignCommand)
  deriving DecidableEq, Repr

/-- Why a command failed. -/
inductive CommandError where
  | settings (error : SettingsError)
  | store (error : StoreError)
  | startFailed (error : ClientError)
  | groupFailed (name : String) (error : ClientError)
  | noList (url : String)
  | listFailed (url : String) (error : ClientError)
  | createFailed (error : ClientError)
  deriving DecidableEq, Repr

namespace CommandError

/-- The messages of an error: what failed, then why. -/
def messages : CommandError → List String
  | .settings error => [error.message]
  | .store error => error.messages
  | .startFailed error => ["Failed to start the send job. Please try again: " ++ error.message]
  | .groupFailed name error => ("Failed to update recipient group " ++ name) :: error.messages
  | .noList url => ["No campaign list at " ++ url ++ " (set --list-url)"]
  | .listFailed url error => ("Failed to load campaigns from " ++ url) :: error.messages
  | .createFailed error => "Failed to create the campaign job" :: error.messages

/-- A cause in a report: each of its lines is indented, and the first one numbered where there are
several causes. -/
def causeLines (number : Option Nat) (cause : String) : List Char :=
  let first := match number with
    | none => [' ', ' ', ' ', ' ']
    | some n => [' ', ' ', ' ', ' '] ++ (toString n).toList ++ [':', ' ']
  first ++ cause.toList.flatMap fun c => if c = '\n' then ['\n', ' ', ' ', ' ', ' '] else [c]

/-- The report of an error to the user: what failed, then its causes. -/
def report (e : CommandError) : String :=
  match e.messages with
  | [] => "Error: \n"
  | [message] => "Error: " ++ message ++ "\n"
  | [message, cause] =>
      "Error: " ++ message ++ "\n\nCaused by:\n" ++ String.ofList (causeLines none cause) ++ "\n"
  | message :: causes =>
      "Error: " ++ message ++ "\n\nCaused by:\n" ++
        String.ofList
          (['\n'].intercalate (causes.zipIdx.map fun (c, n) => causeLines (some n) c)) ++ "\n"

end CommandError

end CampaignConsole
