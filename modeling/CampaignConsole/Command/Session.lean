import CampaignConsole.Command.Run

/-!
Sessions with a scripted page.

A `Session` is a console whose page answers by a script, whose disk is a value and whose output is
collected.  A run in it is a function of the script and the disk, so that whole runs can be
compared.
-/

namespace CampaignConsole

open Files

/-- What a scripted page does with one request. -/
inductive Reaction where
  | reply (r : Reply)
  /-- The connection is closed without a reply. -/
  | drop

/-- What a scripted page does when the script has run out. -/
inductive ScriptEnd where
  /-- It answers that it is not available. -/
  | unavailable
  /-- The run ends. -/
  | stop
  /-- It cannot be reached. -/
  | unreachable
  deriving DecidableEq, Repr

/-- A page that answers by a script. -/
structure PageScript where
  reactions : List Reaction := []
  afterwards : ScriptEnd := .unavailable

/-- A reply with a code; the codes 204 and 304 have no body. -/
def Reply.ofCode (code : Nat) (body : ByteArray) : Reply :=
  { code, body := if code = 204 || code = 304 then .empty else body }

/-- A console with a scripted page. -/
structure Session where
  page : PageScript := {}
  disk : Disk := {}
  /-- The requests that reached the page, last first. -/
  requests : List Request := []
  /-- The texts printed, last first. -/
  printed : List String := []
  /-- The time of day, as the panel shows it. -/
  clock : String := ""

namespace Session

/-- A run in a session; it stops where the script says so. -/
abbrev Run := EStateM Unit Session

/-- Sends a request to the scripted page. -/
def exchange (r : Request) : Run Arrival := do
  let s ← get
  match s.page.reactions with
  | reaction :: rest =>
      set { s with page := { s.page with reactions := rest }, requests := r :: s.requests }
      return match reaction with
        | .reply reply => .reply reply
        | .drop => .dropped
  | [] =>
      match s.page.afterwards with
      | .unavailable =>
          set { s with requests := r :: s.requests }
          return .reply (Reply.ofCode 503 "no reply left".toUTF8)
      | .stop => throw ()
      | .unreachable => return .unreachable .noNetwork

instance : Console Run where
  exchange := exchange
  read path := do return (← get).disk.read path
  replace path text := modifyGet fun s =>
    let (disk, outcome) := s.disk.replace path text
    (outcome, { s with disk })
  print text := modify fun s => { s with printed := text :: s.printed }
  time := return (← get).clock
  wait _ := return ()

/-- The text printed in a session. -/
def output (s : Session) : String :=
  String.join s.printed.reverse

/-- How a run ended. -/
inductive Outcome where
  | done
  | failed (error : CommandError)
  /-- The script ended the run. -/
  | stopped
  /-- The run never ends: a watch goes on and on. -/
  | endless
  deriving DecidableEq, Repr

/-- Watches until the script ends the run; once no reply is left, nothing can end it any more. -/
def watch (settings : Settings) (terminal : Terminal.Settings) (s : Session) : Outcome × Session :=
  let cycles := s.page.reactions.length + 1
  match ({} : Watch).cycles (Command.watchActions (m := Run) settings terminal) cycles s with
  | .ok _ s => (.endless, s)
  | .error () s => (.stopped, s)

/-- Runs a command. -/
def run (settings : Settings) (terminal : Terminal.Settings) (command : Command) (s : Session) :
    Outcome × Session :=
  match Command.run (m := Run) settings terminal command s with
  | .error () s => (.stopped, s)
  | .ok (.error e) s => (.failed e, s)
  | .ok (.ok .done) s => (.done, s)
  | .ok (.ok .watch) s => watch settings terminal s

end Session

end CampaignConsole
