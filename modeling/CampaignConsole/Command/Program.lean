import CampaignConsole.Command.CommandLine
import CampaignConsole.Command.Session

/-!
The program: from a command line to an exit code.

`Program.start` reads the command line and checks the settings; what it gives is then run, in the
console of the system or in a session with a scripted page.
-/

namespace CampaignConsole

/-- How the program ends: its exit code, and what it reports about a failure. -/
structure Exit where
  code : Nat
  error : Option String := none
  deriving DecidableEq, Repr

namespace Exit

/-- The end after success. -/
def success : Exit := { code := 0 }

/-- The end after a command failed. -/
def ofError (e : CommandError) : Exit :=
  { code := 1, error := some e.report }

/-- The end after the command line was refused; a request for help is no failure. -/
def ofUsage : CommandLine.UsageError → Exit
  | .help => success
  | e => { code := 2, error := e.message? }

end Exit

namespace Program

/-- Reads the command line and checks the settings. -/
def start (args : List String) (environment : String → Option String) :
    Except Exit (Settings × Command) :=
  match CommandLine.parse args environment with
  | .error e => .error (.ofUsage e)
  | .ok (settings, command) =>
      match settings.check with
      | .error e => .error (.ofError (.settings e))
      | .ok () => .ok (settings, command)

end Program

/-- Runs the program in a session; there is no exit where the run never ends or the
script stops it. -/
def Session.program (terminal : Terminal.Settings) (args : List String)
    (environment : String → Option String) (s : Session) : Option Exit × Session :=
  match Program.start args environment with
  | .error e => (some e, s)
  | .ok (settings, command) =>
      match s.run settings terminal command with
      | (.done, s) => (some .success, s)
      | (.failed e, s) => (some (.ofError e), s)
      | (.stopped, s) => (none, s)
      | (.endless, s) => (none, s)

end CampaignConsole
