import CampaignConsole.Command.Program
import CampaignConsole.Page.Wire
import Std.Async.DNS
import Std.Async.TCP
import Std.Async.Timer
import Std.Time.Zoned

/-!
The program on a real system: its files, its connections, its clock and its output.

What to do is decided by `Program.start`, `Command.run` and `Watch.poll`; here stand the actions
that they ask for, and the endless loop of a watch.
-/

namespace CampaignConsole

open Files Std.Async Std.Net

/-- The actions of the program, with its settings. -/
abbrev Live := ReaderT Settings IO

/-! ## Errors of the system -/

/-- The number and the wording of an error of the system; some calls give the number with a minus
sign, wrapped to 32 bits. -/
def systemError : IO.Error → Option (Nat × String)
  | .alreadyExists _ code details | .noFileOrDirectory _ code details
  | .invalidArgument _ code details | .permissionDenied _ code details
  | .resourceExhausted _ code details | .inappropriateType _ code details
  | .noSuchThing _ code details | .otherError code details | .resourceBusy code details
  | .resourceVanished code details | .unsupportedOperation code details
  | .unsatisfiedConstraints code details | .illegalOperation code details
  | .protocolError code details | .timeExpired code details =>
      some (min code.toNat (UInt32.size - code.toNat), details)
  | _ => none

/-- The number of an error of the system. -/
def systemNumber (error : IO.Error) : Option Nat :=
  (systemError error).map (·.1)

/-- An error of the system as an error of the file system. -/
def fileErrorOf (error : IO.Error) : FileError :=
  match systemError error with
  | some (number, details) => .ofSystem number details
  | none => .other (toString error)

/-! ## Connections -/

/-- An IPv4 address of the network. -/
def networkV4 (address : Nat) : IPAddr :=
  let byte (place : Nat) : UInt8 := (address / Nat.pow 256 place).toUInt8
  .v4 (.ofParts (byte 3) (byte 2) (byte 1) (byte 0))

/-- An IPv6 address of the network. -/
def networkV6 (pieces : List Nat) : IPAddr :=
  let piece (place : Nat) : UInt16 := (pieces[place]?.getD 0).toUInt16
  .v6 (.ofParts (piece 0) (piece 1) (piece 2) (piece 3) (piece 4) (piece 5) (piece 6) (piece 7))

/-- An address with a port. -/
def socketAddress (port : Nat) : IPAddr → SocketAddress
  | .v4 addr => .v4 { addr, port := port.toUInt16 }
  | .v6 addr => .v6 { addr, port := port.toUInt16 }

/-- The addresses of a host; a name without any has none. -/
def addressesOf : Url.Host → Async (List IPAddr)
  | .ipv4 address => return [networkV4 address]
  | .ipv6 pieces => return [networkV6 pieces]
  | .name name => do
      try
        return (← DNS.getAddrInfo (String.ofList name) "").toList
      catch _ => return []

/-- A connection to the first of some addresses that accepts one, or what was wrong
with the last one. -/
def connectAny (port : Nat) (fault : ConnectFault) :
    List IPAddr → Async (Except ConnectFault TCP.Socket.Client)
  | [] => return .error fault
  | address :: rest => do
      try
        let client ← TCP.Socket.Client.mk
        client.connect (socketAddress port address)
        return .ok client
      catch error =>
        connectAny port (if systemNumber error == some 101 then .noNetwork else .refused) rest

/-- All bytes that come until the connection is closed. -/
partial def receiveAll (client : TCP.Socket.Client) (received : ByteArray) : Async ByteArray := do
  match ← client.recv? 65536 with
  | some bytes => receiveAll client (received ++ bytes)
  | none => return received

/-- Sends a request and waits for its reply. -/
def converse (r : Request) (host : Url.Host) : Async Arrival := do
  match ← connectAny r.port .unknownHost (← addressesOf host) with
  | .error fault => return .unreachable fault
  | .ok client =>
      try
        client.send r.bytes
        let received ← receiveAll client .empty
        return match Reply.ofBytes? received.toList with
          | some reply => .reply reply
          | none => .dropped
      catch _ => return .dropped

instance : Inhabited Arrival := ⟨.dropped⟩

/-- Sends a request and waits for its reply for some milliseconds at most. -/
def exchangeWithin (milliseconds : Nat) (r : Request) : IO Arrival :=
  match r.url.host with
  | none => return .unreachable .unknownHost
  | some host =>
      if r.url.scheme == "https".toList then return .unreachable .encrypted
      else
        (Async.race (converse r host) do
          sleep (.ofNat milliseconds)
          return .unreachable .timedOut).block

/-! ## Files -/

/-- An action on files, with its error as a value. -/
def attempt {α ε : Type} (wrap : FileError → ε) (act : IO α) : ExceptT ε IO α := do
  match ← act.toBaseIO with
  | .ok a => return a
  | .error e => throw (wrap (fileErrorOf e))

/-- The text of a file. -/
def readFile (path : Path) : ExceptT FileError IO String := do
  if path.text.toList.contains '\x00' then throw .nulInPath
  let bytes ← attempt id (IO.FS.readBinFile path.text)
  match String.fromUTF8? bytes with
  | some text => return text
  | none => throw .notUtf8

/-- A name for a draft, different from run to run. -/
def draftName : IO String := do
  return ".tmp" ++ toString (← IO.rand 100000 999999)

/-- Replaces a file: a draft is written in its directory and renamed. -/
def replaceFile (path : Path) (text : String) : ExceptT ReplaceError IO Unit := do
  let directory := path.directory
  attempt (.makeDirectory directory) (IO.FS.createDirAll directory.text)
  let draft := directory.text ++ "/" ++ (← draftName)
  let handle ← attempt (.createDraft directory) (IO.FS.Handle.mk draft .writeNew)
  try
    attempt .writeDraft do
      handle.putStr text
      handle.flush
    attempt (.rename path) (IO.FS.rename draft path.text)
  catch error =>
    discard (IO.FS.removeFile draft).toBaseIO
    throw error

/-! ## The console -/

/-- The time of day, as the panel shows it. -/
def clockText : IO String := do
  let now ← Std.Time.PlainTime.now
  let two (n : Int) : String := Calendar.Moment.padded 2 n.toNat
  return two now.hour.val ++ ":" ++ two now.minute.val ++ ":" ++ two now.second.val

instance : Console Live where
  exchange r := do exchangeWithin (← read).requestTimeout r
  read path := (readFile path).run
  replace path text := (replaceFile path text).run
  print text := do
    let out ← IO.getStdout
    out.putStr text
    out.flush
  time := clockText
  wait milliseconds := IO.sleep (min milliseconds (UInt32.size - 1)).toUInt32

/-- Watches the send job until the program is stopped. -/
partial def watchForever (terminal : Terminal.Settings) (w : Watch) : Live Unit := do
  let settings ← read
  let actions : WatchActions Live := Command.watchActions settings terminal
  let (w, _) ← w.poll actions
  actions.wait settings.pollInterval
  watchForever terminal w

/-- Reports how the program ends, with a line end after the last line. -/
def leave (exit : Exit) : IO UInt32 := do
  if let some text := exit.error then
    (← IO.getStderr).putStr (if text.endsWith "\n" then text else text ++ "\n")
  return exit.code.toUInt32

/-- The values of variables of the environment. -/
def environmentOf (names : List String) : IO (String → Option String) := do
  let values ← names.mapM fun name => return (name, ← IO.getEnv name)
  return fun name => (values.lookup name).join

/-- Runs the program. -/
def runProgram (args : List String) : IO UInt32 := do
  let names := CommandLine.settingOptions.map (·.fallback) ++ Terminal.Settings.environmentNames
  let environment ← environmentOf names
  let terminal := Terminal.Settings.ofEnvironment (← (← IO.getStdout).isTty) environment
  match Program.start args environment with
  | .error exit => leave exit
  | .ok (settings, command) =>
      match ← (Command.run (m := Live) settings terminal command).run settings with
      | .error e => leave (.ofError e)
      | .ok .done => leave .success
      | .ok .watch => do
          (watchForever terminal {}).run settings
          leave .success

end CampaignConsole

/-- Runs the program with the arguments of the command line. -/
def main (args : List String) : IO UInt32 :=
  CampaignConsole.runProgram args
