import Std.Async.DNS
import Std.Async.Signal
import Std.Async.TCP
import Std.Async.Timer
import Std.Time
import Statute.Backend.Wire
import Statute.Console.Program
import Statute.Viewer.Wire

/-!
# The command line program

The outer layer: files, the environment, the clock, the terminal and connections. What is done with
them is decided by the sessions that are performed here.
-/

namespace Statute.Main

open Std.Async Std.Net

/-- The present time. -/
def currentTime : IO Timestamp := do
  let now ← Std.Time.Timestamp.now
  let plain := Std.Time.PlainDateTime.ofWallTime
    (.ofNanoseconds now.toNanosecondsSinceUnixEpoch)
  let date? := Time.Date.ofParts? plain.date.year.toInt plain.date.month.val.toNat
    plain.date.day.val.toNat
  let time? := Time.TimeOfDay.ofParts? plain.time.hour.val.toNat plain.time.minute.val.toNat
    plain.time.second.val.toNat plain.time.nanosecond.val.toNat
  match date?, time? with
  | some date, some time => return ⟨date, time⟩
  | _, _ => return .epoch

/-- What is found at a path. -/
def find (path : String) : IO Settings.Found := do
  if ← (show IO Bool from (IO.FS.readBinFile path *> pure true) <|> pure false) then
    let bytes ← IO.FS.readBinFile path
    match String.fromUTF8? bytes with
    | some content => return .text content
    | none => return .unreadable
  else return .missing

/-- The text of a file. -/
def readText (path : String) : IO (Option String) := do
  match ← find path with
  | .text content => return some content
  | _ => return none

/-! ## Connections -/

/-- Everything that comes over a connection until the other side closes it. -/
partial def receiveAll (client : TCP.Socket.Client) (received : ByteArray) : Async ByteArray := do
  match ← client.recv? 65536 with
  | some bytes => receiveAll client (received ++ bytes)
  | none => return received

/-- The address of a host. -/
def resolve (host : String) : Async (Option IPAddr) := do
  match IPv4Addr.ofString host with
  | some address => return some (.v4 address)
  | none =>
    let found ← DNS.getAddrInfo host "" (some .ipv4)
    return found[0]?

/-- Sends a request over a connection of its own and reads the response. -/
def transmit (address : Web.WebAddress) (request : HttpRequest) :
    Async (Option HttpResponse) := do
  if address.isSecure then return none
  let some host ← resolve address.host | return none
  let port := UInt16.ofNat address.connectionPort
  let client ← (TCP.Socket.Client.mk : IO TCP.Socket.Client)
  client.connect (match host with
    | .v4 host => .v4 ⟨host, port⟩
    | .v6 host => .v6 ⟨host, port⟩)
  client.send (request.wireText address).toUTF8
  let bytes ← receiveAll client .empty
  return HttpResponse.ofBytes? bytes.toList

/-- The response to a request, or nothing when there is none in time. -/
def transmitInTime (timeoutSeconds : Nat) (address : Web.WebAddress) (request : HttpRequest) :
    Async (Option HttpResponse) :=
  let timeUp : Async (Option HttpResponse) := do
    sleep (Std.Time.Millisecond.Offset.ofNat (1000 * timeoutSeconds))
    return none
  Async.race (transmit address request) timeUp

/-- The outcome of a request to the backend. -/
def outcomeOf (preparation : Console.Preparation) (request : Request) : Async request.Outcome := do
  let sent := request.toHttp
  match preparation.service.destination sent with
  | .error error => return .error error
  | .ok address =>
    let response ←
      try transmitInTime preparation.settings.backend.timeoutSeconds address sent
      catch _ => pure none
    return request.outcomeOfResponse address.text response

/-- Performs a session. -/
def perform {α : Type} (preparation : Console.Preparation) : Session α → IO α
  | .done value => return value
  | .ask request next => do
    perform preparation (next (← (outcomeOf preparation request).block))
  | .askBoth first second next => do
    let (first, second) ←
      (Async.concurrently (outcomeOf preparation first) (outcomeOf preparation second)).block
    perform preparation (next (do return (← first, ← second)))
  | .write text next => do
    let output ← IO.getStdout
    output.putStr text
    output.flush
    perform preparation next
  | .report text next => do
    IO.eprint text
    perform preparation next
  | .readFile path next => do perform preparation (next (← readText path))
  | .clock next => do perform preparation (next (← currentTime))

/-! ## What goes on until the user interrupts -/

/-- Follows a log round by round. -/
partial def follow (preparation : Console.Preparation) (follower : Follower) : IO Unit := do
  let follower ← perform preparation (Console.followRound follower)
  if follower.hasEnded then return
  IO.sleep (UInt32.ofNat (1000 * preparation.settings.logs.pollIntervalSeconds))
  follow preparation follower

/-- Reads a request off a connection. -/
partial def receiveArrival (client : TCP.Socket.Client) (received : ByteArray) :
    Async (Option Viewer.Arrival) := do
  match ← client.recv? 65536 with
  | none => return none
  | some bytes =>
    let received := received ++ bytes
    match Viewer.Arrival.ofBytes? received.toList with
    | some arrival => return some arrival
    | none => receiveArrival client received

/-- Holds an answer back as long as a browser waits for a change and the time is not up. -/
partial def holdBack (viewer : IO.Ref Viewer) (known : Option AtomId) (deciseconds : Nat)
    (wait : Viewer.LongPoll) : IO Unit := do
  let isTimeUp := deciseconds = 0
  match wait.step known (← viewer.get).hover isTimeUp with
  | .answered _ => return
  | .suspended subscription =>
    IO.sleep 100
    holdBack viewer known (deciseconds - 1) (.suspended subscription)
  | next => holdBack viewer known deciseconds next

/-- Answers the request on a connection. -/
def attend (preparation : Console.Preparation) (viewer : IO.Ref Viewer)
    (client : TCP.Socket.Client) : IO Unit := do
  let some arrival ← (receiveArrival client .empty).block | return
  match Viewer.Visit.ofArrival arrival with
  | .ok (.awaitHover known) => holdBack viewer known (10 * Viewer.longestWait) .beginning
  | _ => pure ()
  let (answer, after) ← perform preparation ((← viewer.get).respond arrival)
  match Viewer.Visit.ofArrival arrival with
  | .ok (.writeHover _) | .ok .clearHover => viewer.set after
  | _ => pure ()
  (client.send answer.wireText.toUTF8).block
  client.shutdown.block

/-- Takes connections one after the other and answers each beside the others. -/
partial def accept (preparation : Console.Preparation) (viewer : IO.Ref Viewer)
    (server : TCP.Socket.Server) : IO Unit := do
  let client ← server.accept.block
  let _ ← IO.asTask (attend preparation viewer client) Task.Priority.dedicated
  accept preparation viewer server

/-- Serves a viewer. -/
def serve (preparation : Console.Preparation) (viewer : Viewer) (port : Nat) : IO Unit := do
  let server ← TCP.Socket.Server.mk
  server.bind (.v4 ⟨IPv4Addr.ofParts 127 0 0 1, UInt16.ofNat port⟩)
  server.listen 128
  accept preparation (← IO.mkRef viewer) server

/-- Does something until the user interrupts it. -/
def untilInterrupted (action : IO Unit) : IO Unit := do
  let waiter ← Signal.Waiter.mk .sigint false
  let interrupted ← waiter.wait
  let acting ← IO.asTask action Task.Priority.dedicated
  let stopped : AsyncTask Unit := interrupted.map fun _ => ()
  IO.ofExcept (← IO.waitAny [stopped.run, acting])

/-! ## The program -/

/-- Tells a failure and gives the exit status. -/
def fail (failure : Failure) : IO UInt32 := do
  IO.eprintln ("Error: " ++ failure.message)
  return UInt32.ofNat (Console.Ending.failure failure).status

/-- Where the user's settings are. -/
def userSettingsPath : IO String := do
  match ← IO.getEnv "XDG_CONFIG_HOME" with
  | some directory => return directory ++ "/lexlogic/config.toml"
  | none => return ((← IO.getEnv "HOME").getD "") ++ "/.config/lexlogic/config.toml"

/-- Runs an invocation. -/
def run (line : Console.CommandLine) : IO UInt32 := do
  let values ← Settings.variableNames.mapM fun name => return (name, ← IO.getEnv name)
  let environment (name : String) : Option String := (values.lookup name).join
  let named ← find (line.settingsPath.getD "")
  match line.prepare environment (fun _ => named) (← find "lexlogic.toml")
      (← find (← userSettingsPath)) with
  | .error failure => fail failure
  | .ok preparation =>
    match ← perform preparation preparation.job.run with
    | .error failure => fail failure
    | .ok .none => return 0
    | .ok (.follow feed) =>
      untilInterrupted (follow preparation (.start feed false))
      return 0
    | .ok (.serve viewer port _) =>
      untilInterrupted (serve preparation viewer port)
      return 0

end Statute.Main

/-- The program: the words of its command line to its exit status. -/
def main (words : List String) : IO UInt32 := do
  match Statute.Console.CommandLine.ofWords words with
  | .ok line => Statute.Main.run line
  | .error .version =>
    IO.print Statute.Console.versionLine
    return 0
  | .error .help =>
    IO.print Statute.Console.usage
    return 0
  | .error .misuse =>
    IO.eprint Statute.Console.usage
    return 2
