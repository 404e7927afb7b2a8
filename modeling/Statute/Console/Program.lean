import Statute.Backend.Service
import Statute.Console.Invocation
import Statute.Log.Follower
import Statute.Settings.Load
import Statute.Viewer.Answer

/-!
# The program

What the program does from its command line on. With settings and a backend the invocation becomes a
session; after it, the log may be followed or the viewer served until the user interrupts.
-/

namespace Statute.Console

/-- The line that tells the version. -/
def versionLine : String := "lexlogic 0.1.0\n"

/-- How to use the program. -/
def usage : String :=
  "Usage: lexlogic [--config FILE] COMMAND\n\nCommands:\n" ++
    Text.joined "" (programForm.commands.map fun command =>
      "  " ++ command.name ++ Text.joined "" (command.commands.map (" " ++ ·.name)) ++ "\n")

/-- How the program ends. -/
inductive Ending where
  | success
  | failure (failure : Failure)
  | misuse

/-- The exit status. -/
def Ending.status : Ending → Nat
  | success => 0
  | failure _ => 1
  | misuse => 2

/-- What is left to do after the session of an invocation. -/
inductive Continuation where
  | none
  | follow (feed : LogFeed)
  | serve (viewer : Viewer) (port : Nat) (opensBrowser : Bool)

/-- Settings, the backend that they name and what is to be done with them. -/
structure Preparation where
  settings : Settings
  service : BackendService
  invocation : Invocation

/-- The settings and the backend for a command line, given the environment and what is found where
settings files are looked for. -/
def CommandLine.prepare (line : CommandLine) (environment : String → Option String)
    (found : String → Settings.Found) (inDirectory ofUser : Settings.Found) :
    Except Failure Preparation := do
  let settings ← (Settings.load environment (line.settingsPath.map found) inDirectory
    ofUser).mapError fun _ => Failure.settings
  let service ← (BackendService.ofText settings.backend.baseUrl).mapError Failure.backend
  return ⟨settings, service, line.invocation⟩

/-- The settings as text. -/
def settingsText (settings : Settings) : Except Failure String :=
  match settings.toToml? with
  | some text => .ok text
  | none => .error .unwritableSetting

/-- Begins to serve the viewer. The fragment must be there. -/
def servingJob (settings : Settings) (fragment : FragmentId) (port : Option Nat)
    (staysClosed : Bool) : Job Continuation := do
  let shown ← Job.ask (.getFragment fragment)
  let port := port.getD settings.serve.port
  Job.print ["Serving fragment " ++ toString fragment.toInt ++ " at http://localhost:" ++
    toString port, "Press Ctrl+C to stop", ""]
  return .serve (.start settings shown.id shown.title) port
    (settings.serve.opensBrowser && !staysClosed)

/-- The session of an invocation. -/
def Preparation.job (preparation : Preparation) : Job Continuation := do
  let settings := preparation.settings
  match preparation.invocation with
  | .command command =>
    match ← command.job settings with
    | some feed => return .follow feed
    | none => return .none
  | .printSettings standard =>
    let text ← Job.ofExcept id (settingsText (if standard then .standard else settings))
    ExceptT.lift (Session.print text)
    return .none
  | .serve fragment port staysClosed => servingJob settings fragment port staysClosed

/-- One round of following a log: asks for what is newer, and shows it entry by entry. -/
def followRound (follower : Follower) : Session Follower := do
  let follower := follower.after .tick
  match follower.pageQuery? with
  | none => return follower
  | some page =>
    let outcome ← Session.outcomeOf (.logPage follower.feed.fragment page)
    let follower := follower.after (.answer outcome)
    let entries := follower.untaken
    Session.printLines (entries.flatMap Layout.entryLines)
    return entries.foldl (fun follower _ => follower.after .take) follower

/-- Rounds until what was written has a property, and at most a number of them. -/
def followUntil {σ : Type} (environment : Session.Environment σ)
    (isEnough : Session.Transcript → Bool) :
    (rounds : Nat) → Follower → Session.Transcript → σ → Session.Transcript × σ
  | 0, _, transcript, state => (transcript, state)
  | rounds + 1, follower, transcript, state =>
    if isEnough transcript then (transcript, state)
    else
      let (follower, transcript, state) :=
        (followRound follower).run environment transcript state
      followUntil environment isEnough rounds follower transcript state

end Statute.Console
