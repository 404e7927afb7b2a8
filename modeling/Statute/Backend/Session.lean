import Statute.Backend.Request

/-!
# Sessions

A session is a computation that asks the backend, writes lines, and may read files and the clock,
without saying how these are done. Whoever runs it answers the requests one after the other.
-/

namespace Statute

/-- A computation with a value at its end. -/
inductive Session (α : Type) where
  | done (value : α)
  /-- Asks the backend. -/
  | ask (request : Request) (next : request.Outcome → Session α)
  /-- Asks the backend two things at once; the first failure counts for both. -/
  | askBoth (first second : Request)
      (next : Except BackendError (first.Answer × second.Answer) → Session α)
  /-- Writes text to the output. -/
  | write (text : String) (next : Session α)
  /-- Writes text to where problems are reported. -/
  | report (text : String) (next : Session α)
  /-- Reads a file of text; nothing when it is missing or not text. -/
  | readFile (path : String) (next : Option String → Session α)
  /-- Reads the clock. -/
  | clock (next : Timestamp → Session α)

namespace Session

variable {α β : Type}

/-- A session followed by one that depends on its value. -/
protected def bind : Session α → (α → Session β) → Session β
  | done value, continuation => continuation value
  | ask request next, continuation =>
    ask request fun outcome => (next outcome).bind continuation
  | askBoth first second next, continuation =>
    askBoth first second fun outcome => (next outcome).bind continuation
  | write text next, continuation => write text (next.bind continuation)
  | report text next, continuation => report text (next.bind continuation)
  | readFile path next, continuation =>
    readFile path fun content => (next content).bind continuation
  | clock next, continuation => clock fun now => (next now).bind continuation

instance : Monad Session where
  pure := done
  bind := Session.bind

/-- Asks the backend and takes the outcome as it is. -/
def outcomeOf (request : Request) : Session request.Outcome :=
  ask request done

/-- Writes text. -/
def print (text : String) : Session Unit :=
  write text (done ())

/-- Writes lines, each with its line feed. -/
def printLines (lines : List String) : Session Unit :=
  print (Text.joined "" (lines.map (· ++ "\n")))

/-- Reports a problem. -/
def complain (text : String) : Session Unit :=
  report text (done ())

/-- The present time. -/
def now : Session Timestamp :=
  clock done

/-- What a session has written. -/
structure Transcript where
  output : String
  problems : String
deriving DecidableEq

/-- What a session is run with: who answers requests, where each answer may change a state, and
what files and the clock hold. -/
structure Environment (σ : Type) where
  answer : (request : Request) → σ → request.Outcome × σ
  answerBoth : (first second : Request) → σ →
    Except BackendError (first.Answer × second.Answer) × σ
  file? : String → Option String
  now : Timestamp

/-- Answers two requests one after the other. After a failure of the first the second is not
made. -/
def inSequence {σ : Type} (answer : (request : Request) → σ → request.Outcome × σ)
    (first second : Request) (state : σ) :
    Except BackendError (first.Answer × second.Answer) × σ :=
  match answer first state with
  | (.error error, state) => (.error error, state)
  | (.ok value, state) =>
    match answer second state with
    | (.error error, state) => (.error error, state)
    | (.ok other, state) => (.ok (value, other), state)

/-- Answers two requests that are both made. Of two failures the first counts. -/
def inParallel {σ : Type} (answer : (request : Request) → σ → request.Outcome × σ)
    (first second : Request) (state : σ) :
    Except BackendError (first.Answer × second.Answer) × σ :=
  let (outcome, state) := answer first state
  let (other, state) := answer second state
  (do return (← outcome, ← other), state)

/-- Runs a session from a state, and tells its value, what it wrote and the state afterwards. -/
def run {σ : Type} (environment : Environment σ) : Session α → Transcript → σ → α × Transcript × σ
  | done value, transcript, state => (value, transcript, state)
  | ask request next, transcript, state =>
    let (outcome, state) := environment.answer request state
    (next outcome).run environment transcript state
  | askBoth first second next, transcript, state =>
    let (outcome, state) := environment.answerBoth first second state
    (next outcome).run environment transcript state
  | write text next, transcript, state =>
    next.run environment { transcript with output := transcript.output ++ text } state
  | report text next, transcript, state =>
    next.run environment { transcript with problems := transcript.problems ++ text } state
  | readFile path next, transcript, state =>
    (next (environment.file? path)).run environment transcript state
  | clock next, transcript, state => (next environment.now).run environment transcript state

end Session

end Statute
