import Statute.Log.Feed

/-!
# Following a log

A follower asks for newer entries at every tick of a clock and hands what it gets to a receiver,
entry by entry, until it is told to stop or the receiver is gone. Whether to stop is written on a
flag, any number of times; a writing that does not say stop still interrupts a request under way.
The follower is a machine that events drive, and the events may come in any order.
-/

namespace Statute

/-- The flag that tells a follower to stop. -/
structure StopFlag where
  /-- What was written last. -/
  value : Bool
  /-- It was written since the follower noticed it last. -/
  isUnseen : Bool
  /-- Nobody is left who could write. -/
  isClosed : Bool
deriving DecidableEq

/-- What a follower is doing. -/
inductive FollowerPhase where
  /-- Waiting for the next tick. -/
  | waiting
  /-- Waiting for the answer to its request. -/
  | fetching
  /-- Waiting for the receiver to take an entry, with others after it. -/
  | handing (entry : LogEntry) (rest : List LogEntry)
  /-- Ended because it was told to stop. -/
  | stopped
  /-- Ended because the receiver is gone. -/
  | abandoned
deriving DecidableEq

/-- A follower with its feed and the entries that the receiver has taken. -/
structure Follower where
  feed : LogFeed
  flag : StopFlag
  phase : FollowerPhase
  taken : List LogEntry
deriving DecidableEq

/-- What can happen to a follower. -/
inductive FollowerEvent where
  /-- The flag is written. -/
  | write (value : Bool)
  /-- The last writer of the flag goes away. -/
  | close
  /-- The follower looks at the flag. -/
  | notice
  | tick
  | answer (outcome : Except BackendError (List LogEntry))
  /-- The receiver takes an entry. -/
  | take
  /-- The receiver turns out to be gone. -/
  | receiverGone

namespace Follower

/-- A follower about to begin its next round: it stops if the flag says so. -/
def nextRound (follower : Follower) : Follower :=
  { follower with phase := if follower.flag.value then .stopped else .waiting }

/-- A follower at its beginning. -/
def start (feed : LogFeed) (stopsAtOnce : Bool) : Follower :=
  nextRound ⟨feed, ⟨stopsAtOnce, false, false⟩, .waiting, []⟩

/-- Hands on entries, or begins the next round when there are none. -/
def handOn (follower : Follower) : List LogEntry → Follower
  | [] => follower.nextRound
  | entry :: rest => { follower with phase := .handing entry rest }

/-- The entries that wait for the receiver. -/
def untaken (follower : Follower) : List LogEntry :=
  match follower.phase with
  | .handing entry rest => entry :: rest
  | _ => []

/-- The page that a follower asks for while it is fetching. -/
def pageQuery? (follower : Follower) : Option PageQuery :=
  if follower.phase = .fetching then follower.feed.pageQuery? .newer else none

/-- The follower has ended. -/
def hasEnded (follower : Follower) : Bool :=
  follower.phase = .stopped || follower.phase = .abandoned

/-- Looks at the flag while waiting or fetching, which gives up the request under way. There is
nothing to see when nothing was written and somebody still can. -/
def look? (follower : Follower) : Option Follower :=
  if follower.flag.isUnseen then
    some (nextRound { follower with flag := { follower.flag with isUnseen := false } })
  else if follower.flag.isClosed then some { follower with phase := .stopped }
  else none

/-- The follower after an event; nothing when the event cannot happen to it. -/
def step? (follower : Follower) : FollowerEvent → Option Follower
  | .write value =>
    if follower.flag.isClosed then none
    else some { follower with flag := { follower.flag with value := value, isUnseen := true } }
  | .close => some { follower with flag := { follower.flag with isClosed := true } }
  | .notice =>
    match follower.phase with
    | .waiting | .fetching => follower.look?
    | _ => none
  | .tick =>
    if follower.phase = .waiting then some { follower with phase := .fetching } else none
  | .answer outcome =>
    if follower.phase = .fetching then
      match outcome with
      | .error _ => some follower.nextRound
      | .ok page =>
        let (added, feed) := follower.feed.accept .newer page
        some (handOn { follower with feed } added)
    else none
  | .take =>
    match follower.phase with
    | .handing entry rest => some (handOn { follower with taken := follower.taken ++ [entry] } rest)
    | _ => none
  | .receiverGone =>
    match follower.phase with
    | .handing _ _ => some { follower with phase := .abandoned }
    | _ => none

/-- The follower after an event; unchanged when the event cannot happen to it. -/
def after (follower : Follower) (event : FollowerEvent) : Follower :=
  (follower.step? event).getD follower

end Follower

end Statute
