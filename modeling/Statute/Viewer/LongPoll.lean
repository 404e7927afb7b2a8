import Statute.Hover.Signal

/-!
# Waiting for a change

A browser that knows an emphasized atom asks for another one. The answer is held back while that
atom is still the emphasized one, until it changes or the time is up. Subscribing, looking, waiting
and reading are steps of their own, between which others may write the signal.
-/

namespace Statute.Viewer

open Statute.Hover

/-- How far a wait has come. -/
inductive LongPoll where
  | beginning
  /-- Subscribed, but the present value is still to be compared with the known one. -/
  | subscribed (subscription : Subscription)
  /-- Asleep until the subscription has news or the time is up. -/
  | suspended (subscription : Subscription)
  /-- About to read the value that is answered. -/
  | awake
  | answered (value : Option AtomId)
deriving DecidableEq

namespace LongPoll

/-- The next step of a wait for something other than a known value. -/
def step (known : Option AtomId) (signal : Signal) (isTimeUp : Bool) : LongPoll → LongPoll
  | beginning => subscribed signal.subscribe
  | subscribed subscription =>
    if signal.current = known then suspended subscription else awake
  | suspended subscription =>
    if signal.hasNews subscription || isTimeUp then awake else suspended subscription
  | awake => answered signal.current
  | answered value => answered value

/-- What is answered, once it is. -/
def answer? : LongPoll → Option (Option AtomId)
  | answered value => some value
  | _ => none

end LongPoll

/-- The seconds for which an answer is held back at most. -/
def longestWait : Nat := 25

/-- The answer to a wait whose time is up at once: the steps without anybody else between them. -/
def answerAtOnce (known : Option AtomId) (signal : Signal) : Option AtomId :=
  let step := LongPoll.step known signal true
  (step (step (step (step .beginning)))).answer?.getD signal.current

end Statute.Viewer
