import Statute.Log.Follower

/-!
# Rehearsals

A follower played through with answers that are known beforehand. Between the follower and its
receiver lies a buffer that holds a limited number of entries; the receiver empties it whenever the
follower has to wait, and may go away after a number of entries.
-/

namespace Statute

/-- The buffer before a receiver. -/
structure Receiver where
  capacity : Nat
  buffered : List LogEntry
  received : List LogEntry
  /-- How many more entries the receiver takes before it goes away; nothing when it stays. -/
  patience : Option Nat

namespace Receiver

/-- The receiver has gone away. -/
def isGone (receiver : Receiver) : Bool :=
  receiver.patience == some 0

/-- The receiver takes what is buffered, as far as its patience reaches. -/
def drain (receiver : Receiver) : Receiver :=
  let taken := match receiver.patience with
    | none => receiver.buffered
    | some patience => receiver.buffered.take patience
  { receiver with
    buffered := []
    received := receiver.received ++ taken
    patience := receiver.patience.map (· - taken.length) }

/-- Puts an entry into the buffer, which is emptied first when it is full. Tells whether the
receiver is still there. -/
def offer (receiver : Receiver) (entry : LogEntry) : Bool × Receiver :=
  let receiver :=
    if receiver.buffered.length < receiver.capacity then receiver else receiver.drain
  if receiver.isGone then (false, receiver)
  else (true, { receiver with buffered := receiver.buffered ++ [entry] })

end Receiver

/-- What happens to a request in a rehearsal. -/
inductive RehearsedAnswer where
  | page (entries : List LogEntry)
  | failure (error : BackendError)
  /-- The flag is written without saying stop while the request is under way. -/
  | interruption
deriving DecidableEq

/-- How a rehearsal ends when the answers are used up. -/
inductive RehearsalEnding where
  /-- The follower is told to stop during a request. -/
  | stopDuringRequest
  /-- The last writer of the flag goes away during a request. -/
  | closeDuringRequest
  /-- The follower is told to stop while it waits after an empty page. -/
  | stopBetweenRequests
  /-- The follower was told to stop before it began. -/
  | stopBeforehand
deriving DecidableEq, Repr

/-- A follower, its receiver and the pages that were asked for. -/
structure Rehearsal where
  follower : Follower
  receiver : Receiver
  queries : List PageQuery

namespace Rehearsal

/-- The follower hands over its entries one by one. -/
def deliver (rehearsal : Rehearsal) : List LogEntry → Rehearsal
  | [] => rehearsal
  | entry :: rest =>
    let (isThere, receiver) := rehearsal.receiver.offer entry
    if isThere then
      deliver { rehearsal with receiver, follower := rehearsal.follower.after .take } rest
    else { rehearsal with receiver, follower := rehearsal.follower.after .receiverGone }

/-- The receiver works while the follower waits for a tick, and the follower asks for a page. -/
def request (rehearsal : Rehearsal) : Rehearsal :=
  let follower := rehearsal.follower.after .tick
  { follower
    receiver := rehearsal.receiver.drain
    queries := rehearsal.queries ++ follower.pageQuery?.toList }

/-- The follower gets an answer and hands over what is new in it. -/
def answered (rehearsal : Rehearsal) (outcome : Except BackendError (List LogEntry)) : Rehearsal :=
  let follower := rehearsal.follower.after (.answer outcome)
  deliver { rehearsal with follower } follower.untaken

/-- The flag is written and looked at. -/
def told (rehearsal : Rehearsal) (value : Bool) : Rehearsal :=
  { rehearsal with follower := (rehearsal.follower.after (.write value)).after .notice }

/-- One request and what happens to it. -/
def round (rehearsal : Rehearsal) : RehearsedAnswer → Rehearsal
  | .page entries => rehearsal.request.answered (.ok entries)
  | .failure error => rehearsal.request.answered (.error error)
  | .interruption => rehearsal.request.told false

/-- The rounds in order, until the follower has ended. -/
def rounds (rehearsal : Rehearsal) : List RehearsedAnswer → Rehearsal
  | [] => rehearsal
  | answer :: rest =>
    if rehearsal.follower.hasEnded then rehearsal else (rehearsal.round answer).rounds rest

/-- The end of a rehearsal. A follower that has ended already is left as it is. -/
def finish (rehearsal : Rehearsal) (ending : RehearsalEnding) : Rehearsal :=
  if rehearsal.follower.hasEnded then rehearsal
  else
    match ending with
    | .stopBeforehand | .stopDuringRequest => rehearsal.request.told true
    | .closeDuringRequest =>
      let rehearsal := rehearsal.request
      { rehearsal with follower := (rehearsal.follower.after .close).after .notice }
    | .stopBetweenRequests => (rehearsal.request.answered (.ok [])).told true

/-- Plays a follower through. -/
def play (feed : LogFeed) (capacity : Nat) (patience : Option Nat) (answers : List RehearsedAnswer)
    (ending : RehearsalEnding) : Rehearsal :=
  let beginning : Rehearsal :=
    ⟨.start feed (ending = .stopBeforehand), ⟨capacity, [], [], patience⟩, []⟩
  let ended := (beginning.rounds answers).finish ending
  { ended with receiver := ended.receiver.drain }

end Rehearsal

end Statute
