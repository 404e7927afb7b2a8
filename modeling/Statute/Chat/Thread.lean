import Statute.Backend.Session

/-!
# Chat threads

The messages of a regulation's chat as a reader sees them. A message that is being sent shows at
once, under a temporary number below zero; it becomes the backend's copy when the backend takes it,
and disappears when the backend does not.
-/

namespace Statute

/-- The messages of a chat, and the temporary number for the next message. -/
structure ChatThread where
  regulation : FragmentId
  messages : List Message
  nextTemporaryId : Int64
deriving DecidableEq

namespace ChatThread

/-- A thread without messages. Temporary numbers go downwards from minus one. -/
def empty (regulation : FragmentId) : ChatThread := ⟨regulation, [], -1⟩

/-- The messages that the backend has not taken yet. -/
def pending (thread : ChatThread) : List Message :=
  thread.messages.filter fun message => message.id < 0

/-- With a message of the user's at the end, under the next temporary number. -/
def push (thread : ChatThread) (now : Timestamp) (content : String) : ChatThread where
  regulation := thread.regulation
  messages := thread.messages ++ [⟨thread.nextTemporaryId, now, content, .user⟩]
  nextTemporaryId := thread.nextTemporaryId - 1

/-- A list with its first message of a number replaced. -/
def replaceFirst (id : Int64) (message : Message) : List Message → List Message
  | [] => []
  | first :: rest => if first.id = id then message :: rest else first :: replaceFirst id message rest

/-- With the backend's copy in place of the message of a temporary number. -/
def confirm (thread : ChatThread) (temporaryId : Int64) (sent : Message) : ChatThread :=
  { thread with messages := replaceFirst temporaryId sent thread.messages }

/-- Without the messages of a temporary number. -/
def withdraw (thread : ChatThread) (temporaryId : Int64) : ChatThread :=
  { thread with messages := thread.messages.filter fun message => message.id ≠ temporaryId }

/-- Takes the messages that the backend has. A failure leaves the thread as it is. -/
def load (thread : ChatThread) : Session (Except BackendError Unit × ChatThread) := do
  match ← Session.outcomeOf (.listMessages thread.regulation) with
  | .ok messages => return (.ok (), { thread with messages })
  | .error error => return (.error error, thread)

/-- Sends a message and takes the messages that the backend has afterwards. Not being able to take
them is no failure. -/
def send (thread : ChatThread) (content : String) :
    Session (Except BackendError Message × ChatThread) := do
  let temporaryId := thread.nextTemporaryId
  let waiting := thread.push (← Session.now) content
  match ← Session.outcomeOf (.sendMessage thread.regulation ⟨content⟩) with
  | .ok sent =>
    let (_, thread) ← (waiting.confirm temporaryId sent).load
    return (.ok sent, thread)
  | .error error => return (.error error, waiting.withdraw temporaryId)

end ChatThread

end Statute
