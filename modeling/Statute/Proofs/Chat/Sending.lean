import Mathlib.Algebra.Group.Nat.Defs
import Statute.Chat.Thread

/-!
# Sending is all or nothing

A thread shows a message before the backend has it, under a number that nothing else in the thread
has. When the call is over, the message has been taken back, or the backend's copy stands in its
place. It is assumed that the backend gives no message a number below zero, and that fewer messages
are sent than there are such numbers; every request may fail.
-/

namespace Statute.ChatThread

/-- Whoever answers requests gives the messages of a regulation no numbers below zero. -/
structure NumbersMessages {σ : Type} (environment : Session.Environment σ)
    (regulation : FragmentId) : Prop where
  listed : ∀ state messages,
    (environment.answer (.listMessages regulation) state).1 = .ok messages →
      ∀ message ∈ messages, 0 ≤ message.id
  taken : ∀ new state sent,
    (environment.answer (.sendMessage regulation new) state).1 = .ok sent → 0 ≤ sent.id

/-- A thread after calls, with the temporary numbers of its sends, the latest one first. What
answers the requests may be different for each call. -/
inductive Reached (regulation : FragmentId) : List Int64 → ChatThread → Prop where
  | start : Reached regulation [] (empty regulation)
  | loaded {spent thread} {σ : Type} {environment : Session.Environment σ}
      (reached : Reached regulation spent thread)
      (numbers : NumbersMessages environment regulation) (transcript : Session.Transcript)
      (state : σ) : Reached regulation spent (thread.load.run environment transcript state).1.2
  | sent {spent thread} {σ : Type} {environment : Session.Environment σ}
      (reached : Reached regulation spent thread)
      (numbers : NumbersMessages environment regulation) (transcript : Session.Transcript)
      (state : σ) (content : String) :
      Reached regulation (thread.nextTemporaryId :: spent)
        ((thread.send content).run environment transcript state).1.2

/-! ## What calls do -/

variable {regulation : FragmentId} {thread : ChatThread} {spent : List Int64}

/-- No message of a thread has the number that comes next. -/
def IsFresh (thread : ChatThread) : Prop :=
  ∀ message ∈ thread.messages, message.id ≠ thread.nextTemporaryId

/-- A message that is taken back leaves no trace but its number. -/
theorem withdraw_push (fresh : thread.IsFresh) (now : Timestamp) (content : String) :
    (thread.push now content).withdraw thread.nextTemporaryId =
      { thread with nextTemporaryId := thread.nextTemporaryId - 1 } := by
  have others : ∀ message ∈ thread.messages, ¬ message.id = thread.nextTemporaryId := fresh
  simpa [withdraw, push, List.filter_append] using others

/-- The first message with a number is replaced where it stands, which is at the end when no message
in front has this number. -/
theorem replaceFirst_append {id : Int64} {sent waiting : Message} (isWaiting : waiting.id = id)
    {messages : List Message} (others : ∀ message ∈ messages, message.id ≠ id) :
    replaceFirst id sent (messages ++ [waiting]) = messages ++ [sent] := by
  induction messages with
  | nil => simp [replaceFirst, isWaiting]
  | cons message messages inductionHypothesis =>
    obtain ⟨other, rest⟩ := List.forall_mem_cons.mp others
    rw [List.cons_append, replaceFirst, if_neg other, inductionHypothesis rest, List.cons_append]

/-- The backend's copy stands in the place of the message. -/
theorem confirm_push (fresh : thread.IsFresh) (now : Timestamp) (content : String)
    (sent : Message) : (thread.push now content).confirm thread.nextTemporaryId sent =
      { thread with
        messages := thread.messages ++ [sent]
        nextTemporaryId := thread.nextTemporaryId - 1 } := by
  have replaced : replaceFirst thread.nextTemporaryId sent (thread.push now content).messages =
      thread.messages ++ [sent] := replaceFirst_append (by rfl) fresh
  rw [confirm, replaced]
  rfl

section Calls

variable {σ : Type} {environment : Session.Environment σ} {transcript : Session.Transcript}
  {state : σ}

/-- A load takes the messages that are listed, or leaves the thread as it is. -/
theorem run_load : (thread.load.run environment transcript state).1 =
    match (environment.answer (.listMessages thread.regulation) state).1 with
    | .ok messages => (.ok (), { thread with messages })
    | .error error => (.error error, thread) := by
  rcases answered : environment.answer (.listMessages thread.regulation) state with ⟨answer, later⟩
  simp only [load, bind, Session.bind, Session.outcomeOf, Session.run, answered]
  cases answer <;> rfl

/-- A send that is refused leaves the messages as they are. Otherwise they are those that are listed
afterwards, or those before and the backend's copy when listing them fails. -/
theorem run_send (fresh : thread.IsFresh) (content : String) :
    ((thread.send content).run environment transcript state).1 =
    match environment.answer (.sendMessage thread.regulation ⟨content⟩) state with
    | (.error error, _) =>
      (.error error, { thread with nextTemporaryId := thread.nextTemporaryId - 1 })
    | (.ok sent, later) =>
      (.ok sent, { thread with
        messages :=
          match (environment.answer (.listMessages thread.regulation) later).1 with
          | .ok messages => messages
          | .error _ => thread.messages ++ [sent]
        nextTemporaryId := thread.nextTemporaryId - 1 }) := by
  rcases posted : environment.answer (.sendMessage thread.regulation ⟨content⟩) state with
    ⟨answer, later⟩
  simp only [send, bind, Session.bind, Session.outcomeOf, Session.now, Session.run, posted]
  cases answer with
  | error error =>
    -- The message is taken back, and nothing but its number is spent.
    simp only [withdraw_push fresh]
    rfl
  | ok sent =>
    simp only [confirm_push fresh]
    rcases listed : environment.answer (.listMessages thread.regulation) later with ⟨answer, last⟩
    simp only [load, bind, Session.bind, Session.outcomeOf, Session.run, listed]
    cases answer <;> rfl

end Calls

/-! ## Threads between calls -/

/-- A thread between calls holds messages that the backend has numbered, and its next temporary
number is below all that were spent. -/
structure IsSettled (regulation : FragmentId) (spent : List Int64) (thread : ChatThread) : Prop where
  regulation : thread.regulation = regulation
  numbered : ∀ message ∈ thread.messages, 0 ≤ message.id
  next : thread.nextTemporaryId.toInt = -1 - spent.length
  spent : ∀ id ∈ spent, thread.nextTemporaryId < id

namespace IsSettled

/-- An empty thread is settled, and minus one comes next. -/
theorem empty (regulation : FragmentId) : IsSettled regulation [] (.empty regulation) where
  regulation := rfl
  numbered := nofun
  next := rfl
  spent := nofun

/-- The number that comes next is a temporary one. -/
theorem next_lt_zero (settled : IsSettled regulation spent thread) : thread.nextTemporaryId < 0 := by
  rw [Int64.lt_iff_toInt_lt, settled.next, Int64.toInt_zero]
  omega

/-- The messages that the backend has numbered do not have the temporary number that comes next. -/
theorem isFresh (settled : IsSettled regulation spent thread) : thread.IsFresh := by
  rintro message member same
  have numbered := settled.numbered message member
  rw [same] at numbered
  exact Int64.not_lt.mpr numbered settled.next_lt_zero

/-- A temporary number is not given a second time, as it is below all that were spent. -/
theorem next_notMem_spent (settled : IsSettled regulation spent thread) :
    thread.nextTemporaryId ∉ spent :=
  fun member => Int64.lt_irrefl (settled.spent _ member)

/-- Between calls nothing waits for the backend. -/
theorem pending_eq_nil (settled : IsSettled regulation spent thread) : thread.pending = [] := by
  refine List.filter_eq_nil_iff.mpr fun message member => ?_
  simpa using Int64.not_lt.mpr (settled.numbered message member)

/-- While a message is being sent it is the only one that the backend has not taken. -/
theorem pending_push (settled : IsSettled regulation spent thread) (now : Timestamp)
    (content : String) : (thread.push now content).pending =
      [⟨thread.nextTemporaryId, now, content, .user⟩] := by
  have nothing : thread.messages.filter (fun message => message.id < 0) = [] :=
    settled.pending_eq_nil
  simp [pending, push, List.filter_append, nothing, settled.next_lt_zero]

/-- Other messages that the backend has numbered make no difference. -/
theorem withMessages (settled : IsSettled regulation spent thread) {messages : List Message}
    (numbered : ∀ message ∈ messages, 0 ≤ message.id) :
    IsSettled regulation spent { thread with messages } :=
  ⟨settled.regulation, numbered, settled.next, settled.spent⟩

/-- A temporary number is spent, and there is one below it. -/
theorem spend (settled : IsSettled regulation spent thread) (few : spent.length + 1 < 2 ^ 63) :
    IsSettled regulation (thread.nextTemporaryId :: spent)
      { thread with nextTemporaryId := thread.nextTemporaryId - 1 } := by
  have next : (thread.nextTemporaryId - 1).toInt = -1 - (spent.length + 1 : Nat) := by
    rw [Int64.toInt_sub, Int64.toInt_one, settled.next,
      Int.bmod_eq_of_le (by omega) (by omega)]
    omega
  have below : thread.nextTemporaryId - 1 < thread.nextTemporaryId := by
    rw [Int64.lt_iff_toInt_lt, next, settled.next]
    omega
  refine ⟨settled.regulation, settled.numbered, next, List.forall_mem_cons.mpr ⟨below, ?_⟩⟩
  exact fun id member => Int64.lt_trans below (settled.spent id member)

variable {σ : Type} {environment : Session.Environment σ}

/-- A load brings messages that the backend has numbered, or leaves the thread alone, and spends no
number. -/
theorem load (settled : IsSettled regulation spent thread)
    (numbers : NumbersMessages environment regulation) (transcript : Session.Transcript)
    (state : σ) : IsSettled regulation spent (thread.load.run environment transcript state).1.2 := by
  obtain rfl := settled.regulation
  rw [run_load]
  cases listed : (environment.answer (.listMessages thread.regulation) state).1 with
  | error error => exact settled
  | ok messages => exact settled.withMessages (numbers.listed state messages listed)

/-- A send spends one temporary number, whatever the backend answers, and leaves messages that the
backend has numbered. -/
theorem send (settled : IsSettled regulation spent thread) (few : spent.length + 1 < 2 ^ 63)
    (numbers : NumbersMessages environment regulation) (transcript : Session.Transcript)
    (state : σ) (content : String) :
    IsSettled regulation (thread.nextTemporaryId :: spent)
      ((thread.send content).run environment transcript state).1.2 := by
  obtain rfl := settled.regulation
  have spends := settled.spend few
  rw [run_send settled.isFresh]
  rcases posted : environment.answer (.sendMessage thread.regulation ⟨content⟩) state with
    ⟨answer, later⟩
  cases answer with
  | error error => exact spends
  | ok sent =>
    refine spends.withMessages ?_
    cases listed : (environment.answer (.listMessages thread.regulation) later).1 with
    | ok messages => exact numbers.listed later messages listed
    | error error =>
      have taken : 0 ≤ sent.id := numbers.taken ⟨content⟩ state sent (by rw [posted])
      exact List.forall_mem_append.mpr ⟨settled.numbered, List.forall_mem_singleton.mpr taken⟩

end IsSettled

/-- Threads are settled between calls, as long as temporary numbers do not run out. -/
theorem Reached.isSettled (reached : Reached regulation spent thread)
    (few : spent.length < 2 ^ 63) : IsSettled regulation spent thread := by
  induction reached with
  | start => exact .empty regulation
  | loaded _ numbers transcript state inductionHypothesis =>
    exact (inductionHypothesis few).load numbers transcript state
  | sent _ numbers transcript state content inductionHypothesis =>
    rw [List.length_cons] at few
    exact (inductionHypothesis (by omega)).send few numbers transcript state content

/-- Nothing is pending between calls. A load that fails leaves the messages as they are. While a
message is sent, it is the only one pending, under a number that no other message has and that no
send had before. Afterwards the messages are those before if the backend refused it, those listed by
the backend if it took it, and those before with the backend's copy if it took it and listing them
failed. -/
theorem Reached.calls_are_atomic {σ : Type} {environment : Session.Environment σ}
    (reached : Reached regulation spent thread) (few : spent.length < 2 ^ 63)
    (numbers : NumbersMessages environment regulation) (transcript : Session.Transcript)
    (state : σ) :
    let loading := (thread.load.run environment transcript state).1
    (loading.2.pending = [] ∧
      ∀ error, loading.1 = .error error → loading.2.messages = thread.messages) ∧
    (spent.length + 1 < 2 ^ 63 → ∀ content,
      let waiting := thread.push environment.now content
      let posted := environment.answer (.sendMessage regulation ⟨content⟩) state
      let listed := (environment.answer (.listMessages regulation) posted.2).1
      let sending := ((thread.send content).run environment transcript state).1
      (waiting.pending = [⟨thread.nextTemporaryId, environment.now, content, .user⟩] ∧
        (∀ message ∈ thread.messages, message.id ≠ thread.nextTemporaryId) ∧
        thread.nextTemporaryId ∉ spent) ∧
      sending.2.pending = [] ∧ sending.1 = posted.1 ∧
      (∀ error, posted.1 = .error error → sending.2.messages = thread.messages) ∧
      (∀ sent, posted.1 = .ok sent →
        (∀ messages, listed = .ok messages → sending.2.messages = messages) ∧
        ∀ error, listed = .error error → sending.2.messages = thread.messages ++ [sent])) := by
  have settled := reached.isSettled few
  obtain rfl := settled.regulation
  intro loading
  refine ⟨⟨(settled.load numbers transcript state).pending_eq_nil, fun error failed => ?_⟩, ?_⟩
  · have loads : loading = _ := run_load
    rw [loads] at failed ⊢
    split at failed
    next => cases failed
    next => rfl
  intro fewer content waiting posted listed sending
  refine ⟨⟨settled.pending_push _ content, settled.isFresh, settled.next_notMem_spent⟩,
    (settled.send fewer numbers transcript state content).pending_eq_nil, ?_⟩
  have sends : sending = _ := run_send settled.isFresh content
  rcases answered : environment.answer (.sendMessage thread.regulation ⟨content⟩) state with
    ⟨answer, later⟩
  simp only [posted, listed, sends, answered]
  cases answer with
  | error error => exact ⟨rfl, fun _ _ => rfl, fun _ same => nomatch same⟩
  | ok sent =>
    refine ⟨rfl, fun _ same => (nomatch same), fun copy same => ?_⟩
    obtain rfl := Except.ok.inj same
    refine ⟨fun messages same => ?_, fun error same => ?_⟩
    · simp only [same]
    · simp only [same]

/-- A message with a number. -/
def exampleMessage (id : Int64) : Message :=
  ⟨id, .epoch, "Why?", .user⟩

/-- A backend that gives these answers about messages. -/
def exampleBackend (listed : Except BackendError (List Message))
    (taken : Except BackendError Message) : Session.Environment Unit where
  answer
    | .listMessages _, state => (listed, state)
    | .sendMessage _ _, state => (taken, state)
    | _, state => (.error (.network "refused"), state)
  answerBoth _ _ state := (.error (.network "refused"), state)
  file? _ := none
  now := .epoch

/-- The example backend numbers messages when those of its answers are numbered. -/
theorem exampleBackend_numbersMessages {listed : Except BackendError (List Message)}
    {taken : Except BackendError Message}
    (nonneg : ∀ messages, listed = .ok messages → ∀ message ∈ messages, 0 ≤ message.id)
    (taken_nonneg : ∀ sent, taken = .ok sent → 0 ≤ sent.id) :
    NumbersMessages (exampleBackend listed taken) 7 where
  listed _ := nonneg
  taken _ _ := taken_nonneg

/-- A thread is loaded, a send is refused, and another one is taken before the backend goes away. -/
theorem exampleSends_are_atomic :
    let failing := exampleBackend (.error (.network "lost")) (.ok (exampleMessage 4))
    let thread : ChatThread := ⟨7, [exampleMessage 3], -2⟩
    let sending := ((thread.send "Why?").run failing ⟨"", ""⟩ ()).1
    Reached 7 [-1] thread ∧ NumbersMessages failing 7 ∧ [(-1 : Int64)].length + 1 < 2 ^ 63 ∧
      (thread.push .epoch "Why?").pending = [⟨-2, .epoch, "Why?", .user⟩] ∧
      (-2 : Int64) ∉ [(-1 : Int64)] ∧ sending.2.pending = [] ∧
      sending.2.messages = [exampleMessage 3, exampleMessage 4] := by
  intro failing thread sending
  have refusing : NumbersMessages (exampleBackend (.ok [exampleMessage 3])
      (.error (.network "refused"))) 7 :=
    exampleBackend_numbersMessages (by rintro messages ⟨⟩; decide) nofun
  have numbers : NumbersMessages failing 7 :=
    exampleBackend_numbersMessages nofun (by rintro sent ⟨⟩; decide)
  have loaded : Reached 7 [] ⟨7, [exampleMessage 3], -1⟩ := Reached.start.loaded refusing ⟨"", ""⟩ ()
  have refused : Reached 7 [-1] thread := loaded.sent refusing ⟨"", ""⟩ () "Why?"
  obtain ⟨-, sends⟩ := refused.calls_are_atomic (by decide) numbers ⟨"", ""⟩ ()
  obtain ⟨⟨pending, -, unspent⟩, nothing, -, -, taken⟩ := sends (by decide) "Why?"
  exact ⟨refused, numbers, by decide, pending, unspent, nothing,
    (taken (exampleMessage 4) rfl).2 (.network "lost") rfl⟩

end Statute.ChatThread
