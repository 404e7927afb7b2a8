import Statute.Log.Follower
import Statute.Proofs.Log.Window

/-!
# Followers lose nothing and hand over nothing twice

`Moves` tells what an event can do to a follower, and everything else here is read off it. Whatever
happens, the entries that the feed gained are those that the receiver has taken and those that wait
for it, in this order. Entries are lost only when the receiver goes away, and then they are the last
ones.
-/

namespace Statute

namespace Follower

/-- What an event can do to a follower. -/
inductive Moves (follower : Follower) : FollowerEvent → Follower → Prop where
  /-- The flag changes and nothing else. -/
  | flag {event flag} : Moves follower event { follower with flag }
  /-- A follower with nothing to hand over waits, asks or stops. -/
  | idle {event flag phase} (isThere : follower.phase ≠ .abandoned)
      (nothing : follower.untaken = []) (stillNothing : untaken { follower with flag, phase } = []) :
      Moves follower event { follower with flag, phase }
  /-- A page arrives. -/
  | fetch {page} (fetches : follower.phase = .fetching) :
      Moves follower (.answer (.ok page))
        (handOn { follower with feed := (follower.feed.accept .newer page).2 }
          (follower.feed.accept .newer page).1)
  /-- The receiver takes an entry. -/
  | take {event entry rest} (hands : follower.phase = .handing entry rest) :
      Moves follower event (handOn { follower with taken := follower.taken ++ [entry] } rest)
  /-- The receiver is gone. -/
  | abandon {event entry rest} (hands : follower.phase = .handing entry rest) :
      Moves follower event { follower with phase := .abandoned }

/-- A follower that begins its next round has nothing to hand over. -/
@[simp] theorem untaken_nextRound (follower : Follower) : follower.nextRound.untaken = [] := by
  cases stops : follower.flag.value <;> simp [nextRound, untaken, stops]

variable {follower : Follower}

/-- While a follower waits for a tick or for an answer, a look at the flag makes it idle. -/
theorem moves_of_look? (isThere : follower.phase ≠ .abandoned) (nothing : follower.untaken = [])
    {event : FollowerEvent} {later : Follower} (looks : follower.look? = some later) :
    Moves follower event later := by
  unfold look? at looks
  split at looks
  next =>
    obtain rfl := Option.some.inj looks
    exact .idle isThere nothing (untaken_nextRound _)
  next =>
    split at looks
    next =>
      obtain rfl := Option.some.inj looks
      exact .idle isThere nothing rfl
    next => cases looks

/-- Every step of a follower is one of these moves. -/
theorem moves_of_step? {event : FollowerEvent} {later : Follower}
    (steps : follower.step? event = some later) : Moves follower event later := by
  cases event with
  | write value =>
    simp only [step?] at steps
    split at steps
    next => cases steps
    next =>
      obtain rfl := Option.some.inj steps
      exact .flag
  | close =>
    obtain rfl := Option.some.inj steps
    exact .flag
  | notice =>
    simp only [step?] at steps
    split at steps
    next waits => exact moves_of_look? (by simp [waits]) (by simp [untaken, waits]) steps
    next fetches => exact moves_of_look? (by simp [fetches]) (by simp [untaken, fetches]) steps
    next => cases steps
  | tick =>
    simp only [step?] at steps
    split at steps
    next waits =>
      obtain rfl := Option.some.inj steps
      exact .idle (by simp [waits]) (by simp [untaken, waits]) rfl
    next => cases steps
  | answer outcome =>
    simp only [step?] at steps
    split at steps
    next fetches =>
      cases outcome with
      | error error =>
        obtain rfl := Option.some.inj steps
        exact .idle (by simp [fetches]) (by simp [untaken, fetches]) (untaken_nextRound follower)
      | ok page =>
        obtain rfl := Option.some.inj steps
        exact .fetch fetches
    next => cases steps
  | take =>
    simp only [step?] at steps
    split at steps
    next hands =>
      obtain rfl := Option.some.inj steps
      exact .take hands
    next => cases steps
  | receiverGone =>
    simp only [step?] at steps
    split at steps
    next hands =>
      obtain rfl := Option.some.inj steps
      exact .abandon hands
    next => cases steps

/-! ## Accounts -/

variable {begun : List LogEntry}

/-- The feed of a follower holds the entries that it began with, then those that the receiver has
taken, then the others, which wait for the receiver as long as it is there. -/
def Accounts (begun : List LogEntry) (follower : Follower) : Prop :=
  ∃ others, follower.feed.entries = begun ++ (follower.taken ++ others) ∧
    (follower.phase ≠ .abandoned → follower.untaken = others)

/-- A follower with nothing to hand over has handed over all that it got. -/
theorem Accounts.entries_eq (accounts : Accounts begun follower)
    (isThere : follower.phase ≠ .abandoned) (nothing : follower.untaken = []) :
    follower.feed.entries = begun ++ follower.taken := by
  obtain ⟨others, whole, waiting⟩ := accounts
  rw [whole, ← waiting isThere, nothing, List.append_nil]

/-- A follower that has handed over everything accounts for its feed. -/
theorem accounts_of_nothing (whole : follower.feed.entries = begun ++ follower.taken)
    (nothing : follower.untaken = []) : Accounts begun follower :=
  ⟨[], by rw [whole, List.append_nil], fun _ => nothing⟩

/-- A follower is about to hand over what it got and did not hand over yet. -/
theorem accounts_handOn {entries : List LogEntry}
    (whole : follower.feed.entries = begun ++ (follower.taken ++ entries)) :
    Accounts begun (follower.handOn entries) := by
  cases entries with
  | nil =>
    rw [List.append_nil] at whole
    exact accounts_of_nothing whole (untaken_nextRound follower)
  | cons entry rest => exact ⟨entry :: rest, whole, fun _ => rfl⟩

/-- No event makes the feed and what is taken drift apart. -/
theorem Accounts.step (accounts : Accounts begun follower) {event : FollowerEvent}
    {later : Follower} (moves : Moves follower event later) : Accounts begun later := by
  cases moves with
  | flag => exact accounts
  | idle isThere nothing stillNothing =>
    exact accounts_of_nothing (accounts.entries_eq isThere nothing) stillNothing
  | fetch fetches =>
    have whole := accounts.entries_eq (by simp [fetches]) (by simp [untaken, fetches])
    refine accounts_handOn ?_
    rw [LogFeed.entries_accept, FeedStep.extended, whole, List.append_assoc]
  | @take _ entry rest hands =>
    obtain ⟨others, whole, waiting⟩ := accounts
    obtain rfl : entry :: rest = others := by
      simpa [untaken, hands] using waiting (by simp [hands])
    refine accounts_handOn ?_
    simpa using whole
  | abandon hands =>
    obtain ⟨others, whole, -⟩ := accounts
    exact ⟨others, whole, fun isThere => absurd rfl isThere⟩

/-- The follower after events in order. Events that cannot happen leave it as it is. -/
def afterAll (follower : Follower) (events : List FollowerEvent) : Follower :=
  events.foldl after follower

/-- However events come together, the feed and what is taken do not drift apart. -/
theorem Accounts.afterAll (accounts : Accounts begun follower) (events : List FollowerEvent) :
    Accounts begun (follower.afterAll events) := by
  induction events generalizing follower with
  | nil => exact accounts
  | cons event events inductionHypothesis =>
    refine inductionHypothesis ?_
    rw [after]
    cases steps : follower.step? event with
    | none => exact accounts
    | some later => exact accounts.step (moves_of_step? steps)

/-- While a request is under way, only a page that arrives changes the feed, and nothing is handed
over: a request that fails or is given up leaves no trace. -/
theorem after_of_fetching (fetches : follower.phase = .fetching) {event : FollowerEvent}
    (noPage : ∀ page, event ≠ .answer (.ok page)) :
    (follower.after event).feed = follower.feed ∧
      (follower.after event).taken = follower.taken ∧ (follower.after event).untaken = [] := by
  have nothing : follower.untaken = [] := by rw [untaken, fetches]
  rw [after]
  cases steps : follower.step? event with
  | none => exact ⟨rfl, rfl, nothing⟩
  | some later =>
    cases moves_of_step? steps with
    | flag => exact ⟨rfl, rfl, nothing⟩
    | idle _ _ stillNothing => exact ⟨rfl, rfl, stillNothing⟩
    | fetch => exact absurd rfl (noPage _)
    | take hands => exact nomatch fetches.symm.trans hands
    | abandon hands => exact nomatch fetches.symm.trans hands

/-- When a follower has stopped, its feed holds the entries that it began with and then exactly
those that the receiver has taken, in their order. When the receiver went away, the entries that it
has taken are the first ones of those that the feed gained. A request that fails or is given up
changes neither the feed nor what is handed over. -/
theorem feed_and_receiver_agree (feed : LogFeed) (flag : StopFlag) (events : List FollowerEvent) :
    let follower := (nextRound ⟨feed, flag, .waiting, []⟩).afterAll events
    (follower.phase = .stopped → follower.feed.entries = feed.entries ++ follower.taken) ∧
      (follower.phase = .abandoned → ∃ gained,
        follower.feed.entries = feed.entries ++ gained ∧ follower.taken <+: gained) ∧
      ∀ event, follower.phase = .fetching → (∀ page, event ≠ .answer (.ok page)) →
        (follower.after event).feed = follower.feed ∧
          (follower.after event).taken = follower.taken ∧ (follower.after event).untaken = [] := by
  intro follower
  have begins : Accounts feed.entries (nextRound ⟨feed, flag, .waiting, []⟩) :=
    accounts_of_nothing (List.append_nil _).symm (untaken_nextRound _)
  have accounts : Accounts feed.entries follower := begins.afterAll events
  refine ⟨fun stopped => ?_, fun _ => ?_, fun _ fetches => after_of_fetching fetches⟩
  · exact accounts.entries_eq (by simp [stopped]) (by simp [untaken, stopped])
  · obtain ⟨others, whole, -⟩ := accounts
    exact ⟨_, whole, List.prefix_append _ _⟩

/-- A request that is given up, one that fails, and one that brings two entries. -/
def exampleRequests : List FollowerEvent :=
  [.tick, .write false, .notice, .tick, .answer (.error (.network "lost")), .tick,
    .answer (.ok [LogFeed.exampleEntry 3, LogFeed.exampleEntry 5])]

/-- A follower after events, with a feed of one entry at its beginning. -/
def exampleAfter (events : List FollowerEvent) : Follower :=
  (start ⟨7, 2, [LogFeed.exampleEntry 1], false⟩ false).afterAll events

/-- A follower that is told to stop while it hands over two entries stops behind the last of them.
When the receiver goes away meanwhile, the second entry is lost. -/
theorem exampleRequests_agree :
    let stopped := exampleAfter (exampleRequests ++ [.take, .write true, .take])
    let abandoned := exampleAfter (exampleRequests ++ [.take, .receiverGone])
    let fetching := exampleAfter [.tick, .write false]
    (stopped.phase = .stopped ∧
      stopped.feed.entries = [LogFeed.exampleEntry 1] ++ stopped.taken) ∧
    (abandoned.phase = .abandoned ∧ ∃ gained,
      abandoned.feed.entries = [LogFeed.exampleEntry 1] ++ gained ∧ abandoned.taken <+: gained) ∧
    fetching.phase = .fetching ∧ (fetching.after .notice).phase = .waiting ∧
      (fetching.after .notice).feed = fetching.feed := by
  have agree :=
    feed_and_receiver_agree ⟨7, 2, [LogFeed.exampleEntry 1], false⟩ ⟨false, false, false⟩
  have stops :
      (exampleAfter (exampleRequests ++ [.take, .write true, .take])).phase = .stopped := by
    decide +kernel
  have abandons :
      (exampleAfter (exampleRequests ++ [.take, .receiverGone])).phase = .abandoned := by
    decide +kernel
  have fetches : (exampleAfter [.tick, .write false]).phase = .fetching := by decide +kernel
  have waits : ((exampleAfter [.tick, .write false]).after .notice).phase = .waiting := by
    decide +kernel
  exact ⟨⟨stops, (agree _).1 stops⟩, ⟨abandons, (agree _).2.1 abandons⟩, fetches, waits,
    ((agree _).2.2 .notice fetches fun page same => nomatch same).1⟩

end Follower

end Statute
