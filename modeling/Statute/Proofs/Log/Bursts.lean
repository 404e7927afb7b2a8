import Statute.Proofs.Log.Following

/-!
# Followers of a log that grows in bursts

A follower whose feed holds entries asks for those behind the last of them, and hands over
everything that is appended, however much that is. A feed that holds nothing has no last entry to go
on from: it begins with the newest page, and of a burst that does not fit this page the oldest
entries are skipped. Nothing else is ever skipped, whatever fails, is given up or takes long.
-/

namespace Statute

namespace LogFeed

/-- The newest page of a log, with its oldest entry first. -/
def newest (limit : Nat) (log : List LogEntry) : List LogEntry :=
  log.drop (log.length - limit)

/-- What the newest page leaves out. -/
def olderThanNewest (limit : Nat) (log : List LogEntry) : List LogEntry :=
  log.take (log.length - limit)

/-- A log is its newest page and what stands in front of it. -/
theorem olderThanNewest_append_newest (limit : Nat) (log : List LogEntry) :
    olderThanNewest limit log ++ newest limit log = log :=
  List.take_append_drop _ log

/-- The newest page leaves out nothing exactly when the log fits it. -/
theorem olderThanNewest_eq_nil_iff {limit : Nat} {log : List LogEntry} :
    olderThanNewest limit log = [] ↔ log.length ≤ limit := by
  rw [olderThanNewest, List.take_eq_nil_iff]
  constructor
  · rintro (fits | rfl)
    · omega
    · exact Nat.zero_le limit
  · intro fits
    exact .inl (Nat.sub_eq_zero_of_le fits)

/-- A page with room for an entry is empty for an empty log only. -/
theorem newest_eq_nil_iff {limit : Nat} (hasRoom : 0 < limit) {log : List LogEntry} :
    newest limit log = [] ↔ log = [] := by
  rw [newest, List.drop_eq_nil_iff, ← List.length_eq_zero_iff]
  omega

/-- A feed that begins anew holds the newest page. -/
theorem entries_begin (feed : LogFeed) (log : List LogEntry) :
    (feed.begin (pageOf log ⟨none, some feed.limit, .descending⟩)).2.entries =
      newest feed.limit log := by
  rw [begin, pageOf_newest, List.reverse_reverse, newest]

/-- A step changes nothing but what a feed holds and whether it is known to be at the start. -/
theorem exists_accept_eq (feed : LogFeed) (step : FeedStep) (page : List LogEntry) :
    ∃ entries reachedStart, (feed.accept step page).2 = { feed with entries, reachedStart } := by
  cases step with
  | initial => exact ⟨_, _, rfl⟩
  | newer =>
    cases isLast : feed.entries.getLast? with
    | none => exact ⟨_, _, by rw [accept, isLast]; rfl⟩
    | some last => exact ⟨_, _, by rw [accept, isLast]⟩
  | older =>
    cases isFirst : feed.entries.head? with
    | none => exact ⟨_, _, by rw [accept, isFirst]⟩
    | some first =>
      simp only [accept, isFirst]
      split
      · exact ⟨_, _, rfl⟩
      · exact ⟨_, _, rfl⟩

/-- No step changes the size of a page. -/
@[simp] theorem limit_accept (feed : LogFeed) (step : FeedStep) (page : List LogEntry) :
    (feed.accept step page).2.limit = feed.limit := by
  obtain ⟨_, _, same⟩ := feed.exists_accept_eq step page
  rw [same]

/-- The feed was just filled from a log: an initial load succeeded while the backend held it. -/
def FilledFrom (log : List LogEntry) (feed : LogFeed) : Prop :=
  ∃ earlier added, 0 < earlier.limit ∧ Called log log earlier .initial (.ok added) feed

/-- A feed that was just filled holds the newest page. -/
theorem FilledFrom.holds_newest {log : List LogEntry} {feed : LogFeed}
    (filled : feed.FilledFrom log) : 0 < feed.limit ∧ feed.entries = newest feed.limit log := by
  obtain ⟨earlier, added, hasRoom, meanwhile, since, still, _, _, _, _, serves, runs⟩ := filled
  obtain rfl : log = meanwhile := since.eq_of_length_le still.length_le
  rcases perform_cases serves runs with ⟨_, fails, -⟩ | ⟨asksNothing, -⟩ | ⟨page, asks, -, rfl⟩
  · cases fails
  · cases asksNothing
  · obtain rfl := Option.some.inj asks
    exact ⟨hasRoom, earlier.entries_begin log⟩

end LogFeed

/-! ## A follower beside the log -/

namespace Follower

@[simp] theorem feed_handOn (follower : Follower) (entries : List LogEntry) :
    (follower.handOn entries).feed = follower.feed := by
  cases entries <;> rfl

/-- A page that arrives is taken by a feed that was asking for one. -/
theorem feed_of_answered {follower later : Follower} {page : List LogEntry}
    (steps : follower.step? (.answer (.ok page)) = some later) :
    follower.phase = .fetching ∧ later.feed = (follower.feed.accept .newer page).2 := by
  simp only [step?] at steps
  split at steps
  next fetches =>
    obtain rfl := Option.some.inj steps
    exact ⟨fetches, feed_handOn _ _⟩
  next => cases steps

/-- Only a page that arrives changes the feed. -/
theorem feed_of_noPage {follower later : Follower} {event : FollowerEvent}
    (steps : follower.step? event = some later) (noPage : ∀ page, event ≠ .answer (.ok page)) :
    later.feed = follower.feed := by
  cases moves_of_step? steps with
  | flag => rfl
  | idle => rfl
  | fetch => exact absurd rfl (noPage _)
  | take => exact feed_handOn _ _
  | abandon => rfl

end Follower

/-- A follower and the log that its backend holds. -/
structure Followed where
  /-- The log as it is now. -/
  log : List LogEntry
  /-- The log as it was when the follower asked or got an answer last. -/
  known : List LogEntry
  /-- The log as it was when the backend answered the page that the feed begins with. -/
  begun : List LogEntry
  follower : Follower

namespace Followed

open LogFeed

/-- What can happen to a follower and its log. The page that the backend answers is one of the log
as it was at any time since the follower asked. -/
inductive Step (state : Followed) : Followed → Prop where
  | appends {more} (ascending : Ascending (state.log ++ more)) :
      Step state { state with log := state.log ++ more }
  | asks {follower} (steps : state.follower.step? .tick = some follower) :
      Step state { state with known := state.log, follower }
  | answers {seen page follower} (since : state.known <+: seen) (still : seen <+: state.log)
      (asked : state.follower.pageQuery? = some page)
      (steps : state.follower.step? (.answer (.ok (pageOf seen page))) = some follower) :
      Step state { state with
        known := seen, follower
        begun := if state.follower.feed.isEmpty then seen else state.begun }
  /-- A request fails or is given up, an entry is taken, the flag is written or looked at. -/
  | happens {event follower} (noTick : event ≠ .tick) (noPage : ∀ page, event ≠ .answer (.ok page))
      (steps : state.follower.step? event = some follower) : Step state { state with follower }

/-- What a follower and its log can become after the feed was filled from the log. -/
inductive Reached (loaded : List LogEntry) : Followed → Prop where
  | start {feed flag} (ascending : Ascending loaded) (filled : feed.FilledFrom loaded) :
      Reached loaded ⟨loaded, loaded, loaded, .nextRound ⟨feed, flag, .waiting, []⟩⟩
  | step {state later} (reached : Reached loaded state) (step : Step state later) :
      Reached loaded later

/-- What was appended after the feed was filled and before it got the page that it begins with. -/
def burst (loaded : List LogEntry) (state : Followed) : List LogEntry :=
  state.begun.drop loaded.length

/-- What the page that the feed begins with leaves out of the burst. -/
def skipped (loaded : List LogEntry) (state : Followed) : List LogEntry :=
  olderThanNewest state.follower.feed.limit (state.burst loaded)

/-! ## The feed goes on from where it began -/

/-- The feed holds the newest page of the log that it began with, and then what stands behind this
log as far as it has read what is known. Only a log without entries can grow before the feed
begins. -/
structure GoesOn (loaded begun known : List LogEntry) (feed : LogFeed) : Prop where
  hasRoom : 0 < feed.limit
  isLoaded : loaded <+: begun
  grew : loaded = [] ∨ begun = loaded
  reads : ∃ more, feed.entries = newest feed.limit begun ++ more ∧ begun ++ more <+: known

namespace GoesOn

variable {loaded begun known seen : List LogEntry} {feed : LogFeed}

/-- A feed that was just filled goes on from the log that it was filled from. -/
theorem filled (filled : feed.FilledFrom loaded) : GoesOn loaded loaded loaded feed := by
  obtain ⟨hasRoom, entries⟩ := filled.holds_newest
  exact ⟨hasRoom, List.prefix_rfl, .inr rfl, [], by simpa using entries, by simp⟩

/-- Entries that were appended to what is known make no difference. -/
theorem grown (goesOn : GoesOn loaded begun known feed) (since : known <+: seen) :
    GoesOn loaded begun seen feed := by
  obtain ⟨more, entries, soFar⟩ := goesOn.reads
  exact ⟨goesOn.hasRoom, goesOn.isLoaded, goesOn.grew, more, entries, soFar.trans since⟩

/-- Nothing of the log that the feed was filled from is unknown. -/
theorem isLoaded_of_known (goesOn : GoesOn loaded begun known feed) : loaded <+: known := by
  obtain ⟨more, -, soFar⟩ := goesOn.reads
  exact goesOn.isLoaded.trans ((List.prefix_append begun more).trans soFar)

/-- A feed that holds nothing was filled from a log that held nothing. -/
theorem loaded_eq_nil (goesOn : GoesOn loaded begun known feed) (nothing : feed.entries = []) :
    loaded = [] := by
  rcases goesOn.grew with isNil | same
  · exact isNil
  · obtain ⟨more, entries, -⟩ := goesOn.reads
    rw [nothing, same] at entries
    exact (newest_eq_nil_iff goesOn.hasRoom).mp (List.append_eq_nil_iff.mp entries.symm).1

/-- A feed that holds nothing begins with the newest page. -/
theorem begin (goesOn : GoesOn loaded begun known feed) (since : known <+: seen)
    (nothing : feed.entries = []) :
    GoesOn loaded seen seen
      (feed.begin (pageOf seen ⟨none, some feed.limit, .descending⟩)).2 where
  hasRoom := goesOn.hasRoom
  isLoaded := goesOn.isLoaded_of_known.trans since
  grew := .inl (goesOn.loaded_eq_nil nothing)
  reads := ⟨[], by rw [entries_begin, List.append_nil, LogFeed.begin], by simp⟩

/-- A feed that holds entries goes on behind the last of them. -/
theorem accept_newer (goesOn : GoesOn loaded begun known feed) (ascending : Ascending seen)
    (since : known <+: seen) {last : LogEntry} (isLast : feed.entries.getLast? = some last) :
    GoesOn loaded begun seen
      (feed.accept .newer (pageOf seen ⟨some last.id, some feed.limit, .ascending⟩)).2 := by
  obtain ⟨more, entries, soFar⟩ := goesOn.reads
  obtain ⟨behind, rfl⟩ := soFar.trans since
  -- The last entry of the feed is also the last one of the log as far as the feed has read it.
  have isLastSoFar : (begun ++ more).getLast? = some last := by
    rw [← olderThanNewest_append_newest feed.limit begun, List.append_assoc, ← entries,
      List.getLast?_append, isLast, Option.some_or]
  obtain ⟨answered, kept⟩ := pageOf_behind ascending isLastSoFar feed.limit
  rw [answered]
  simp only [accept, isLast, kept]
  refine ⟨goesOn.hasRoom, goesOn.isLoaded, goesOn.grew, more ++ behind.take feed.limit, ?_, ?_⟩
  · rw [entries, List.append_assoc]
  · rw [← List.append_assoc]
    exact (List.prefix_append_right_inj _).mpr (List.take_prefix _ behind)

/-- A page that arrives is one to go on with, or to begin with when the feed holds nothing. -/
theorem accept (goesOn : GoesOn loaded begun known feed) (ascending : Ascending seen)
    (since : known <+: seen) {page : PageQuery} (asks : feed.pageQuery? .newer = some page) :
    GoesOn loaded (if feed.isEmpty then seen else begun) seen
      (feed.accept .newer (pageOf seen page)).2 := by
  cases isLast : feed.entries.getLast? with
  | none =>
    have nothing : feed.entries = [] := List.getLast?_eq_none_iff.mp isLast
    simp only [pageQuery?, isLast] at asks
    obtain rfl := Option.some.inj asks
    simp only [LogFeed.accept, LogFeed.isEmpty, nothing, List.isEmpty_nil, if_true]
    exact goesOn.begin since nothing
  | some last =>
    have isFilled : feed.isEmpty = false := by
      rw [LogFeed.isEmpty, List.isEmpty_eq_false_iff]
      rintro nothing
      simp [nothing] at isLast
    simp only [pageQuery?, isLast] at asks
    obtain rfl := Option.some.inj asks
    rw [isFilled]
    exact goesOn.accept_newer ascending since isLast

end GoesOn

/-! ## Runs -/

variable {loaded : List LogEntry} {state later : Followed}

/-- What holds of a follower and its log at all times. -/
structure Keeps (loaded : List LogEntry) (state : Followed) : Prop where
  ascending : Ascending state.log
  isKnown : state.known <+: state.log
  goesOn : GoesOn loaded state.begun state.known state.follower.feed
  accounts : Follower.Accounts (newest state.follower.feed.limit loaded) state.follower

/-- A follower that starts from a filled feed has taken nothing and left nothing out. -/
theorem keeps_start {feed : LogFeed} (ascending : Ascending loaded)
    (filled : feed.FilledFrom loaded) (flag : StopFlag) :
    Keeps loaded ⟨loaded, loaded, loaded, .nextRound ⟨feed, flag, .waiting, []⟩⟩ where
  ascending := ascending
  isKnown := List.prefix_rfl
  goesOn := .filled filled
  accounts := Follower.accounts_of_nothing
    (filled.holds_newest.2.trans (List.append_nil _).symm) (Follower.untaken_nextRound _)

/-- Whatever happens next keeps this. Only an answer reads on in the log; every other step leaves
the feed alone. -/
theorem Keeps.step (keeps : Keeps loaded state) (step : Step state later) : Keeps loaded later := by
  obtain ⟨ascending, isKnown, goesOn, accounts⟩ := keeps
  cases step with
  | appends grown =>
    exact ⟨grown, isKnown.trans (List.prefix_append _ _), goesOn, accounts⟩
  | asks steps =>
    have sameFeed := Follower.feed_of_noPage steps fun _ same => nomatch same
    have moved := accounts.step (Follower.moves_of_step? steps)
    rw [← sameFeed] at goesOn moved
    exact ⟨ascending, List.prefix_rfl, goesOn.grown isKnown, moved⟩
  | answers since still asked steps =>
    obtain ⟨fetches, feed⟩ := Follower.feed_of_answered steps
    rw [Follower.pageQuery?, if_pos fetches] at asked
    have accepted := goesOn.accept (ascending.sublist still.sublist) since asked
    have moved := accounts.step (Follower.moves_of_step? steps)
    rw [← limit_accept state.follower.feed .newer, ← feed] at moved
    rw [← feed] at accepted
    exact ⟨ascending, still, accepted, moved⟩
  | happens _ noPage steps =>
    have sameFeed := Follower.feed_of_noPage steps noPage
    have moved := accounts.step (Follower.moves_of_step? steps)
    rw [← sameFeed] at goesOn moved
    exact ⟨ascending, isKnown, goesOn, moved⟩

/-- By induction this holds after any steps. -/
theorem Reached.keeps (reached : Reached loaded state) : Keeps loaded state := by
  induction reached with
  | start ascending filled => exact keeps_start ascending filled _
  | step _ step inductionHypothesis => exact inductionHypothesis.step step

/-- What the receiver has taken stands behind what was skipped, with nothing left out in between. -/
theorem Keeps.taken_behind_skipped (keeps : Keeps loaded state) :
    ∃ appended, state.log = loaded ++ appended ∧
      state.skipped loaded ++ state.follower.taken <+: appended := by
  obtain ⟨more, entries, soFar⟩ := keeps.goesOn.reads
  obtain ⟨others, whole, -⟩ := keeps.accounts
  obtain ⟨rest, log⟩ := soFar.trans keeps.isKnown
  rw [entries] at whole
  rcases keeps.goesOn.grew with rfl | same
  · have gained : newest state.follower.feed.limit state.begun ++ more =
        state.follower.taken ++ others := by simpa [newest] using whole
    refine ⟨state.log, rfl, others ++ rest, ?_⟩
    calc state.skipped [] ++ state.follower.taken ++ (others ++ rest)
        = olderThanNewest state.follower.feed.limit state.begun ++
            (state.follower.taken ++ others) ++ rest := by simp [skipped, burst]
      _ = state.log := by
        rw [← gained, ← List.append_assoc, olderThanNewest_append_newest, log]
  · rw [same] at whole log
    obtain rfl := List.append_cancel_left whole
    refine ⟨state.follower.taken ++ others ++ rest, ?_, others ++ rest, ?_⟩
    · rw [← log, List.append_assoc]
    · simp [skipped, burst, same, olderThanNewest]

/-- In an ascending log entries cannot stand both here and behind others. -/
theorem eq_nil_of_both_prefix {front entries whole : List LogEntry} (ascending : Ascending whole)
    (behind : front ++ entries <+: whole) (here : entries <+: whole) :
    front = [] ∨ entries = [] := by
  cases front with
  | nil => exact .inl rfl
  | cons first front =>
    cases entries with
    | nil => exact .inr rfl
    | cons entry entries =>
      obtain ⟨rest, rfl⟩ := behind
      obtain ⟨otherRest, same⟩ := here
      obtain rfl : entry = first := (List.cons.inj same).1
      have smaller : entry.id < entry.id :=
        Ascending.lt_of_mem (ascending.sublist (List.prefix_append _ rest).sublist)
          List.mem_cons_self List.mem_cons_self
      exact absurd smaller Int64.lt_irrefl

/-- What a follower has handed over are entries appended after its feed was filled, in order and
without gaps, behind those that the page which the feed begins with left out of the burst before
it. They are the first ones appended, exactly unless a burst did not fit this page. A feed that was
filled with entries has begun already, and no burst can come before. -/
theorem Reached.skips_only_from_burst (reached : Reached loaded state) :
    ∃ appended, state.log = loaded ++ appended ∧
      state.skipped loaded ++ state.follower.taken <+: appended ∧
      (state.follower.taken <+: appended ↔
        state.follower.taken = [] ∨ (state.burst loaded).length ≤ state.follower.feed.limit) ∧
      (loaded ≠ [] → state.burst loaded = []) := by
  have keeps := reached.keeps
  obtain ⟨appended, log, behind⟩ := keeps.taken_behind_skipped
  have ascending : Ascending appended := by
    have whole := keeps.ascending
    rw [log] at whole
    exact (List.pairwise_append.mp whole).2.1
  refine ⟨appended, log, behind, ⟨fun here => ?_, ?_⟩, fun filled => ?_⟩
  · rcases eq_nil_of_both_prefix ascending behind here with fits | nothing
    · exact .inr (olderThanNewest_eq_nil_iff.mp fits)
    · exact .inl nothing
  · rintro (nothing | fits)
    · rw [nothing]
      exact List.nil_prefix
    · have nothingSkipped : state.skipped loaded = [] := olderThanNewest_eq_nil_iff.mpr fits
      rwa [nothingSkipped, List.nil_append] at behind
  · rcases keeps.goesOn.grew with nothing | same
    · exact absurd nothing filled
    · rw [burst, same, List.drop_length]

/-- A follower in a phase, with pages of two entries, beside a log of which it knows a part. -/
def exampleState (log known begun entries taken : List LogEntry) (phase : FollowerPhase) :
    Followed :=
  ⟨log, known, begun, ⟨⟨7, 2, entries, false⟩, ⟨false, false, false⟩, phase, taken⟩⟩

/-- A feed can be filled from a log that fits a page. -/
theorem exampleState_reached (ascending : Ascending loaded) (fits : loaded.length ≤ 2) :
    Reached loaded (exampleState loaded loaded loaded loaded [] .waiting) := by
  have page : (pageOf loaded ⟨none, some 2, .descending⟩).reverse = loaded := by
    rw [pageOf_newest, List.reverse_reverse, Nat.sub_eq_zero_of_le fits, List.drop_zero]
  refine .start ascending ⟨.empty 7 2, loaded, by decide, loaded, List.prefix_rfl,
    List.prefix_rfl, Unit, exampleBackend (some loaded), ⟨"", ""⟩, (), fun _ _ => .inl rfl, ?_⟩
  exact congrArg (fun entries => (Except.ok entries, (⟨7, 2, entries, false⟩ : LogFeed))) page

/-- Behind a feed of one entry three entries are appended at once. After a request that fails, the
follower gets the first two of them and hands them over. -/
theorem exampleBurst_forwarded :
    let appended := [exampleEntry 5, exampleEntry 7, exampleEntry 9]
    let state := exampleState (exampleEntry 3 :: appended) (exampleEntry 3 :: appended)
      [exampleEntry 3] [exampleEntry 3, exampleEntry 5, exampleEntry 7]
      [exampleEntry 5, exampleEntry 7] .waiting
    Reached [exampleEntry 3] state ∧ state.skipped [exampleEntry 3] = [] ∧
      state.follower.taken <+: appended := by
  intro appended state
  have asking : Reached [exampleEntry 3] (exampleState (exampleEntry 3 :: appended)
      (exampleEntry 3 :: appended) [exampleEntry 3] [exampleEntry 3] [] .fetching) :=
    ((exampleState_reached (by decide) (by decide)).step (.appends (by decide))).step (.asks rfl)
  have failed : Reached [exampleEntry 3] (exampleState (exampleEntry 3 :: appended)
      (exampleEntry 3 :: appended) [exampleEntry 3] [exampleEntry 3] [] .waiting) :=
    asking.step (@Step.happens _ (.answer (.error (.network "lost"))) _ nofun nofun rfl)
  have got : Reached [exampleEntry 3] (exampleState (exampleEntry 3 :: appended)
      (exampleEntry 3 :: appended) [exampleEntry 3]
      [exampleEntry 3, exampleEntry 5, exampleEntry 7] []
      (.handing (exampleEntry 5) [exampleEntry 7])) :=
    (failed.step (.asks rfl)).step (.answers List.prefix_rfl List.prefix_rfl rfl rfl)
  have reached : Reached [exampleEntry 3] state :=
    (got.step (@Step.happens _ .take _ nofun nofun rfl)).step
      (@Step.happens _ .take _ nofun nofun rfl)
  obtain ⟨rest, log, -, first, begun⟩ := reached.skips_only_from_burst
  obtain rfl : appended = rest := (List.cons.inj log).2
  have noBurst := begun (List.cons_ne_nil _ _)
  refine ⟨reached, by rw [skipped, noBurst]; rfl, first.mpr (.inr ?_)⟩
  rw [noBurst]
  decide

/-- When the same happens to a feed that was filled while the log held nothing, the follower hands
over the last two entries and never the first one. -/
theorem exampleBurst_skipped :
    let appended := [exampleEntry 5, exampleEntry 7, exampleEntry 9]
    let state := exampleState appended appended appended [exampleEntry 7, exampleEntry 9]
      [exampleEntry 7, exampleEntry 9] .waiting
    Reached [] state ∧ ¬ state.follower.taken <+: appended := by
  intro appended state
  have asking : Reached [] (exampleState appended appended [] [] [] .fetching) :=
    ((exampleState_reached (by decide) (by decide)).step (.appends (by decide))).step (.asks rfl)
  have got : Reached [] (exampleState appended appended appended
      [exampleEntry 7, exampleEntry 9] [] (.handing (exampleEntry 7) [exampleEntry 9])) :=
    asking.step (.answers List.prefix_rfl List.prefix_rfl rfl rfl)
  have reached : Reached [] state :=
    (got.step (@Step.happens _ .take _ nofun nofun rfl)).step
      (@Step.happens _ .take _ nofun nofun rfl)
  exact ⟨reached, by decide⟩

end Followed

end Statute
