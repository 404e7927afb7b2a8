import Statute.Log.Feed
import Statute.Log.Paging

/-!
# Feeds are windows of the log

A backend holds a log that only grows, with larger numbers for later entries, and answers every
request for a page with that page or with an error. Whatever calls a feed makes meanwhile, its
entries stand one behind the other in the log with nothing left out between them.
-/

namespace Statute

/-- Every entry has a smaller number than those behind it. -/
def Ascending (log : List LogEntry) : Prop :=
  log.Pairwise fun entry later => entry.id < later.id

instance : DecidablePred Ascending := fun log =>
  inferInstanceAs (Decidable (log.Pairwise fun entry later => entry.id < later.id))

/-! ## Pages of an ascending log -/

variable {before behind : List LogEntry} {entry : LogEntry}

/-- In an ascending log everything in front is lower than everything behind. -/
theorem Ascending.lt_of_mem (ascending : Ascending (before ++ behind)) {earlier later : LogEntry}
    (first : earlier ∈ before) (second : later ∈ behind) : earlier.id < later.id :=
  (List.pairwise_append.mp ascending).2.2 earlier first later second

/-- The newest page holds the end of the log. -/
theorem pageOf_newest (log : List LogEntry) (limit : Nat) :
    pageOf log ⟨none, some limit, .descending⟩ = (log.drop (log.length - limit)).reverse := by
  have everything : (log.filter fun _ => true) = log := List.filter_eq_self.mpr fun _ _ => rfl
  simp only [pageOf, Option.all_none, everything, List.take_reverse]

/-- The page behind the last of some entries holds entries that follow them, and no others. -/
theorem pageOf_behind (ascending : Ascending (before ++ behind))
    (last : before.getLast? = some entry) (limit : Nat) :
    pageOf (before ++ behind) ⟨some entry.id, some limit, .ascending⟩ = behind.take limit ∧
      ((behind.take limit).filter fun other => entry.id < other.id) = behind.take limit := by
  obtain ⟨others, rfl⟩ := List.getLast?_eq_some_iff.mp last
  have areBehind : ∀ other ∈ behind, entry.id < other.id :=
    fun other member => ascending.lt_of_mem (by simp) member
  have notBehind : ∀ other ∈ others ++ [entry], ¬ entry.id < other.id := by
    intro other member
    rcases List.mem_append.mp member with earlier | same
    · have smaller : other.id < entry.id :=
        Ascending.lt_of_mem (List.pairwise_append.mp ascending).1 earlier List.mem_cons_self
      exact Int64.lt_asymm smaller
    · obtain rfl := List.mem_singleton.mp same
      exact Int64.lt_irrefl
  have nothing : ((others ++ [entry]).filter fun other => entry.id < other.id) = [] :=
    List.filter_eq_nil_iff.mpr fun other member => by simpa using notBehind other member
  have everything : (behind.filter fun other => entry.id < other.id) = behind :=
    List.filter_eq_self.mpr fun other member => decide_eq_true (areBehind other member)
  refine ⟨?_, List.filter_eq_self.mpr fun other member => ?_⟩
  · simp only [pageOf, Option.all_some, List.filter_append, nothing, everything, List.nil_append]
  · exact decide_eq_true (areBehind other (List.mem_of_mem_take member))

/-- The page before the first of some entries holds entries that they follow, and no others. -/
theorem pageOf_before (ascending : Ascending (before ++ behind))
    (first : behind.head? = some entry) (limit : Nat) :
    pageOf (before ++ behind) ⟨some entry.id, some limit, .descending⟩ =
        (before.drop (before.length - limit)).reverse ∧
      ((before.drop (before.length - limit)).reverse.filter fun other => other.id < entry.id) =
        (before.drop (before.length - limit)).reverse := by
  obtain ⟨others, rfl⟩ := List.head?_eq_some_iff.mp first
  have areBefore : ∀ other ∈ before, other.id < entry.id :=
    fun other member => ascending.lt_of_mem member List.mem_cons_self
  have notBefore : ∀ other ∈ entry :: others, ¬ other.id < entry.id := by
    intro other member
    rcases List.mem_cons.mp member with rfl | later
    · exact Int64.lt_irrefl
    · have larger : entry.id < other.id :=
        List.rel_of_pairwise_cons (List.pairwise_append.mp ascending).2.1 later
      exact Int64.lt_asymm larger
  have nothing : ((entry :: others).filter fun other => other.id < entry.id) = [] :=
    List.filter_eq_nil_iff.mpr fun other member => by simpa using notBefore other member
  have everything : (before.filter fun other => other.id < entry.id) = before :=
    List.filter_eq_self.mpr fun other member => decide_eq_true (areBefore other member)
  refine ⟨?_, List.filter_eq_self.mpr fun other member => ?_⟩
  · simp only [pageOf, Option.all_some, List.filter_append, nothing, everything, List.append_nil,
      List.take_reverse]
  · exact decide_eq_true (areBefore other (List.mem_of_mem_drop (List.mem_reverse.mp member)))

/-! ## What a step adds -/

/-- The entries of a feed after a step that added some. -/
def FeedStep.extended (entries added : List LogEntry) : FeedStep → List LogEntry
  | .initial => added
  | .newer => entries ++ added
  | .older => added ++ entries

namespace LogFeed

/-- A step adds what it tells, whatever page was answered to it. -/
theorem entries_accept (feed : LogFeed) (step : FeedStep) (page : List LogEntry) :
    (feed.accept step page).2.entries = step.extended feed.entries (feed.accept step page).1 := by
  cases step with
  | initial => rfl
  | newer =>
    cases isLast : feed.entries.getLast? with
    | none =>
      have isEmpty : feed.entries = [] := List.getLast?_eq_none_iff.mp isLast
      simp [accept, FeedStep.extended, isEmpty, begin]
    | some last => simp [accept, FeedStep.extended, isLast]
  | older =>
    cases isFirst : feed.entries.head? with
    | none => simp [accept, FeedStep.extended, isFirst]
    | some first =>
      simp only [accept, FeedStep.extended, isFirst]
      split <;> rfl

variable {feed : LogFeed} {log : List LogEntry}

/-- Only the step to older entries may have nothing to ask for. -/
theorem eq_older_of_pageQuery?_eq_none {step : FeedStep}
    (asksNothing : feed.pageQuery? step = none) : step = .older := by
  cases step with
  | initial => cases asksNothing
  | newer =>
    simp only [pageQuery?] at asksNothing
    split at asksNothing <;> cases asksNothing
  | older => rfl

/-- The entries of a feed stand one behind the other in a log. A feed that reached the start has the
first entry of the log. -/
structure IsWindow (feed : LogFeed) (log : List LogEntry) : Prop where
  hasRoom : 0 < feed.limit
  stands : ∃ before behind, log = before ++ feed.entries ++ behind ∧
    (feed.reachedStart = true → feed.entries ≠ [] ∧ before = [])

/-- A feed that holds nothing is a window of every log. -/
theorem isWindow_empty (fragment : FragmentId) (limit : Nat) (log : List LogEntry) :
    (empty fragment limit).IsWindow log where
  hasRoom := Nat.lt_of_lt_of_le Nat.one_pos (Nat.le_max_right limit 1)
  stands := ⟨log, [], by simp [empty], fun reached => nomatch reached⟩

namespace IsWindow

/-- The entries of a window stand in the log without gaps. -/
theorem isInfix (window : feed.IsWindow log) : feed.entries <:+: log := by
  obtain ⟨before, behind, whole, -⟩ := window.stands
  exact ⟨before, behind, whole.symm⟩

/-- A feed that reached the start begins with the first entry of the log. -/
theorem head?_eq (window : feed.IsWindow log) (reached : feed.reachedStart = true) :
    ∃ first, feed.entries.head? = some first ∧ log.head? = some first := by
  obtain ⟨before, behind, whole, start⟩ := window.stands
  obtain ⟨nonempty, rfl⟩ := start reached
  obtain ⟨first, others, entries⟩ := List.exists_cons_of_ne_nil nonempty
  exact ⟨first, by simp [entries], by simp [whole, entries]⟩

/-- A window stays one when the log grows. -/
theorem grown (window : feed.IsWindow log) {later : List LogEntry} (grows : log <+: later) :
    feed.IsWindow later := by
  obtain ⟨more, rfl⟩ := grows
  obtain ⟨before, behind, rfl, start⟩ := window.stands
  exact ⟨window.hasRoom, before, behind ++ more, by simp, start⟩

/-- A feed that begins anew holds the end of the log. -/
theorem begin (hasRoom : 0 < feed.limit) (log : List LogEntry) :
    (feed.begin (pageOf log ⟨none, some feed.limit, .descending⟩)).2.IsWindow log where
  hasRoom := hasRoom
  stands := by
    refine ⟨log.take (log.length - feed.limit), [], ?_, fun reached => nomatch reached⟩
    rw [LogFeed.begin, pageOf_newest, List.reverse_reverse, List.append_nil, List.take_append_drop]

/-- What the page behind the last entry holds is joined to a window without a gap. -/
theorem accept_newer (window : feed.IsWindow log) (ascending : Ascending log) {last : LogEntry}
    (isLast : feed.entries.getLast? = some last) :
    (feed.accept .newer
      (pageOf log ⟨some last.id, some feed.limit, .ascending⟩)).2.IsWindow log := by
  obtain ⟨before, behind, rfl, start⟩ := window.stands
  have isLastSoFar : (before ++ feed.entries).getLast? = some last := by
    simp [List.getLast?_append, isLast]
  obtain ⟨page, kept⟩ := pageOf_behind ascending isLastSoFar feed.limit
  simp only [LogFeed.accept, isLast, page, kept]
  refine ⟨window.hasRoom, before, behind.drop feed.limit, by simp, fun reached => ?_⟩
  obtain ⟨nonempty, isStart⟩ := start reached
  exact ⟨by simp [nonempty], isStart⟩

/-- What the page before the first entry holds is joined to a window without a gap. The window
reaches the start of the log when the page is empty. -/
theorem accept_older (window : feed.IsWindow log) (ascending : Ascending log) {first : LogEntry}
    (isFirst : feed.entries.head? = some first) :
    (feed.accept .older
      (pageOf log ⟨some first.id, some feed.limit, .descending⟩)).2.IsWindow log := by
  obtain ⟨before, behind, rfl, start⟩ := window.stands
  have isFirstFromHere : (feed.entries ++ behind).head? = some first := by
    simp [List.head?_append, isFirst]
  rw [List.append_assoc] at ascending ⊢
  obtain ⟨page, kept⟩ := pageOf_before ascending isFirstFromHere feed.limit
  simp only [LogFeed.accept, isFirst, page, kept, List.reverse_reverse]
  split
  next isEmpty =>
    -- A page with room for an entry is empty only where nothing stands before the window.
    have room := window.hasRoom
    have nothingBefore : before = [] := by
      rw [List.isEmpty_iff, List.drop_eq_nil_iff] at isEmpty
      exact List.length_eq_zero_iff.mp (by omega)
    have nonempty : feed.entries ≠ [] := by
      intro isNil
      simp [isNil] at isFirst
    exact ⟨room, before, behind, by simp, fun _ => ⟨nonempty, nothingBefore⟩⟩
  next added =>
    have whole : before ++ (feed.entries ++ behind) =
        before.take (before.length - feed.limit) ++
          (before.drop (before.length - feed.limit) ++ feed.entries) ++ behind := by
      rw [← List.append_assoc, ← List.append_assoc, List.take_append_drop]
    refine ⟨window.hasRoom, _, behind, whole, fun reached => ?_⟩
    obtain ⟨nonempty, rfl⟩ := start reached
    exact absurd (by simp) added

/-- A step with the page that it asks for keeps a window of the log. -/
theorem accept (window : feed.IsWindow log) (ascending : Ascending log) {step : FeedStep}
    {page : PageQuery} (asks : feed.pageQuery? step = some page) :
    (feed.accept step (pageOf log page)).2.IsWindow log := by
  cases step with
  | initial =>
    obtain rfl := Option.some.inj asks
    exact begin window.hasRoom log
  | newer =>
    cases isLast : feed.entries.getLast? with
    | none =>
      simp only [pageQuery?, isLast] at asks
      obtain rfl := Option.some.inj asks
      simp only [LogFeed.accept, isLast]
      exact begin window.hasRoom log
    | some last =>
      simp only [pageQuery?, isLast] at asks
      obtain rfl := Option.some.inj asks
      exact window.accept_newer ascending isLast
  | older =>
    cases isFirst : feed.entries.head? with
    | none =>
      simp only [pageQuery?, isFirst, Option.map_none] at asks
      cases asks
    | some first =>
      simp only [pageQuery?, isFirst, Option.map_some] at asks
      obtain rfl := Option.some.inj asks
      exact window.accept_older ascending isFirst

end IsWindow

/-! ## Calls -/

/-- In the environment a backend holds a log of the fragment: it answers a request for a page of it
with this page or with an error. -/
def Serves {σ : Type} (environment : Session.Environment σ) (fragment : FragmentId)
    (log : List LogEntry) : Prop :=
  ∀ page state, (environment.answer (.logPage fragment page) state).1 = .ok (pageOf log page) ∨
    ∃ error, (environment.answer (.logPage fragment page) state).1 = .error error

/-- A call of a feed, with its outcome and the feed afterwards. The log may grow before the backend
answers and after it did. -/
def Called (log later : List LogEntry) (feed : LogFeed) (step : FeedStep)
    (outcome : Except BackendError (List LogEntry)) (after : LogFeed) : Prop :=
  ∃ meanwhile, log <+: meanwhile ∧ meanwhile <+: later ∧
    ∃ (σ : Type) (environment : Session.Environment σ) (transcript : Session.Transcript)
      (state : σ), Serves environment feed.fragment meanwhile ∧
        ((feed.perform step).run environment transcript state).1 = (outcome, after)

/-- What a call can do: it fails and leaves the feed as it is, it has nothing to ask for, or it
takes the page that it asks for. -/
theorem perform_cases {σ : Type} {environment : Session.Environment σ}
    {transcript : Session.Transcript} {state : σ} {step : FeedStep}
    {outcome : Except BackendError (List LogEntry)} {after : LogFeed}
    (serves : Serves environment feed.fragment log)
    (runs : ((feed.perform step).run environment transcript state).1 = (outcome, after)) :
    (∃ error, outcome = .error error ∧ after = feed) ∨
      (feed.pageQuery? step = none ∧ outcome = .ok [] ∧ after = feed) ∨
      ∃ page, feed.pageQuery? step = some page ∧
        outcome = .ok (feed.accept step (pageOf log page)).1 ∧
        after = (feed.accept step (pageOf log page)).2 := by
  unfold perform at runs
  cases asks : feed.pageQuery? step with
  | none =>
    rw [asks] at runs
    obtain ⟨rfl, rfl⟩ := Prod.mk.inj runs
    exact .inr (.inl ⟨rfl, rfl, rfl⟩)
  | some page =>
    rw [asks] at runs
    rcases answered : environment.answer (.logPage feed.fragment page) state with ⟨answer, later⟩
    have answers := serves page state
    simp only [bind, Session.bind, Session.outcomeOf, Session.run, answered] at runs answers
    rcases answers with rfl | ⟨error, rfl⟩
    · obtain ⟨rfl, rfl⟩ := Prod.mk.inj runs
      exact .inr (.inr ⟨page, rfl, rfl, rfl⟩)
    · obtain ⟨rfl, rfl⟩ := Prod.mk.inj runs
      exact .inl ⟨error, rfl, rfl⟩

/-- A call keeps a window of the log, tells what it added, and changes nothing when it fails. -/
theorem IsWindow.called (window : feed.IsWindow log) {later : List LogEntry}
    (ascending : Ascending later) {step : FeedStep}
    {outcome : Except BackendError (List LogEntry)} {after : LogFeed}
    (call : Called log later feed step outcome after) :
    after.IsWindow later ∧
      (∀ added, outcome = .ok added → after.entries = step.extended feed.entries added) ∧
      ∀ error, outcome = .error error → after = feed := by
  obtain ⟨meanwhile, grewBefore, growsAfter, _, _, _, _, serves, runs⟩ := call
  have stillWindow := window.grown grewBefore
  rcases perform_cases serves runs with ⟨error, rfl, rfl⟩ | ⟨asksNothing, rfl, rfl⟩ |
    ⟨page, asks, rfl, rfl⟩
  · exact ⟨stillWindow.grown growsAfter, fun _ same => (nomatch same), fun _ _ => rfl⟩
  · obtain rfl := eq_older_of_pageQuery?_eq_none asksNothing
    refine ⟨stillWindow.grown growsAfter, fun added same => ?_, fun _ same => nomatch same⟩
    obtain rfl := Except.ok.inj same
    rfl
  · have ascendingMeanwhile : Ascending meanwhile := ascending.sublist growsAfter.sublist
    refine ⟨(stillWindow.accept ascendingMeanwhile asks).grown growsAfter, fun added same => ?_,
      fun _ same => nomatch same⟩
    obtain rfl := Except.ok.inj same
    exact feed.entries_accept step _

/-- Calls of a feed one after the other, while entries are appended to the log. -/
inductive Reached (fragment : FragmentId) (limit : Nat) : List LogEntry → LogFeed → Prop where
  | start {log : List LogEntry} (ascending : Ascending log) :
      Reached fragment limit log (empty fragment limit)
  | appended {log later : List LogEntry} {feed : LogFeed}
      (reached : Reached fragment limit log feed) (grows : log <+: later)
      (ascending : Ascending later) : Reached fragment limit later feed
  | called {log later : List LogEntry} {feed : LogFeed} {step outcome after}
      (reached : Reached fragment limit log feed) (ascending : Ascending later)
      (call : Called log later feed step outcome after) : Reached fragment limit later after

/-- Every feed that calls lead to is a window of the log. -/
theorem Reached.isWindow {fragment : FragmentId} {limit : Nat}
    (reached : Reached fragment limit log feed) : feed.IsWindow log := by
  induction reached with
  | start _ => exact isWindow_empty fragment limit _
  | appended _ grows _ inductionHypothesis => exact inductionHypothesis.grown grows
  | called _ ascending call inductionHypothesis =>
    exact (inductionHypothesis.called ascending call).1

/-- After every call the entries of a feed are a gapless, strictly ascending part of the log as it
is then. The call tells exactly the entries that it added, a feed that reached the start begins with
the first entry of the log, and a call that failed left the feed as it was. -/
theorem Reached.gapless_after_call {fragment : FragmentId} {limit : Nat} {later : List LogEntry}
    {step : FeedStep} {outcome : Except BackendError (List LogEntry)} {after : LogFeed}
    (reached : Reached fragment limit log feed) (ascending : Ascending later)
    (call : Called log later feed step outcome after) :
    after.entries <:+: later ∧ Ascending after.entries ∧
      (after.reachedStart = true →
        ∃ first, after.entries.head? = some first ∧ later.head? = some first) ∧
      (∀ added, outcome = .ok added → after.entries = step.extended feed.entries added) ∧
      ∀ error, outcome = .error error → after = feed := by
  obtain ⟨window, tells, failed⟩ := reached.isWindow.called ascending call
  exact ⟨window.isInfix, ascending.sublist window.isInfix.sublist, window.head?_eq, tells, failed⟩

/-- An entry with a number. -/
def exampleEntry (id : Int64) : LogEntry :=
  ⟨id, "Explain.", none, .user, 7, .epoch, false⟩

/-- A backend that holds a log, or that fails when there is none. -/
def exampleBackend (log : Option (List LogEntry)) : Session.Environment Unit where
  answer
    | .logPage _ page, state =>
      (match log with
        | some log => .ok (pageOf log page)
        | none => .error (.network "refused"), state)
    | _, state => (.error (.network "refused"), state)
  answerBoth _ _ state := (.error (.network "refused"), state)
  file? _ := none
  now := .epoch

/-- A feed finds the start of the log, fails once and then gets an entry that was appended while it
was asking. -/
theorem exampleCalls_gapless :
    Reached 7 2 [exampleEntry 3] ⟨7, 2, [exampleEntry 3], true⟩ ∧
      Called [exampleEntry 3] [exampleEntry 3, exampleEntry 5] ⟨7, 2, [exampleEntry 3], true⟩ .newer
        (.ok [exampleEntry 5]) ⟨7, 2, [exampleEntry 3, exampleEntry 5], true⟩ ∧
      [exampleEntry 3, exampleEntry 5] <:+: [exampleEntry 3, exampleEntry 5] ∧
      Ascending [exampleEntry 3, exampleEntry 5] ∧
      ∃ first, [exampleEntry 3, exampleEntry 5].head? = some first ∧
        [exampleEntry 3, exampleEntry 5].head? = some first := by
  have single : Ascending [exampleEntry 3] := List.pairwise_singleton _ _
  have both : Ascending [exampleEntry 3, exampleEntry 5] := List.pairwise_pair.mpr (by decide)
  have answered {log later : List LogEntry} {feed after : LogFeed} {step : FeedStep}
      {added : List LogEntry} (grows : log <+: later)
      (runs : ((feed.perform step).run (exampleBackend (some later)) ⟨"", ""⟩ ()).1 =
        (.ok added, after)) : Called log later feed step (.ok added) after :=
    ⟨later, grows, List.prefix_rfl, Unit, _, _, _, fun _ _ => .inl rfl, runs⟩
  have refused : Called [exampleEntry 3] [exampleEntry 3] ⟨7, 2, [exampleEntry 3], true⟩ .newer
      (.error (.network "refused")) ⟨7, 2, [exampleEntry 3], true⟩ :=
    ⟨_, List.prefix_rfl, List.prefix_rfl, Unit, exampleBackend none, ⟨"", ""⟩, (),
      fun _ _ => .inr ⟨_, rfl⟩, rfl⟩
  have newest : Called [exampleEntry 3] [exampleEntry 3] (empty 7 2) .initial
      (.ok [exampleEntry 3]) ⟨7, 2, [exampleEntry 3], false⟩ := answered List.prefix_rfl rfl
  have oldest : Called [exampleEntry 3] [exampleEntry 3] ⟨7, 2, [exampleEntry 3], false⟩ .older
      (.ok []) ⟨7, 2, [exampleEntry 3], true⟩ := answered List.prefix_rfl rfl
  have appended : Called [exampleEntry 3] [exampleEntry 3, exampleEntry 5]
      ⟨7, 2, [exampleEntry 3], true⟩ .newer (.ok [exampleEntry 5])
      ⟨7, 2, [exampleEntry 3, exampleEntry 5], true⟩ := answered ⟨[exampleEntry 5], rfl⟩ rfl
  have reached : Reached 7 2 [exampleEntry 3] ⟨7, 2, [exampleEntry 3], true⟩ :=
    (((Reached.start single).called single newest).called single oldest).called single refused
  obtain ⟨inLog, ascending, start, -⟩ := reached.gapless_after_call both appended
  exact ⟨reached, appended, inLog, ascending, start rfl⟩

end LogFeed

end Statute
