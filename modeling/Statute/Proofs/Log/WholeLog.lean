import Mathlib.Data.List.Basic
import Statute.Proofs.Log.Bursts

/-!
# Going through a whole log

A backend that holds a log answers every request for a page of it, and nothing is appended
meanwhile. Calls for older entries then bring what stands before the newest page, one page after the
other, and calls for newer entries what stands behind a part of the log. Each page has entries until
there are none left, so that there are no more pages than entries, and the first page without any
ends the way through the log.
-/

namespace Statute

namespace Session

variable {σ α β : Type} {environment : Environment σ}

/-- What follows a session is run from where the session ended. -/
theorem run_bind (session : Session α) (next : α → Session β) (transcript : Transcript)
    (state : σ) : (session >>= next).run environment transcript state =
      let (value, transcript, state) := session.run environment transcript state
      (next value).run environment transcript state := by
  simp only [bind]
  induction session generalizing transcript state with
  | done value => rfl
  | ask request _ inductionHypothesis => exact inductionHypothesis _ _ _
  | askBoth first second _ inductionHypothesis => exact inductionHypothesis _ _ _
  | write text _ inductionHypothesis => exact inductionHypothesis _ _
  | report text _ inductionHypothesis => exact inductionHypothesis _ _
  | readFile path _ inductionHypothesis => exact inductionHypothesis _ _ _
  | clock _ inductionHypothesis => exact inductionHypothesis _ _ _

end Session

/-- What a feed knows about its start when a call has brought nothing. -/
def FeedStep.afterNothing (reachedStart : Bool) : FeedStep → Bool
  | .older => true
  | .initial | .newer => reachedStart

namespace LogFeed

/-- Calls of a feed one after the other, with the outcome of each. -/
def performAll (feed : LogFeed) :
    List FeedStep → Session (List (Except BackendError (List LogEntry)) × LogFeed)
  | [] => return ([], feed)
  | step :: steps => do
    let (outcome, feed) ← feed.perform step
    let (outcomes, feed) ← feed.performAll steps
    return (outcome :: outcomes, feed)

/-- In the environment a backend holds a log of the fragment and answers every request for a page of
it with this page. -/
def Answers {σ : Type} (environment : Session.Environment σ) (fragment : FragmentId)
    (log : List LogEntry) : Prop :=
  ∀ page state, (environment.answer (.logPage fragment page) state).1 = .ok (pageOf log page)

/-- What a call tells when it is answered with a page of the log, and the feed afterwards. -/
def answered (log : List LogEntry) (feed : LogFeed) (step : FeedStep) : List LogEntry × LogFeed :=
  match feed.pageQuery? step with
  | none => ([], feed)
  | some page => feed.accept step (pageOf log page)

/-- What calls one after the other tell when all of them are answered. -/
def answeredAll (log : List LogEntry) (feed : LogFeed) :
    List FeedStep → List (List LogEntry) × LogFeed
  | [] => ([], feed)
  | step :: steps =>
    let (added, feed) := feed.answered log step
    let (others, feed) := feed.answeredAll log steps
    (added :: others, feed)

/-- A feed with pages of some size that holds entries. -/
def holding (fragment : FragmentId) (limit : Nat) (entries : List LogEntry)
    (reachedStart : Bool) : LogFeed :=
  { empty fragment limit with entries, reachedStart }

variable {fragment : FragmentId} {limit : Nat} {log before held behind : List LogEntry}
  {reached : Bool}

/-! ## Calls that are answered -/

@[simp] theorem fragment_answered (feed : LogFeed) (step : FeedStep) :
    (feed.answered log step).2.fragment = feed.fragment := by
  unfold answered
  split
  next => rfl
  next page _ =>
    obtain ⟨_, _, same⟩ := feed.exists_accept_eq step (pageOf log page)
    rw [same]

section Runs

variable {σ : Type} {environment : Session.Environment σ}

/-- A call is answered. -/
theorem run_perform {feed : LogFeed} (answers : Answers environment feed.fragment log)
    (step : FeedStep) (transcript : Session.Transcript) (state : σ) :
    ((feed.perform step).run environment transcript state).1 =
      (.ok (feed.answered log step).1, (feed.answered log step).2) := by
  unfold perform answered
  cases feed.pageQuery? step with
  | none => rfl
  | some page =>
    have answer := answers page state
    rcases outcome : environment.answer (.logPage feed.fragment page) state with ⟨_, later⟩
    simp only [outcome] at answer
    obtain rfl := answer
    simp only [bind, Session.bind, Session.outcomeOf, Session.run, outcome]
    rfl

/-- All calls are answered. -/
theorem run_performAll {feed : LogFeed} (answers : Answers environment feed.fragment log)
    (steps : List FeedStep) (transcript : Session.Transcript) (state : σ) :
    ((feed.performAll steps).run environment transcript state).1 =
      ((feed.answeredAll log steps).1.map .ok, (feed.answeredAll log steps).2) := by
  induction steps generalizing feed transcript state with
  | nil => rfl
  | cons step steps inductionHypothesis =>
    have first := run_perform answers step transcript state
    have stillAnswers : Answers environment (feed.answered log step).2.fragment log := by
      rwa [fragment_answered]
    rcases ran : (feed.perform step).run environment transcript state with
      ⟨outcome, transcript, state⟩
    simp only [ran] at first
    obtain rfl := first
    have others := inductionHypothesis stillAnswers transcript state
    rcases ranAll : ((feed.answered log step).2.performAll steps).run environment transcript state
      with ⟨outcomes, transcript, state⟩
    simp only [ranAll] at others
    obtain rfl := others
    simp only [performAll, Session.run_bind, ran, ranAll, answeredAll]
    rfl

end Runs

/-! ## What one call brings -/

/-- A first call brings the newest page, whatever the feed held. Pages have room for one entry at
least. -/
theorem answered_initial (log held : List LogEntry) (reached : Bool) :
    (holding fragment limit held reached).answered log .initial =
      (newest (max limit 1) log, holding fragment limit (newest (max limit 1) log) false) := by
  simp [answered, pageQuery?, accept, begin, holding, empty, pageOf_newest, newest]

/-- A feed without entries begins anew when it is asked for newer ones. -/
theorem answered_newer_nil (log : List LogEntry) (reached : Bool) :
    (holding fragment limit [] reached).answered log .newer =
      (newest (max limit 1) log, holding fragment limit (newest (max limit 1) log) false) := by
  simp [answered, pageQuery?, accept, begin, holding, empty, pageOf_newest, newest]

/-- A call for newer entries brings the first ones behind those that the feed holds. -/
theorem answered_newer (ascending : Ascending (before ++ (held ++ behind))) (nonempty : held ≠ []) :
    (holding fragment limit held reached).answered (before ++ (held ++ behind)) .newer =
      (behind.take (max limit 1),
        holding fragment limit (held ++ behind.take (max limit 1)) reached) := by
  obtain ⟨last, isLast⟩ := Option.ne_none_iff_exists'.mp (mt List.getLast?_eq_none_iff.mp nonempty)
  have isLastSoFar : (before ++ held).getLast? = some last := by
    rw [List.getLast?_append, isLast, Option.some_or]
  rw [← List.append_assoc] at ascending ⊢
  obtain ⟨page, kept⟩ := pageOf_behind ascending isLastSoFar (max limit 1)
  simp only [answered, pageQuery?, accept, holding, empty, isLast, page, kept]

/-- A call for older entries brings the last ones before those that the feed holds. The feed knows
the start of the log when there are none. -/
theorem answered_older (ascending : Ascending (before ++ (held ++ behind))) (nonempty : held ≠ []) :
    (holding fragment limit held reached).answered (before ++ (held ++ behind)) .older =
      (newest (max limit 1) before,
        holding fragment limit (newest (max limit 1) before ++ held)
          (if newest (max limit 1) before = [] then true else reached)) := by
  obtain ⟨first, others, rfl⟩ := List.exists_cons_of_ne_nil nonempty
  have isFirst : (first :: others ++ behind).head? = some first := rfl
  obtain ⟨page, kept⟩ := pageOf_before ascending isFirst (max limit 1)
  simp only [answered, pageQuery?, accept, holding, empty, List.head?_cons, Option.map_some, page,
    kept, List.reverse_reverse, List.isEmpty_iff]
  rw [← newest]
  split
  next nothing => rw [nothing, List.nil_append]
  next => rfl

/-! ## Calls until nothing is missing -/

/-- Calls bring what is missing from a feed: each of them a page, which has entries as long as there
are any left. -/
def BringsMissing (fragment : FragmentId) (limit : Nat) (log : List LogEntry) (step : FeedStep)
    (Lacks : List LogEntry → List LogEntry → Prop) : Prop :=
  ∀ held missing, Lacks held missing → ∃ page rest,
    (∀ reached, (holding fragment limit held reached).answered log step =
      (page, holding fragment limit (step.extended held page)
        (if page = [] then step.afterNothing reached else reached))) ∧
    Lacks (step.extended held page) rest ∧ page.length + rest.length = missing.length ∧
    (page = [] → missing = [])

/-- Calls for older entries bring what stands before those that a feed holds. -/
theorem bringsMissing_older (fragment : FragmentId) (limit : Nat) (ascending : Ascending log)
    (behind : List LogEntry) :
    BringsMissing fragment limit log .older fun held missing =>
      held ≠ [] ∧ log = missing ++ (held ++ behind) := by
  rintro held missing ⟨nonempty, rfl⟩
  refine ⟨newest (max limit 1) missing, olderThanNewest (max limit 1) missing,
    fun reached => answered_older ascending nonempty, ⟨?_, ?_⟩, ?_, ?_⟩
  · exact List.append_ne_nil_of_right_ne_nil _ nonempty
  · rw [FeedStep.extended, List.append_assoc, ← List.append_assoc (olderThanNewest _ _),
      olderThanNewest_append_newest]
  · rw [Nat.add_comm, ← List.length_append, olderThanNewest_append_newest]
  · exact (newest_eq_nil_iff (by omega)).mp

/-- Calls for newer entries bring what stands behind those that a feed holds. -/
theorem bringsMissing_newer (fragment : FragmentId) (limit : Nat) (ascending : Ascending log)
    (before : List LogEntry) :
    BringsMissing fragment limit log .newer fun held missing =>
      held ≠ [] ∧ log = before ++ (held ++ missing) := by
  rintro held missing ⟨nonempty, rfl⟩
  refine ⟨missing.take (max limit 1), missing.drop (max limit 1), ?_, ⟨?_, ?_⟩, ?_, ?_⟩
  · intro reached
    rw [answered_newer ascending nonempty, FeedStep.afterNothing, ite_self, FeedStep.extended]
  · exact List.append_ne_nil_of_left_ne_nil nonempty _
  · rw [FeedStep.extended, List.append_assoc, List.take_append_drop]
  · rw [← List.length_append, List.take_append_drop]
  · intro nothing
    rcases List.take_eq_nil_iff.mp nothing with noRoom | nothing
    · omega
    · exact nothing

/-- Repeated calls bring all that is missing, and then an empty page. The induction is on what is
missing. -/
theorem BringsMissing.exists_pages {step : FeedStep} {Lacks : List LogEntry → List LogEntry → Prop}
    (brings : BringsMissing fragment limit log step Lacks) {missing : List LogEntry}
    (lacks : Lacks held missing) :
    ∃ pages : List (List LogEntry), (∀ page ∈ pages, page ≠ []) ∧ pages.length ≤ missing.length ∧
      Lacks ((pages ++ [[]]).foldl (step.extended · ·) held) [] ∧
      ∀ count ≤ pages.length + 1, ∀ reached,
        (holding fragment limit held reached).answeredAll log (List.replicate count step) =
          ((pages ++ [[]]).take count,
            holding fragment limit (((pages ++ [[]]).take count).foldl (step.extended · ·) held)
              (if count = pages.length + 1 then step.afterNothing reached else reached)) := by
  induction length : missing.length using Nat.strongRecOn generalizing held missing with
  | _ length inductionHypothesis =>
    obtain ⟨page, rest, answer, lacksLater, lengths, last⟩ := brings held missing lacks
    by_cases nothing : page = []
    · -- Nothing was missing, and this call is the one that says so.
      obtain rfl := last nothing
      obtain ⟨rfl, rfl⟩ : page = [] ∧ rest = [] := by simpa using lengths
      refine ⟨[], by simp, by simp, lacksLater, fun count bounded reached => ?_⟩
      rcases Nat.le_one_iff_eq_zero_or_eq_one.mp bounded with rfl | rfl
      · simp [answeredAll]
      · simp [answeredAll, answer]
    · have gains := List.length_pos_iff.mpr nothing
      obtain ⟨pages, filled, bounded, complete, runs⟩ :=
        inductionHypothesis _ (by omega) lacksLater rfl
      refine ⟨page :: pages, List.forall_mem_cons.mpr ⟨nothing, filled⟩, ?_, complete, ?_⟩
      · rw [List.length_cons]
        omega
      · intro count within reached
        cases count with
        | zero => simp [answeredAll]
        | succ count =>
          have later := runs count (Nat.le_of_succ_le_succ within) reached
          simp [List.replicate_succ, answeredAll, answer, nothing, later]

/-- Pages of older entries are put in front, each before the one that came earlier. -/
theorem foldl_extended_older (pages : List (List LogEntry)) (held : List LogEntry) :
    pages.foldl (FeedStep.older.extended · ·) held = pages.reverse.flatten ++ held := by
  induction pages generalizing held with
  | nil => rfl
  | cons page pages inductionHypothesis =>
    rw [List.foldl_cons, inductionHypothesis]
    simp [FeedStep.extended]

/-- Pages of newer entries are put behind, one after the other. -/
theorem foldl_extended_newer (pages : List (List LogEntry)) (held : List LogEntry) :
    pages.foldl (FeedStep.newer.extended · ·) held = held ++ pages.flatten := by
  induction pages generalizing held with
  | nil => simp
  | cons page pages inductionHypothesis =>
    rw [List.foldl_cons, inductionHypothesis]
    simp [FeedStep.extended]

/-- The newest page and then calls for older entries go through the log from its end to its start.
What the feed holds is what they have told, and it knows that it has reached the start when a call
tells nothing. -/
theorem exists_pages_of_initial (nonempty : log ≠ []) (ascending : Ascending log) :
    ∃ pages : List (List LogEntry), (∀ page ∈ pages, page ≠ []) ∧ pages.length ≤ log.length ∧
      pages.reverse.flatten = log ∧
      ∀ count ≤ pages.length, ∀ held reached,
        (holding fragment limit held reached).answeredAll log
            (.initial :: List.replicate count .older) =
          ((pages ++ [[]]).take (count + 1),
            holding fragment limit ((pages ++ [[]]).take (count + 1)).reverse.flatten
              (decide (count = pages.length))) := by
  have brought : newest (max limit 1) log ≠ [] := mt (newest_eq_nil_iff (by omega)).mp nonempty
  have cut := olderThanNewest_append_newest (max limit 1) log
  have gains := List.length_pos_iff.mpr brought
  have lengths := congrArg List.length cut
  rw [List.length_append] at lengths
  have whole : log = olderThanNewest (max limit 1) log ++ (newest (max limit 1) log ++ []) := by
    rw [List.append_nil, cut]
  obtain ⟨pages, filled, bounded, ⟨-, complete⟩, runs⟩ :=
    (bringsMissing_older fragment limit ascending []).exists_pages ⟨brought, whole⟩
  refine ⟨newest (max limit 1) log :: pages, List.forall_mem_cons.mpr ⟨brought, filled⟩, ?_, ?_, ?_⟩
  · rw [List.length_cons]
    omega
  · rw [foldl_extended_older] at complete
    simpa using complete.symm
  · intro count within held reached
    have later := runs count within false
    rw [foldl_extended_older] at later
    simp [answeredAll, answered_initial, later, FeedStep.afterNothing]

/-- Calls for newer entries go on from the entries that a feed holds to the end of the log. -/
theorem exists_newer_pages (fragment : FragmentId) (limit : Nat) (ascending : Ascending log)
    (nonempty : held ≠ []) (whole : log = before ++ (held ++ behind)) :
    ∃ pages : List (List LogEntry), (∀ page ∈ pages, page ≠ []) ∧ pages.length ≤ behind.length ∧
      log = before ++ (held ++ pages.flatten) ∧
      ∀ count ≤ pages.length + 1, ∀ reached,
        (holding fragment limit held reached).answeredAll log (List.replicate count .newer) =
          ((pages ++ [[]]).take count,
            holding fragment limit (held ++ ((pages ++ [[]]).take count).flatten) reached) := by
  obtain ⟨pages, filled, bounded, ⟨-, complete⟩, runs⟩ :=
    (bringsMissing_newer fragment limit ascending before).exists_pages ⟨nonempty, whole⟩
  refine ⟨pages, filled, bounded, ?_, fun count within reached => ?_⟩
  · rw [foldl_extended_newer] at complete
    simpa using complete
  · rw [runs count within reached, foldl_extended_newer, FeedStep.afterNothing, ite_self]

/-- Calls for newer entries lead from any part of the log to its end. When the feed holds nothing, the
first of them brings the newest page. -/
theorem exists_pages_of_isInfix (nonempty : log ≠ []) (ascending : Ascending log)
    (inLog : held <:+: log) :
    ∃ pages : List (List LogEntry), (∀ page ∈ pages, page ≠ []) ∧ pages.length ≤ log.length ∧
      (held ++ pages.flatten).getLast? = log.getLast? ∧
      ∀ count ≤ pages.length + 1, ∀ reached, ∃ reachedAfter,
        (holding fragment limit held reached).answeredAll log (List.replicate count .newer) =
          ((pages ++ [[]]).take count,
            holding fragment limit (held ++ ((pages ++ [[]]).take count).flatten)
              reachedAfter) := by
  have lastOf {front entries : List LogEntry} (whole : log = front ++ entries)
      (filled : entries ≠ []) : entries.getLast? = log.getLast? := by
    rw [whole, List.getLast?_append_of_ne_nil _ filled]
  -- A feed without entries first gets the newest page, behind which nothing is left in the log.
  by_cases holdsNothing : held = []
  · obtain rfl := holdsNothing
    have brought : newest (max limit 1) log ≠ [] := mt (newest_eq_nil_iff (by omega)).mp nonempty
    have whole : log = olderThanNewest (max limit 1) log ++ (newest (max limit 1) log ++ []) := by
      rw [List.append_nil, olderThanNewest_append_newest]
    obtain ⟨pages, filled, bounded, complete, runs⟩ :=
      exists_newer_pages fragment limit ascending brought whole
    have entries : 0 < log.length := List.length_pos_iff.mpr nonempty
    refine ⟨newest (max limit 1) log :: pages, List.forall_mem_cons.mpr ⟨brought, filled⟩, ?_,
      lastOf complete (by simp [brought]), fun count within reached => ?_⟩
    · rw [List.length_nil] at bounded
      rw [List.length_cons]
      omega
    · cases count with
      | zero => exact ⟨reached, by simp [answeredAll]⟩
      | succ count =>
        have later := runs count (Nat.le_of_succ_le_succ within) false
        refine ⟨false, ?_⟩
        simp [List.replicate_succ, answeredAll, answered_newer_nil, later]
  · obtain ⟨before, behind, whole⟩ := inLog
    rw [List.append_assoc] at whole
    obtain ⟨pages, filled, bounded, complete, runs⟩ :=
      exists_newer_pages fragment limit ascending holdsNothing whole.symm
    have lengths := congrArg List.length whole
    simp only [List.length_append] at lengths
    refine ⟨pages, filled, by omega, lastOf complete (by simp [holdsNothing]), ?_⟩
    exact fun count within reached => ⟨reached, runs count within reached⟩

/-- Paging reaches the whole log. A backend holds a log with entries and answers every request for a
page of it. After an initial load of a feed, whatever it held before, each call for older entries
tells some, until one tells none: by then there were no more of these calls than the log has
entries, the feed holds exactly the log, and only then it knows that it has reached the start. When
a feed holds a part of the log, each call for newer entries tells some until one tells none, and
then the last entry of the feed is that of the log. A feed always holds what its calls have told in
addition to what it held. -/
theorem paging_reaches_whole_log {σ : Type} {environment : Session.Environment σ} (limit : Nat)
    (nonempty : log ≠ []) (ascending : Ascending log)
    (answers : Answers environment fragment log) :
    (∃ pages : List (List LogEntry), (∀ page ∈ pages, page ≠ []) ∧ pages.length ≤ log.length ∧
      pages.reverse.flatten = log ∧
      ∀ count ≤ pages.length, ∀ held reached transcript state,
        (((holding fragment limit held reached).performAll
            (.initial :: List.replicate count .older)).run environment transcript state).1 =
          (((pages ++ [[]]).take (count + 1)).map .ok,
            holding fragment limit ((pages ++ [[]]).take (count + 1)).reverse.flatten
              (decide (count = pages.length)))) ∧
    ∀ held, held <:+: log →
      ∃ pages : List (List LogEntry), (∀ page ∈ pages, page ≠ []) ∧ pages.length ≤ log.length ∧
        (held ++ pages.flatten).getLast? = log.getLast? ∧
        ∀ count ≤ pages.length + 1, ∀ reached transcript state, ∃ reachedAfter,
          (((holding fragment limit held reached).performAll
              (List.replicate count .newer)).run environment transcript state).1 =
            (((pages ++ [[]]).take count).map .ok,
              holding fragment limit (held ++ ((pages ++ [[]]).take count).flatten)
                reachedAfter) := by
  have runs (held : List LogEntry) (reached : Bool) (steps : List FeedStep)
      (transcript : Session.Transcript) (state : σ) :=
    @run_performAll log σ environment (holding fragment limit held reached) answers steps transcript
      state
  constructor
  · obtain ⟨pages, filled, bounded, covers, tells⟩ := exists_pages_of_initial nonempty ascending
    refine ⟨pages, filled, bounded, covers, fun count within held reached transcript state => ?_⟩
    rw [runs, tells count within]
  · intro held inLog
    obtain ⟨pages, filled, bounded, last, tells⟩ :=
      exists_pages_of_isInfix nonempty ascending inLog
    refine ⟨pages, filled, bounded, last, fun count within reached transcript state => ?_⟩
    obtain ⟨reachedAfter, told⟩ := tells count within reached
    exact ⟨reachedAfter, by rw [runs, told]⟩

/-- Three entries. -/
def exampleLog : List LogEntry :=
  [exampleEntry 3, exampleEntry 5, exampleEntry 7]

/-- With a limit of nothing, which counts as one, no more than three calls for older entries find the
start of the three entries, and no more than four calls for newer ones lead from the second of them
to the last and tell nothing then. -/
theorem exampleLog_reached :
    exampleLog ≠ [] ∧ Ascending exampleLog ∧
      Answers (exampleBackend (some exampleLog)) 7 exampleLog ∧
      [exampleEntry 5] <:+: exampleLog ∧
      (∃ count ≤ 3, (((empty 7 0).performAll (.initial :: List.replicate count .older)).run
        (exampleBackend (some exampleLog)) ⟨"", ""⟩ ()).1.2 = ⟨7, 1, exampleLog, true⟩) ∧
      ∃ count ≤ 4, ∃ told, ∃ after : LogFeed,
        (((holding 7 0 [exampleEntry 5] false).performAll (List.replicate count .newer)).run
          (exampleBackend (some exampleLog)) ⟨"", ""⟩ ()).1 = (told ++ [.ok []], after) ∧
        after.entries.getLast? = some (exampleEntry 7) := by
  have nonempty : exampleLog ≠ [] := by decide
  have ascending : Ascending exampleLog := by decide
  have answers : Answers (exampleBackend (some exampleLog)) 7 exampleLog := fun _ _ => rfl
  have inLog : [exampleEntry 5] <:+: exampleLog := by decide
  obtain ⟨⟨older, -, fewOlder, covers, runsOlder⟩, fromParts⟩ :=
    paging_reaches_whole_log 0 nonempty ascending answers
  obtain ⟨newer, -, fewNewer, last, runsNewer⟩ := fromParts _ inLog
  refine ⟨nonempty, ascending, answers, inLog, ⟨older.length, fewOlder, ?_⟩,
    newer.length + 1, Nat.succ_le_succ fewNewer, newer.map .ok, ?_⟩
  · have ran := runsOlder older.length (Nat.le_refl _) [] false ⟨"", ""⟩ ()
    rw [List.take_of_length_le (by simp)] at ran
    refine (congrArg Prod.snd ran).trans ?_
    simp [covers, holding, empty]
  · obtain ⟨reached, ran⟩ := runsNewer (newer.length + 1) (Nat.le_refl _) false ⟨"", ""⟩ ()
    rw [List.take_of_length_le (by simp), List.map_append] at ran
    refine ⟨_, ran, ?_⟩
    rw [List.flatten_concat, List.append_nil]
    exact last

end LogFeed

end Statute
