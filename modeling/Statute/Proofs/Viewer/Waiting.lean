import Statute.Viewer.LongPoll

/-!
# No change is slept through

A wait subscribes, looks, sleeps and reads, and others write the signal between any two of these
steps. While it sleeps, the emphasized atom is the known one, or its subscription has news of a later
one. A subscription has seen no more alterations than there were, so news stay news whatever is
written behind them, even if the known atom comes back.
-/

namespace Statute.Viewer.LongPoll

open Statute.Hover

/-- A wait for something other than a known atom, and the signal, after steps of the wait and writes
of others in any order. The time may be up before any step. -/
inductive Reached (known : Option AtomId) : Signal → LongPoll → Prop where
  | start (signal : Signal) : Reached known signal .beginning
  | sets {signal wait} (reached : Reached known signal wait) (value : Option AtomId) :
      Reached known (signal.set value) wait
  | clears {signal wait} (reached : Reached known signal wait) : Reached known signal.clear wait
  | steps {signal wait} (reached : Reached known signal wait) (isTimeUp : Bool) :
      Reached known signal (step known signal isTimeUp wait)

/-- What a wait can rely on: its subscription is not ahead of the signal, and behind it when the atom
changes during the sleep. -/
def IsWatchful (known : Option AtomId) (signal : Signal) : LongPoll → Prop
  | subscribed subscription => subscription.seen ≤ signal.version
  | suspended subscription => subscription.seen ≤ signal.version ∧
      (signal.current = known ∨ subscription.seen < signal.version)
  | beginning | awake | answered _ => True

variable {known : Option AtomId} {signal : Signal} {wait : LongPoll}
  {subscription : Subscription}

/-- A write keeps a wait watchful. It changes nothing, or makes news for every subscription. -/
theorem IsWatchful.set (watchful : IsWatchful known signal wait) (value : Option AtomId) :
    IsWatchful known (signal.set value) wait := by
  rcases signal.set_eq_or_later value with same | later
  · rwa [same]
  · -- A write that alters the value is one that no subscription has seen.
    cases wait with
    | subscribed subscription => exact Nat.le_trans watchful (Nat.le_of_lt later)
    | suspended subscription =>
      have unseen := Nat.lt_of_le_of_lt watchful.1 later
      exact ⟨Nat.le_of_lt unseen, .inr unseen⟩
    | beginning | awake | answered => trivial

/-- A step of the wait keeps it watchful. It falls asleep only when it has looked and found the
known atom. -/
theorem IsWatchful.step (watchful : IsWatchful known signal wait) (isTimeUp : Bool) :
    IsWatchful known signal (step known signal isTimeUp wait) := by
  cases wait with
  | beginning => exact Nat.le_refl signal.version
  | subscribed subscription =>
    rw [LongPoll.step]
    split
    next isKnown => exact ⟨watchful, .inl isKnown⟩
    next => trivial
  | suspended subscription =>
    rw [LongPoll.step]
    split
    next => trivial
    next => exact watchful
  | awake | answered => trivial

/-- By induction every wait is watchful, whatever is written between its steps. -/
theorem Reached.isWatchful (reached : Reached known signal wait) : IsWatchful known signal wait := by
  induction reached with
  | start => trivial
  | sets _ value inductionHypothesis => exact inductionHypothesis.set value
  | clears _ inductionHypothesis => exact inductionHypothesis.set none
  | steps _ isTimeUp inductionHypothesis => exact inductionHypothesis.step isTimeUp

/-- News stay news. -/
theorem behind_of_writes (behind : subscription.seen < signal.version)
    (values : List (Option AtomId)) :
    subscription.seen < (values.foldl Signal.set signal).version := by
  induction values generalizing signal with
  | nil => exact behind
  | cons value values inductionHypothesis =>
    refine inductionHypothesis ?_
    rcases signal.set_eq_or_later value with same | later
    · rwa [same]
    · exact Nat.lt_trans behind later

/-- A subscription that has seen fewer alterations than there were has news. -/
theorem hasNews_of_behind (behind : subscription.seen < signal.version) :
    signal.hasNews subscription :=
  bne_iff_ne.mpr (Nat.ne_of_lt behind)

/-- Whenever a wait is asleep, the emphasized atom is the known one or its subscription has news. With
news its next step wakes it up before the time is up, whatever others write until then. -/
theorem Reached.sleeps_through_no_change
    (reached : Reached known signal (.suspended subscription)) :
    (signal.current = known ∨ signal.hasNews subscription) ∧
      (signal.hasNews subscription → ∀ values : List (Option AtomId),
        LongPoll.step known (values.foldl Signal.set signal) false (.suspended subscription) =
          .awake) := by
  obtain ⟨notAhead, isKnownOrBehind⟩ := reached.isWatchful
  refine ⟨isKnownOrBehind.imp_right hasNews_of_behind, fun news values => ?_⟩
  have behind : subscription.seen < signal.version :=
    Nat.lt_of_le_of_ne notAhead (bne_iff_ne.mp news)
  rw [LongPoll.step, hasNews_of_behind (behind_of_writes behind values)]
  rfl

/-- Another atom is emphasized between the look and the sleep, and the known one again. -/
theorem exampleFlicker_wakes :
    let signal : Signal := [some 7, none].foldl Signal.set .initial
    Reached none signal (.suspended ⟨0⟩) ∧ signal.current = none ∧ signal.hasNews ⟨0⟩ ∧
      LongPoll.step none (signal.set (some 7)) false (.suspended ⟨0⟩) = .awake := by
  intro signal
  have asleep : Reached none .initial (.suspended ⟨0⟩) :=
    ((Reached.start .initial).steps false).steps false
  have reached : Reached none signal (.suspended ⟨0⟩) := (asleep.sets (some 7)).clears
  have news : signal.hasNews ⟨0⟩ := by decide
  exact ⟨reached, rfl, news, reached.sleeps_through_no_change.2 news [some 7]⟩

end Statute.Viewer.LongPoll
