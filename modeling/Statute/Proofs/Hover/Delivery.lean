import Mathlib.Data.List.Infix
import Statute.Hover.Board
import Statute.Proofs.Entries

/-!
# Every change is delivered

What happens on a board is a history of actions with their answers. A subscription knows the part of
the history that was over when it was made or when it was last told of a change; a copy knows what
its original knew. The signal counts how often it was altered, and a subscription remembers a count.
`Board.Reached.accounts` says that these counts stand for histories, and so a comparison of two
counts finds out whether the value was altered behind what a subscription knows.
-/

namespace Statute.Hover

/-- Something that is done through a handle or with a subscription. -/
inductive Action where
  | handle (name : String) (action : HandleAction)
  | subscription (name : String) (action : SubscriptionAction)

/-- An action with the answer that it got. -/
abbrev Event := Action × Reply

namespace Board

/-- Does something, and answers. -/
def act (board : Board) : Action → Reply × Board
  | .handle name action => board.useHandle name action
  | .subscription name action => board.useSubscription name action

/-- A board that began with one handle, and what has happened on it, the latest first. -/
inductive Reached (first : String) : List Event → Board → Prop where
  | start : Reached first [] (.withHandle first)
  | acts {history board} (reached : Reached first history board) (action : Action) :
      Reached first ((action, (board.act action).1) :: history) (board.act action).2

end Board

/-! ## Histories -/

/-- The value that an event writes. -/
def Event.written? : Event → Option (Option AtomId)
  | (.handle _ (.set value), .done) => some value
  | (.handle _ .clear, .done) => some none
  | _ => none

/-- The value of the last write of a history, the latest event of which comes first. -/
def lastWritten : List Event → Option AtomId
  | [] => none
  | event :: earlier => event.written?.getD (lastWritten earlier)

/-- An event writes a value that is not the present one. -/
def Event.Alters (event : Event) (earlier : List Event) : Prop :=
  ∃ value ∈ event.written?, value ≠ lastWritten earlier

instance (event : Event) (earlier : List Event) : Decidable (event.Alters earlier) :=
  inferInstanceAs (Decidable (∃ value ∈ event.written?, value ≠ lastWritten earlier))

/-- A handle is left: it is the first one or was cloned, and has not been dropped since. -/
def IsLeft (first name : String) : List Event → Prop
  | [] => name = first
  | (.handle _ (.clone other), .done) :: earlier => name = other ∨ IsLeft first name earlier
  | (.handle other .drop, .done) :: earlier => name ≠ other ∧ IsLeft first name earlier
  | _ :: earlier => IsLeft first name earlier

/-- The part of a history that a subscription knows, if there is such a subscription. -/
def known? (name : String) : List Event → Option (List Event)
  | [] => none
  | event :: earlier =>
    match event with
    | (.handle _ (.subscribe other), .done) | (.subscription other .changed, .notice (.changed _)) =>
      if name = other then some (event :: earlier) else known? name earlier
    | (.subscription original (.clone other), .done) =>
      if name = other then known? original earlier else known? name earlier
    | _ => known? name earlier

/-- The value was altered behind what a subscription knows. -/
def HasMissed (name : String) (history : List Event) : Prop :=
  ∃ seen event older, known? name history = some seen ∧ event :: older <:+ history ∧
    seen <:+ older ∧ event.Alters older

/-! ## Counting alterations -/

/-- How often the value was altered. -/
def alterations : List Event → Nat
  | [] => 0
  | event :: earlier =>
    if event.Alters earlier then alterations earlier + 1 else alterations earlier

variable {event : Event} {earlier history seen : List Event} {value : Option AtomId}

/-- An event that writes nothing leaves the last written value as it was. -/
theorem lastWritten_of_silent (silent : event.written? = none) :
    lastWritten (event :: earlier) = lastWritten earlier := by
  rw [lastWritten, silent, Option.getD_none]

/-- An event that writes nothing is no alteration. -/
theorem alterations_of_silent (silent : event.written? = none) :
    alterations (event :: earlier) = alterations earlier := by
  rw [alterations, if_neg]
  rintro ⟨value, writes, -⟩
  exact nomatch silent.symm.trans writes

/-- A write is one alteration more exactly when it writes another value than the last one. -/
theorem alterations_of_write (writes : event.written? = some value) :
    alterations (event :: earlier) =
      if lastWritten earlier = value then alterations earlier else alterations earlier + 1 := by
  have alters : event.Alters earlier ↔ ¬ lastWritten earlier = value := by
    rw [Event.Alters, writes]
    simp [eq_comm]
  simp only [alterations, alters, ite_not]

/-- Alterations are never counted back. -/
theorem alterations_le_cons : alterations earlier ≤ alterations (event :: earlier) := by
  rw [alterations]
  split
  next => exact Nat.le_succ _
  next => exact Nat.le_refl _

/-- A part of a history counts at most as many alterations as the whole. -/
theorem alterations_le (behind : seen <:+ history) : alterations seen ≤ alterations history := by
  induction history with
  | nil => rw [List.suffix_nil.mp behind]
  | cons event earlier inductionHypothesis =>
    rcases List.suffix_cons_iff.mp behind with rfl | behind
    · exact Nat.le_refl _
    · exact (inductionHypothesis behind).trans alterations_le_cons

/-- A part of a history counts fewer alterations exactly when there was one behind it. -/
theorem alterations_ne_iff (behind : seen <:+ history) :
    alterations seen ≠ alterations history ↔
      ∃ event older, event :: older <:+ history ∧ seen <:+ older ∧ event.Alters older := by
  induction history with
  | nil =>
    obtain rfl := List.suffix_nil.mp behind
    simp
  | cons latest earlier inductionHypothesis =>
    rcases List.suffix_cons_iff.mp behind with rfl | behind
    · -- Nothing happened behind a whole history.
      refine iff_of_false (fun differs => differs rfl) ?_
      rintro ⟨event, older, within, whole, -⟩
      have lengths := within.length_le.trans whole.length_le
      exact absurd lengths (Nat.not_succ_le_self _)
    · by_cases alters : latest.Alters earlier
      · have fewer := alterations_le behind
        refine iff_of_true ?_ ⟨latest, earlier, List.suffix_rfl, behind, alters⟩
        rw [alterations, if_pos alters]
        omega
      · rw [alterations, if_neg alters, inductionHypothesis behind]
        refine exists_congr fun event => exists_congr fun older => and_congr_left fun ⟨_, found⟩ => ?_
        rw [List.suffix_cons_iff]
        refine (or_iff_right ?_).symm
        rintro ⟨⟩
        exact alters found

/-! ## Boards -/

/-- A subscription that is put under a name is found there, and the others where they were. -/
theorem Board.lookup_putSubscription (board : Board) (name other : String)
    (subscription : Subscription) :
    (board.putSubscription name subscription).subscriptions.lookup other =
      if other = name then some subscription else board.subscriptions.lookup other :=
  lookup_write name other subscription board.subscriptions

/-- The parts of a board stand for what has happened on it. -/
structure Board.Accounts (first : String) (history : List Event) (board : Board) : Prop where
  current : board.signal.current = lastWritten history
  version : board.signal.version = alterations history
  handles : ∀ name, name ∈ board.handles ↔ IsLeft first name history
  subscriptions : ∀ name, (board.subscriptions.lookup name).map Subscription.seen =
    (known? name history).map alterations

namespace Board.Accounts

variable {first : String} {board : Board}

/-- The board that begins with one handle stands for the empty history. -/
theorem start (first : String) : Accounts first [] (.withHandle first) where
  current := rfl
  version := rfl
  handles _ := List.mem_singleton
  subscriptions _ := rfl

/-- Handles may come and go while nothing is written. -/
theorem withHandles (accounts : Accounts first earlier board)
    (writesNothing : event.written? = none)
    (subscriptions : ∀ name, known? name (event :: earlier) = known? name earlier)
    {handles : List String} (left : ∀ name, name ∈ handles ↔ IsLeft first name (event :: earlier)) :
    Accounts first (event :: earlier) { board with handles } where
  current := (lastWritten_of_silent writesNothing).symm ▸ accounts.current
  version := (alterations_of_silent writesNothing).symm ▸ accounts.version
  handles := left
  subscriptions name := subscriptions name ▸ accounts.subscriptions name

/-- Nothing is written, and handles and subscriptions are as they were. -/
theorem silent (accounts : Accounts first earlier board) (writesNothing : event.written? = none)
    (handles : ∀ name, IsLeft first name (event :: earlier) ↔ IsLeft first name earlier)
    (subscriptions : ∀ name, known? name (event :: earlier) = known? name earlier) :
    Accounts first (event :: earlier) board :=
  accounts.withHandles writesNothing subscriptions fun name =>
    (accounts.handles name).trans (handles name).symm

/-- A write stores the value, and the signal counts it when the history counts it as an alteration.
-/
theorem write (accounts : Accounts first earlier board) (writes : event.written? = some value)
    (handles : ∀ name, IsLeft first name (event :: earlier) ↔ IsLeft first name earlier)
    (subscriptions : ∀ name, known? name (event :: earlier) = known? name earlier) :
    Accounts first (event :: earlier) { board with signal := board.signal.set value } where
  current := by rw [Signal.current_set, lastWritten, writes, Option.getD_some]
  version := by
    rw [Signal.version_set, alterations_of_write writes, accounts.current, accounts.version]
  handles name := (accounts.handles name).trans (handles name).symm
  subscriptions name := subscriptions name ▸ accounts.subscriptions name

/-- A subscription that has seen a part of the history is given a name. -/
theorem named (accounts : Accounts first earlier board) (writesNothing : event.written? = none)
    (handles : ∀ name, IsLeft first name (event :: earlier) ↔ IsLeft first name earlier)
    {name : String} {subscription : Subscription} {part : List Event}
    (stands : subscription.seen = alterations part)
    (subscriptions : ∀ other, known? other (event :: earlier) =
      if other = name then some part else known? other earlier) :
    Accounts first (event :: earlier) (board.putSubscription name subscription) where
  current := (lastWritten_of_silent writesNothing).symm ▸ accounts.current
  version := (alterations_of_silent writesNothing).symm ▸ accounts.version
  handles name := (accounts.handles name).trans (handles name).symm
  subscriptions other := by
    rw [lookup_putSubscription, subscriptions]
    split
    next => rw [Option.map_some, Option.map_some, stands]
    next => exact accounts.subscriptions other

/-- A subscription that has just seen everything is given a name. -/
theorem upToDate (accounts : Accounts first earlier board) (writesNothing : event.written? = none)
    (handles : ∀ name, IsLeft first name (event :: earlier) ↔ IsLeft first name earlier)
    {name : String} (subscriptions : ∀ other, known? other (event :: earlier) =
      if other = name then some (event :: earlier) else known? other earlier) :
    Accounts first (event :: earlier) (board.putSubscription name board.signal.subscribe) :=
  accounts.named writesNothing handles
    ((alterations_of_silent writesNothing).symm ▸ accounts.version) subscriptions

/-- What is done through a handle keeps the parts of the board in step with the history. A handle
that is not left does nothing. -/
theorem useHandle (accounts : Accounts first history board) (name : String)
    (action : HandleAction) :
    Accounts first ((.handle name action, (board.useHandle name action).1) :: history)
      (board.useHandle name action).2 := by
  rw [Board.useHandle.eq_def]
  split
  next =>
    refine accounts.silent ?_ ?_ ?_ <;> cases action <;> intros <;> rfl
  next =>
    -- A handle that is left. Each action is one event, and the parts that it does not touch stay.
    cases action with
    | set value => exact accounts.write rfl (fun _ => .rfl) fun _ => rfl
    | clear => exact accounts.write rfl (fun _ => .rfl) fun _ => rfl
    | subscribe other => exact accounts.upToDate rfl (fun _ => .rfl) fun _ => rfl
    | current => exact accounts.silent rfl (fun _ => .rfl) fun _ => rfl
    | isHovered atomId => exact accounts.silent rfl (fun _ => .rfl) fun _ => rfl
    | clone other =>
      change Accounts first ((.handle name (.clone other), .done) :: history)
        (if board.handles.contains other then board
          else { board with handles := board.handles ++ [other] })
      split
      next has =>
        refine accounts.withHandles rfl (fun _ => rfl) fun name => ?_
        rw [IsLeft, ← accounts.handles]
        refine (or_iff_right_of_imp ?_).symm
        rintro rfl
        exact List.contains_iff_mem.mp has
      next =>
        refine accounts.withHandles rfl (fun _ => rfl) fun name => ?_
        rw [IsLeft, ← accounts.handles, List.mem_append, List.mem_singleton, or_comm]
    | drop =>
      refine accounts.withHandles rfl (fun _ => rfl) fun other => ?_
      rw [IsLeft, ← accounts.handles, List.mem_filter, decide_eq_true_eq, and_comm]

/-- A subscription has seen as many alterations as there are in what it knows. -/
theorem exists_known (accounts : Accounts first history board) {name : String}
    {subscription : Subscription}
    (found : board.subscriptions.lookup name = some subscription) :
    ∃ part, known? name history = some part ∧ subscription.seen = alterations part := by
  have stands := accounts.subscriptions name
  rw [found, Option.map_some] at stands
  obtain ⟨part, knows, same⟩ := Option.map_eq_some_iff.mp stands.symm
  exact ⟨part, knows, same.symm⟩

/-- What is done with a subscription keeps the parts of the board in step with the history. A
subscription that was not made does nothing. -/
theorem useSubscription (accounts : Accounts first history board) (name : String)
    (action : SubscriptionAction) :
    Accounts first ((.subscription name action, (board.useSubscription name action).1) :: history)
      (board.useSubscription name action).2 := by
  rw [Board.useSubscription.eq_def]
  cases found : board.subscriptions.lookup name with
  | none =>
    refine accounts.silent ?_ ?_ ?_ <;> cases action <;> intros <;> rfl
  | some subscription =>
    obtain ⟨part, knows, stands⟩ := accounts.exists_known found
    cases action with
    | current => exact accounts.silent rfl (fun _ => .rfl) fun _ => rfl
    | clone copy =>
      refine accounts.named rfl (fun _ => .rfl) stands fun other => ?_
      rw [known?, knows]
    | changed =>
      dsimp only
      rw [Signal.poll]
      split
      next => exact accounts.upToDate rfl (fun _ => .rfl) fun _ => rfl
      next =>
        have asBefore : ∀ other, known? other history =
            if other = name then some part else known? other history := by
          intro other
          split
          next same => rw [same, knows]
          next => rfl
        cases board.handles.isEmpty with
        | true => exact accounts.named rfl (fun _ => .rfl) stands asBefore
        | false => exact accounts.named rfl (fun _ => .rfl) stands asBefore

/-- One action keeps the parts of the board in step with the history, which is the step of the
induction over all histories. -/
theorem act (accounts : Accounts first history board) (action : Action) :
    Accounts first ((action, (board.act action).1) :: history) (board.act action).2 := by
  cases action with
  | handle name action => exact accounts.useHandle name action
  | subscription name action => exact accounts.useSubscription name action

end Board.Accounts

/-- The parts of a board stand for its history, whatever has happened. -/
theorem Board.Reached.accounts {first : String} {board : Board}
    (reached : Reached first history board) : Accounts first history board := by
  induction reached with
  | start => exact .start first
  | acts _ action inductionHypothesis => exact inductionHypothesis.act action

/-! ## Notices -/

/-- What a subscription knows happened first. -/
theorem suffix_of_known? {name : String} {part : List Event}
    (knows : known? name history = some part) : part <:+ history := by
  fun_induction known? name history with
  | case1 => cases knows
  | case2 | case4 => exact Option.some.inj knows ▸ List.suffix_rfl
  | case3 | case5 | case6 | case7 | case8 =>
    rename_i inductionHypothesis
    exact (inductionHypothesis knows).trans (List.suffix_cons _ _)

namespace Board.Accounts

variable {first name : String} {board : Board}

/-- A subscription that the history knows is on the board. -/
theorem exists_subscription (accounts : Accounts first history board)
    (made : (known? name history).isSome) :
    ∃ subscription, board.subscriptions.lookup name = some subscription := by
  obtain ⟨part, knows⟩ := Option.isSome_iff_exists.mp made
  have stands := accounts.subscriptions name
  rw [knows, Option.map_some] at stands
  obtain ⟨subscription, found, -⟩ := Option.map_eq_some_iff.mp stands
  exact ⟨subscription, found⟩

/-- A subscription has news when the value was altered behind what it knows. -/
theorem hasNews_iff (accounts : Accounts first history board) {subscription : Subscription}
    (found : board.subscriptions.lookup name = some subscription) :
    board.signal.hasNews subscription ↔ HasMissed name history := by
  obtain ⟨part, knows, stands⟩ := accounts.exists_known found
  rw [Signal.hasNews, bne_iff_ne, stands, accounts.version,
    alterations_ne_iff (suffix_of_known? knows)]
  simp [HasMissed, knows]

/-- Somebody can write as long as a handle is left. -/
theorem hasWriters_iff (accounts : Accounts first history board) :
    (!board.handles.isEmpty) = true ↔ ∃ handle, IsLeft first handle history := by
  rw [Bool.not_eq_true', List.isEmpty_eq_false_iff_exists_mem]
  exact exists_congr accounts.handles

end Board.Accounts

/-- Whatever is done with any number of handles and subscriptions, in any order: each of them that
is there reads the value of the last write through any handle. A subscription that asks for a change
is told of one, with this value, if the value was altered since the subscription was made or was
last told of a change, where a copy begins with what its original knew. Otherwise it is told that
the signal is closed if no handle is left, and to wait if one is. -/
theorem Board.Reached.changes_are_delivered {first : String} {board : Board}
    (reached : Reached first history board) :
    (∀ name, IsLeft first name history →
      (board.useHandle name .current).1 = .value (lastWritten history)) ∧
    (∀ name, (known? name history).isSome →
      (board.useSubscription name .current).1 = .value (lastWritten history)) ∧
    ∀ name, (known? name history).isSome →
      ∃ notice, (board.useSubscription name .changed).1 = .notice notice ∧
        (∀ value, notice = .changed value ↔
          HasMissed name history ∧ value = lastWritten history) ∧
        (notice = .closed ↔
          ¬ HasMissed name history ∧ ∀ handle, ¬ IsLeft first handle history) ∧
        (notice = .pending ↔
          ¬ HasMissed name history ∧ ∃ handle, IsLeft first handle history) := by
  have accounts := reached.accounts
  refine ⟨fun name left => ?_, fun name made => ?_, fun name made => ?_⟩
  · have present := List.contains_iff_mem.mpr ((accounts.handles name).mpr left)
    rw [useHandle, present, accounts.current]
    rfl
  · obtain ⟨subscription, found⟩ := accounts.exists_subscription made
    rw [useSubscription, found, accounts.current]
  · obtain ⟨subscription, found⟩ := accounts.exists_subscription made
    have news := accounts.hasNews_iff found
    have writers := accounts.hasWriters_iff
    have polled : (board.useSubscription name .changed).1 =
        .notice (board.signal.poll (!board.handles.isEmpty) subscription).1 := by
      rw [useSubscription, found]
    refine ⟨_, polled, ?_⟩
    rw [Signal.poll, accounts.current]
    by_cases missed : HasMissed name history
    · rw [if_pos (news.mpr missed)]
      simp [missed, eq_comm]
    · rw [if_neg (mt news.mp missed)]
      by_cases left : ∃ handle, IsLeft first handle history
      · rw [writers.mpr left]
        simp [missed, left]
      · have none : (!board.handles.isEmpty) = false := Bool.eq_false_iff.mpr (mt writers.mp left)
        rw [none]
        simp [missed, not_exists.mp left]

/-- The board that began with one handle after actions, the latest first, and its history. -/
def Board.afterAll (first : String) : List Action → List Event × Board
  | [] => ([], .withHandle first)
  | action :: earlier =>
    let (history, board) := afterAll first earlier
    ((action, (board.act action).1) :: history, (board.act action).2)

/-- The board after actions is one that is reached by them. -/
theorem Board.reached_afterAll (first : String) (actions : List Action) :
    Reached first (afterAll first actions).1 (afterAll first actions).2 := by
  induction actions with
  | nil => exact .start
  | cons action actions inductionHypothesis => exact inductionHypothesis.acts action

/-- An atom is emphasized; a subscription is copied before it is told, and the first handle is
dropped; the same atom is emphasized again at once, and once more after the signal was cleared, of
which the subscription is told. -/
def exampleActions : List Action :=
  [.subscription "s" .changed, .handle "b" (.set (some 5)), .handle "b" .clear,
    .handle "b" (.set (some 5)), .handle "a" .drop, .handle "a" (.clone "b"),
    .subscription "s" .changed, .subscription "s" (.clone "t"), .handle "a" (.set (some 5)),
    .handle "a" (.subscribe "s")]

/-- The copy was told of nothing yet, and the subscription of everything. -/
theorem exampleActions_delivered :
    let history := (Board.afterAll "a" exampleActions).1
    let board := (Board.afterAll "a" exampleActions).2
    board.Reached "a" history ∧
    (IsLeft "a" "b" history ∧ (board.useHandle "b" .current).1 = .value (lastWritten history)) ∧
    ((known? "s" history).isSome ∧ (board.useSubscription "s" .changed).1 = .notice .pending ∧
      ¬ HasMissed "s" history) ∧
    (known? "t" history).isSome ∧
      (board.useSubscription "t" .changed).1 = .notice (.changed (some 5)) ∧
      HasMissed "t" history ∧ some 5 = lastWritten history := by
  intro history board
  have reached : board.Reached "a" history := Board.reached_afterAll "a" exampleActions
  have left : IsLeft "a" "b" history := (reached.accounts.handles "b").mp (by decide +kernel)
  have original : (known? "s" history).isSome := by decide +kernel
  have copy : (known? "t" history).isSome := by decide +kernel
  have waits : (board.useSubscription "s" .changed).1 = .notice .pending := by decide +kernel
  have told : (board.useSubscription "t" .changed).1 = .notice (.changed (some 5)) := by
    decide +kernel
  obtain ⟨current, -, delivered⟩ := reached.changes_are_delivered
  obtain ⟨notice, answered, -, -, pending⟩ := delivered "s" original
  obtain ⟨copyNotice, copyAnswered, changed, -⟩ := delivered "t" copy
  obtain rfl := Reply.notice.inj (waits.symm.trans answered)
  obtain rfl := Reply.notice.inj (told.symm.trans copyAnswered)
  exact ⟨reached, ⟨left, current "b" left⟩, ⟨original, waits, (pending.mp rfl).1⟩, copy, told,
    (changed (some 5)).mp rfl⟩

end Statute.Hover
