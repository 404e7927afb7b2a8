import Statute.Regulation.Atom

/-!
# The emphasized atom

A signal that everything which shows atoms reads and writes: the atom that is emphasized at the
moment, if any. The last write wins. Each write that alters the value begins a new version; a
subscription remembers the version that it has seen, and is told about a later one once.
-/

namespace Statute.Hover

/-- The emphasized atom, and how many times it has been altered. -/
structure Signal where
  current : Option AtomId
  version : Nat
deriving DecidableEq

/-- What a reader of the signal has seen of it. -/
structure Subscription where
  seen : Nat
deriving DecidableEq

/-- What a subscription is told when it is asked for a change. -/
inductive Notice where
  /-- The value was altered since the subscription last heard of it. -/
  | changed (value : Option AtomId)
  /-- Nothing new, and somebody can still write. -/
  | pending
  /-- Nothing new, and nobody is left who could write. -/
  | closed
deriving DecidableEq

namespace Signal

/-- No atom is emphasized. -/
def initial : Signal := ⟨none, 0⟩

/-- Emphasizes an atom, or none. Writing the present value alters nothing. -/
def set (signal : Signal) (value : Option AtomId) : Signal :=
  if signal.current = value then signal else ⟨value, signal.version + 1⟩

/-- A signal has the value that was written last. -/
theorem current_set (signal : Signal) (value : Option AtomId) :
    (signal.set value).current = value := by
  rw [set]
  split
  next same => exact same
  next => rfl

/-- Only a write of another value begins a later version. -/
theorem version_set (signal : Signal) (value : Option AtomId) :
    (signal.set value).version =
      if signal.current = value then signal.version else signal.version + 1 := by
  rw [set, apply_ite Signal.version]

/-- A write does nothing, or begins a later version. -/
theorem set_eq_or_later (signal : Signal) (value : Option AtomId) :
    signal.set value = signal ∨ signal.version < (signal.set value).version := by
  rw [set]
  split
  next => exact .inl rfl
  next => exact .inr (Nat.lt_succ_self _)

/-- Emphasizes no atom. -/
def clear (signal : Signal) : Signal :=
  signal.set none

/-- The atom is the emphasized one. -/
def isHovered (signal : Signal) (atomId : AtomId) : Bool :=
  signal.current == some atomId

/-- A subscription that has seen everything so far. -/
def subscribe (signal : Signal) : Subscription := ⟨signal.version⟩

/-- There is a version that the subscription has not seen. -/
def hasNews (signal : Signal) (subscription : Subscription) : Bool :=
  subscription.seen != signal.version

/-- Asks for a change once. Being told of one counts as having seen it. -/
def poll (signal : Signal) (hasWriters : Bool) (subscription : Subscription) :
    Notice × Subscription :=
  if signal.hasNews subscription then (.changed signal.current, ⟨signal.version⟩)
  else (if hasWriters then .pending else .closed, subscription)

end Signal

end Statute.Hover
