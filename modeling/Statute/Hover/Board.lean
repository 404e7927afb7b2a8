import Statute.Hover.Signal

/-!
# Handles and subscriptions by name

One signal with the handles that can write it and the subscriptions that follow it, each under a
name. A name that is given again belongs to the newer one. The signal is closed when no handle is
left; subscriptions can still read its last value.
-/

namespace Statute.Hover

/-- A signal with its named handles and subscriptions. -/
structure Board where
  signal : Signal
  handles : List String
  subscriptions : List (String × Subscription)
deriving DecidableEq

/-- What is done through a handle. -/
inductive HandleAction where
  | set (value : Option AtomId)
  | clear
  | clone (name : String)
  | subscribe (name : String)
  | drop
  | current
  | isHovered (atomId : AtomId)
deriving DecidableEq

/-- What is done with a subscription. -/
inductive SubscriptionAction where
  | changed
  | current
  | clone (name : String)
deriving DecidableEq

/-- What an action answers. -/
inductive Reply where
  | done
  | value (value : Option AtomId)
  | truth (value : Bool)
  | notice (notice : Notice)
  | noSuchName
deriving DecidableEq

namespace Board

/-- A fresh signal with one handle. -/
def withHandle (name : String) : Board := ⟨.initial, [name], []⟩

/-- With a subscription under a name. -/
def putSubscription (board : Board) (name : String) (subscription : Subscription) : Board :=
  { board with
    subscriptions := (name, subscription) :: board.subscriptions.filter fun (other, _) =>
      other ≠ name }

/-- Acts through a handle. -/
def useHandle (board : Board) (handle : String) (action : HandleAction) : Reply × Board :=
  if !board.handles.contains handle then (.noSuchName, board)
  else
    match action with
    | .set value => (.done, { board with signal := board.signal.set value })
    | .clear => (.done, { board with signal := board.signal.clear })
    | .clone name =>
      (.done, if board.handles.contains name then board
        else { board with handles := board.handles ++ [name] })
    | .subscribe name => (.done, board.putSubscription name board.signal.subscribe)
    | .drop => (.done, { board with handles := board.handles.filter fun other => other ≠ handle })
    | .current => (.value board.signal.current, board)
    | .isHovered atomId => (.truth (board.signal.isHovered atomId), board)

/-- Acts on a subscription. Reading its value does not count as having seen it, and a copy has seen
what the subscription has that it was made of. -/
def useSubscription (board : Board) (name : String) (action : SubscriptionAction) :
    Reply × Board :=
  match board.subscriptions.lookup name with
  | none => (.noSuchName, board)
  | some subscription =>
    match action with
    | .changed =>
      let (notice, subscription) := board.signal.poll (!board.handles.isEmpty) subscription
      (.notice notice, board.putSubscription name subscription)
    | .current => (.value board.signal.current, board)
    | .clone copy => (.done, board.putSubscription copy subscription)

/-- The names of the handles in ascending order. -/
def handleNames (board : Board) : List String :=
  board.handles.mergeSort fun left right => left ≤ right

end Board

end Statute.Hover
