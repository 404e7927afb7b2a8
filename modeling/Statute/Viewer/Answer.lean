import Statute.Backend.Session
import Statute.Graph.Build
import Statute.Highlight.Piece
import Statute.Settings.Basic
import Statute.Viewer.GraphView
import Statute.Viewer.LongPoll
import Statute.Viewer.Page
import Statute.Viewer.Visit

/-!
# The viewer

A viewer shows one fragment to any number of browsers. Text and graph are asked of the backend each
time; what the viewer keeps is the emphasized atom, which all browsers share.
-/

namespace Statute

/-- A viewer of a fragment. -/
structure Viewer where
  fragment : FragmentId
  title : String
  overlapPolicy : Highlight.OverlapPolicy
  graph : GraphSettings
  hover : Hover.Signal
deriving DecidableEq

namespace Viewer

/-- What is sent in an answer. -/
inductive Content where
  | nothing
  | markup (text : String)
  | data (json : Json)

/-- An answer to a browser. -/
structure Answer where
  status : Nat
  content : Content

/-- An answer of data. -/
def Answer.ofData (json : Json) : Answer := ⟨200, .data json⟩

/-- An answer that consists of its status. -/
def Answer.ofStatus (status : Nat) : Answer := ⟨status, .nothing⟩

/-- An answer that tells what went wrong. -/
def Answer.ofFailure (status : Nat) (message : String) : Answer :=
  ⟨status, .data (.object [("error", .string message)])⟩

/-- The answer when the backend fails. Its statuses are passed on, if they can be. -/
def Answer.ofBackendError : BackendError → Answer
  | .status code detail =>
    ofFailure (if 100 ≤ code && code < 1000 then code else 502) detail
  | error => ofFailure 502 error.message

/-- The answer with the emphasized atom. -/
def Answer.ofHover (atomId : Option AtomId) : Answer :=
  ofData (.object [(atomField, Json.ofOption (fun id => .integer id.toInt) atomId)])

/-- A viewer in which no atom is emphasized. -/
def start (settings : Settings) (fragment : FragmentId) (title : String) : Viewer :=
  ⟨fragment, title, settings.overlapPolicy, settings.graph, .initial⟩

/-- The JSON form of an atom beside its text. -/
def atomView (atom : Atom) : Json :=
  .object [("id", .integer atom.id.toInt), ("predicate", .string atom.predicate),
    ("description", .string atom.description), ("is_negated", .bool atom.isNegated),
    ("is_fact", .bool atom.isFact), ("color", (Color.ofId atom.id).toJson)]

/-- The JSON form of a fragment with its pieces and atoms. -/
def fragmentView (viewer : Viewer) (fragment : Fragment) (pieces : List Highlight.Piece)
    (atoms : List Atom) : Json :=
  .object <|
    [("id", .integer fragment.id.toInt), ("title", .string fragment.title)] ++
    Json.presentMember "source" .string fragment.source ++
    [("fragments", .array (pieces.map Highlight.Piece.toJson)),
      ("atoms", .array (atoms.map atomView)),
      ("hovered", Json.ofOption (fun id => .integer id.toInt) viewer.hover.current)]

/-- The highlighted text. -/
def showFragment (viewer : Viewer) : Session Answer :=
  .askBoth (.getFragment viewer.fragment) (.listAtoms viewer.fragment) fun outcome =>
    pure (match outcome with
      | .error error => .ofBackendError error
      | .ok (fragment, atoms) =>
        match Highlight.highlight viewer.overlapPolicy fragment.content atoms with
        | .error error => .ofFailure 422 error.message
        | .ok pieces => .ofData (viewer.fragmentView fragment pieces atoms))

/-- The dependency graph. -/
def showGraph (viewer : Viewer) (nodePerRule parsed : Bool) : Session Answer :=
  .askBoth (.listAtoms viewer.fragment) (.listRules viewer.fragment) fun outcome =>
    pure (match outcome with
      | .error error => .ofBackendError error
      | .ok (atoms, rules) =>
        let policy := if nodePerRule then .nodePerRule else viewer.graph.headPolicy
        let extraction := if parsed then .parsed else viewer.graph.extraction
        let graph := Graph.build policy extraction atoms rules
        .ofData (GraphView.ofGraph graph).toJson)

/-- The viewer after a visit. -/
def after (viewer : Viewer) : Visit → Viewer
  | .writeHover atomId => { viewer with hover := viewer.hover.set atomId }
  | .clearHover => { viewer with hover := viewer.hover.clear }
  | _ => viewer

/-- The answer to a visit. Who waits for a change gets an answer as if the time were up. -/
def receive (viewer : Viewer) : Visit → Session Answer
  | .page => pure ⟨200, .markup (page viewer.title)⟩
  | .fragment => viewer.showFragment
  | .graph nodePerRule parsed => viewer.showGraph nodePerRule parsed
  | .readHover => pure (.ofHover viewer.hover.current)
  | .writeHover atomId => pure (.ofHover atomId)
  | .clearHover => pure (.ofStatus 204)
  | .awaitHover known => pure (.ofHover (answerAtOnce known viewer.hover))

/-- The answer to a request, and the viewer afterwards. Whoever asks what may be asked is told yes;
the answer to a request for a head has no content. -/
def respond (viewer : Viewer) (arrival : Arrival) : Session (Answer × Viewer) := do
  if arrival.method = "OPTIONS" then return (.ofStatus 200, viewer)
  match Visit.ofArrival arrival with
  | .error refusal => return (.ofStatus refusal.status, viewer)
  | .ok visit =>
    let answer ← viewer.receive visit
    let content := if arrival.method = "HEAD" then .nothing else answer.content
    return ({ answer with content }, viewer.after visit)

end Viewer

end Statute
