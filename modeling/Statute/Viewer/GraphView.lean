import Statute.Graph.Basic
import Statute.Regulation.Atom

/-!
# Graphs as they are drawn

The form in which a page draws a dependency graph. Atoms and rules may have the same number, so the
key of a node names its kind too.
-/

namespace Statute.Viewer

open Statute.Graph

/-- A node as it is drawn. -/
structure NodeView where
  key : String
  label : String
  kind : NodeKind
  color : String
  /-- The number of the atom that a node stands for. -/
  atomId : Option AtomId
deriving DecidableEq

/-- An edge as it is drawn. -/
structure EdgeView where
  key : String
  source : String
  target : String
deriving DecidableEq

/-- A graph as it is drawn. -/
structure GraphView where
  nodes : List NodeView
  edges : List EdgeView
deriving DecidableEq

/-- The key of a node. -/
def nodeKey (kind : NodeKind) (id : String) : String :=
  kind.wireName ++ ":" ++ id

namespace NodeView

/-- How a node is drawn. -/
def ofNode (node : Node) : NodeView where
  key := nodeKey node.kind node.id
  label := node.label
  kind := node.kind
  color := node.color
  atomId := match node.kind with
    | .atom => Number.readInt64? node.id
    | .rule => none

/-- The size of a node. Rules are larger than what they depend on. -/
def size (node : NodeView) : Nat :=
  match node.kind with
  | .atom => 8
  | .rule => 12

/-- The JSON form of a node. -/
def toJson (node : NodeView) : Json :=
  let attributes := [("label", Json.string node.label), ("category", .string node.kind.wireName),
    ("color", .string node.color), ("size", .integer node.size)] ++
    Json.presentMember "atom_id" (fun id => .integer id.toInt) node.atomId
  .object [("key", .string node.key), ("attributes", .object attributes)]

end NodeView

namespace EdgeView

/-- How an edge is drawn. Edges start at rules. -/
def ofEdge (edge : Edge) : EdgeView :=
  let source := nodeKey .rule edge.source
  let target := nodeKey edge.targetKind edge.target
  ⟨source ++ "->" ++ target, source, target⟩

/-- The JSON form of an edge. -/
def toJson (edge : EdgeView) : Json :=
  .object [("key", .string edge.key), ("source", .string edge.source),
    ("target", .string edge.target)]

end EdgeView

namespace GraphView

/-- How a graph is drawn. -/
def ofGraph (graph : DependencyGraph) : GraphView :=
  ⟨graph.nodes.map NodeView.ofNode, graph.edges.map EdgeView.ofEdge⟩

/-- The JSON form of a graph. -/
def toJson (view : GraphView) : Json :=
  .object [("nodes", .array (view.nodes.map NodeView.toJson)),
    ("edges", .array (view.edges.map EdgeView.toJson))]

end GraphView

end Statute.Viewer
