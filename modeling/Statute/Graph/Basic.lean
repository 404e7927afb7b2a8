import Statute.Json.Decode

/-!
# Dependency graphs

Atoms are leaves, the heads of rules are nodes with edges to what their bodies mention. Atoms and
rules are numbered apart, so an edge records which kind of node it points at.
-/

namespace Statute.Graph

/-- What a node stands for. -/
inductive NodeKind where
  | atom
  | rule
deriving DecidableEq, Repr

namespace NodeKind

/-- The name of a kind in data. -/
def wireName : NodeKind → String
  | atom => "atom"
  | rule => "rule"

/-- Reads the JSON form of a kind. -/
def ofJson? (json : Json) : Option NodeKind := do
  let name ← json.alternative?
  [atom, rule].find? fun kind => kind.wireName == name

end NodeKind

/-- A node of the graph. -/
structure Node where
  id : String
  label : String
  kind : NodeKind
  color : String
deriving DecidableEq

namespace Node

/-- The JSON form of a node. -/
def toJson (node : Node) : Json :=
  .object [("id", .string node.id), ("label", .string node.label),
    ("kind", .string node.kind.wireName), ("color", .string node.color)]

/-- Reads the JSON form of a node. -/
def ofJson? (json : Json) : Option Node := do
  let record ← json.record? ["id", "label", "kind", "color"]
  return {
    id := ← record.required "id" Json.string?
    label := ← record.required "label" Json.string?
    kind := ← record.required "kind" NodeKind.ofJson?
    color := ← record.required "color" Json.string? }

end Node

/-- An edge from a rule to what it mentions. -/
structure Edge where
  id : String
  source : String
  target : String
  targetKind : NodeKind
deriving DecidableEq

namespace Edge

/-- The edge between two nodes, whose id names its source and its kind and target. -/
def between (source target : String) (targetKind : NodeKind) : Edge :=
  ⟨source ++ "-" ++ targetKind.wireName ++ ":" ++ target, source, target, targetKind⟩

/-- The JSON form of an edge. -/
def toJson (edge : Edge) : Json :=
  .object [("id", .string edge.id), ("source", .string edge.source),
    ("target", .string edge.target), ("target_kind", .string edge.targetKind.wireName)]

/-- Reads the JSON form of an edge. -/
def ofJson? (json : Json) : Option Edge := do
  let record ← json.record? ["id", "source", "target", "target_kind"]
  return {
    id := ← record.required "id" Json.string?
    source := ← record.required "source" Json.string?
    target := ← record.required "target" Json.string?
    targetKind := ← record.required "target_kind" NodeKind.ofJson? }

end Edge

/-- Nodes and edges in the order in which they are shown. -/
structure DependencyGraph where
  nodes : List Node
  edges : List Edge
deriving DecidableEq

namespace DependencyGraph

/-- The first node with an id. Atoms stand before rules. -/
def node? (graph : DependencyGraph) (id : String) : Option Node :=
  graph.nodes.find? fun node => node.id = id

/-- The node that an edge points at. -/
def target? (graph : DependencyGraph) (edge : Edge) : Option Node :=
  graph.nodes.find? fun node => node.kind = edge.targetKind ∧ node.id = edge.target

/-- The edges that leave a rule. -/
def edgesFrom (graph : DependencyGraph) (source : String) : List Edge :=
  graph.edges.filter fun edge => edge.source = source

/-- The nodes of a kind. -/
def nodesOf (graph : DependencyGraph) (kind : NodeKind) : List Node :=
  graph.nodes.filter fun node => node.kind = kind

/-- There are no nodes. -/
def isEmpty (graph : DependencyGraph) : Bool :=
  graph.nodes.isEmpty

/-- The JSON form of a graph. -/
def toJson (graph : DependencyGraph) : Json :=
  .object [("nodes", .array (graph.nodes.map Node.toJson)),
    ("edges", .array (graph.edges.map Edge.toJson))]

/-- Reads the JSON form of a graph. -/
def ofJson? (json : Json) : Option DependencyGraph := do
  let record ← json.record? ["nodes", "edges"]
  return {
    nodes := ← record.required "nodes" (Json.list? Node.ofJson?)
    edges := ← record.required "edges" (Json.list? Edge.ofJson?) }

end DependencyGraph

end Statute.Graph
