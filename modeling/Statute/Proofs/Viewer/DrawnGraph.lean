import Statute.Proofs.Graph.Edges
import Statute.Viewer.GraphView

/-!
# Drawn graphs are simple

A page draws a graph only if its nodes have different keys, its edges connect nodes that are there,
no edge is a loop, and no two edges have the same key or the same ends. Dependency graphs of atoms
with different numbers and rules with different numbers are drawn as such graphs, also where an atom
has the number of a rule.
-/

namespace Statute.Viewer

open Statute.Graph Text

/-! ## Keys -/

/-- A key consists of the kind, a colon and the id. -/
theorem toList_nodeKey (kind : NodeKind) (id : String) :
    (nodeKey kind id).toList = kind.wireName.toList ++ ':' :: id.toList := by
  simp [nodeKey]

/-- The key of a node tells its kind and its id. -/
theorem nodeKey_inj {kind otherKind : NodeKind} {id other : String} :
    nodeKey kind id = nodeKey otherKind other ↔ kind = otherKind ∧ id = other := by
  rw [← String.toList_inj, toList_nodeKey, toList_nodeKey]
  cases kind <;> cases otherKind <;> simp [NodeKind.wireName, String.toList_inj]

/-- The end of the arrow that separates the ends of an edge in its key. -/
def isArrowHead (character : Char) : Bool :=
  character = '>'

/-- The key of a node with a number has no arrow in it. -/
theorem not_isArrowHead_of_mem_nodeKey {kind : NodeKind} {id : Int64} {character : Char}
    (member : character ∈ (nodeKey kind (nodeId id)).toList) : isArrowHead character = false := by
  rw [toList_nodeKey, List.mem_append, List.mem_cons] at member
  rcases member with ofKind | rfl | ofId
  · have plain : kind.wireName.toList.all (!isArrowHead ·) = true := by
      cases kind <;> rfl
    rw [← Bool.not_eq_true', List.all_eq_true.mp plain character ofKind]
  · rfl
  · have digit := isIdCharacter_of_mem_nodeId ofId
    refine decide_eq_false ?_
    rintro rfl
    exact absurd digit (by decide)

/-- The key of an edge is its source up to the end of the arrow, and its target behind it. -/
theorem span_edgeKey (source : Int64) (target : String) :
    let key := (nodeKey .rule (nodeId source) ++ "->" ++ target).toList
    key.takeWhile (!isArrowHead ·) = (nodeKey .rule (nodeId source)).toList ++ ['-'] ∧
      key.dropWhile (!isArrowHead ·) = '>' :: target.toList := by
  intro key
  have whole : key = (nodeKey .rule (nodeId source)).toList ++ ['-'] ++ '>' :: target.toList := by
    simp [key]
  rw [whole]
  refine takeWhile_append_of_ends ?_ (by rintro _ ⟨⟩; rfl)
  intro character member
  rcases List.mem_append.mp member with inside | last
  · rw [not_isArrowHead_of_mem_nodeKey inside, Bool.not_false]
  · obtain rfl := List.mem_singleton.mp last
    rfl

namespace EdgeView

/-- Edges are drawn between the same keys when they have the same ends and point at the same kind of
node. -/
theorem ends_ofEdge_inj {edge other : Edge} :
    ((ofEdge edge).source, (ofEdge edge).target) = ((ofEdge other).source, (ofEdge other).target) ↔
      edge.key = other.key := by
  simp only [ofEdge, Edge.key, Prod.mk.injEq, nodeKey_inj, true_and]
  exact and_congr_right fun _ => and_comm

/-- The key of an edge that leaves a rule tells between which nodes it is drawn. -/
theorem ends_of_key_ofEdge {edge other : Edge} {source otherSource : Int64}
    (leaves : edge.source = nodeId source) (otherLeaves : other.source = nodeId otherSource)
    (same : (ofEdge edge).key = (ofEdge other).key) :
    ((ofEdge edge).source, (ofEdge edge).target) =
      ((ofEdge other).source, (ofEdge other).target) := by
  simp only [ofEdge, leaves, otherLeaves] at same ⊢
  obtain ⟨front, rest⟩ := span_edgeKey source (nodeKey edge.targetKind edge.target)
  obtain ⟨otherFront, otherRest⟩ := span_edgeKey otherSource (nodeKey other.targetKind other.target)
  rw [same] at front rest
  have sources := List.append_cancel_right (front.symm.trans otherFront)
  have targets := (List.cons.inj (rest.symm.trans otherRest)).2
  rw [String.toList_inj.mp sources, String.toList_inj.mp targets]

end EdgeView

/-! ## Graphs -/

/-- What a page asks of a graph before it draws it. Edges leave rules. -/
structure GraphView.IsSimple (view : GraphView) : Prop where
  nodeKeys : (view.nodes.map NodeView.key).Nodup
  sources : ∀ edge ∈ view.edges, ∃ node ∈ view.nodes, node.key = edge.source ∧ node.kind = .rule
  targets : ∀ edge ∈ view.edges, ∃ node ∈ view.nodes, node.key = edge.target
  noLoop : ∀ edge ∈ view.edges, edge.source ≠ edge.target
  ends : (view.edges.map fun edge => (edge.source, edge.target)).Nodup
  edgeKeys : (view.edges.map EdgeView.key).Nodup

variable {policy : HeadPolicy} {extraction : ReferenceExtraction} {atoms : List Atom}
  {rules : List Rule}

/-- An edge of the graph leaves a rule with a node. -/
theorem exists_source_of_mem {edge : Edge}
    (member : edge ∈ (build policy extraction atoms rules).edges) :
    ∃ rule ∈ leadingRules policy rules, edge.source = nodeId rule.id := by
  obtain ⟨rule, leads, source, -⟩ :=
    exists_ends_of_mem_calledEdges (mem_calledEdges_of_mem_build member)
  exact ⟨rule, leads, source⟩

/-- Nodes with different numbers or of different kinds have different keys. -/
theorem nodup_nodeKeys (atomsApart : (atoms.map Atom.id).Nodup)
    (rulesApart : (rules.map Rule.id).Nodup) :
    ((build policy extraction atoms rules).nodes.map fun node =>
      nodeKey node.kind node.id).Nodup := by
  have leadersApart : ((leadingRules policy rules).map Rule.id).Nodup := by
    cases policy with
    | mergeByHead => exact rulesApart.sublist ((sublist_firstOccurrencesBy _ _).map _)
    | nodePerRule => exact rulesApart
  have keyed (kind : NodeKind) {ids : List Int64} (apart : ids.Nodup) :
      (ids.map fun id => nodeKey kind (nodeId id)).Nodup :=
    apart.map fun _ _ same => nodeId_inj.mp (nodeKey_inj.mp same).2
  rw [build, List.map_append, List.map_map, List.map_map, List.nodup_append]
  refine ⟨?_, ?_, ?_⟩
  · have keys := keyed .atom atomsApart
    rwa [List.map_map] at keys
  · have keys := keyed .rule leadersApart
    rwa [List.map_map] at keys
  · intro atomKey ofAtoms ruleKey ofRules same
    obtain ⟨atom, -, rfl⟩ := List.mem_map.mp ofAtoms
    obtain ⟨rule, -, rfl⟩ := List.mem_map.mp ofRules
    cases (nodeKey_inj.mp same).1

/-- Edges of a dependency graph that are drawn alike are one edge. -/
theorem nodup_map_edges {β : Type} {drawn : Edge → β}
    (tells : ∀ edge ∈ (build policy extraction atoms rules).edges,
      ∀ other ∈ (build policy extraction atoms rules).edges,
        drawn edge = drawn other → edge.key = other.key) :
    ((build policy extraction atoms rules).edges.map drawn).Nodup := by
  have apart : ((build policy extraction atoms rules).edges.map Edge.key).Nodup :=
    nodup_keys_firstOccurrencesBy _ _
  refine apart.of_map.map_on fun edge member other otherMember same => ?_
  exact List.inj_on_of_nodup_map apart member otherMember
    (tells edge member other otherMember same)

/-- A graph that is built from atoms and from rules with ids of their own is drawn simple. -/
theorem isSimple_ofGraph_build (atomsApart : (atoms.map Atom.id).Nodup)
    (rulesApart : (rules.map Rule.id).Nodup) :
    (GraphView.ofGraph (build policy extraction atoms rules)).IsSimple where
  nodeKeys := by
    rw [GraphView.ofGraph, List.map_map]
    exact nodup_nodeKeys atomsApart rulesApart
  sources := by
    rintro _ drawn
    obtain ⟨edge, member, rfl⟩ := List.mem_map.mp drawn
    obtain ⟨rule, leads, source⟩ := exists_source_of_mem member
    have node : ruleNode rule ∈ (build policy extraction atoms rules).nodes :=
      List.mem_append_right _ (List.mem_map_of_mem leads)
    refine ⟨NodeView.ofNode (ruleNode rule), List.mem_map_of_mem node, ?_, rfl⟩
    rw [EdgeView.ofEdge, source]
    rfl
  targets := by
    rintro _ drawn
    obtain ⟨edge, member, rfl⟩ := List.mem_map.mp drawn
    obtain ⟨-, -, -, -, node, ofGraph, kind, id⟩ :=
      exists_ends_of_mem_calledEdges (mem_calledEdges_of_mem_build member)
    refine ⟨NodeView.ofNode node, List.mem_map_of_mem ofGraph, ?_⟩
    rw [EdgeView.ofEdge, ← kind, ← id]
    rfl
  noLoop := by
    rintro _ drawn same
    obtain ⟨edge, member, rfl⟩ := List.mem_map.mp drawn
    obtain ⟨kind, ends⟩ := nodeKey_inj.mp same
    -- Only an edge to a rule can end where it begins, and those are left out.
    have toRule : (build policy extraction atoms rules).HasEdge edge.source edge.target .rule :=
      ⟨edge, member, by rw [Edge.key, ← kind]⟩
    exact (hasEdge_rule_iff.mp toRule).1 ends.symm
  ends := by
    rw [GraphView.ofGraph, List.map_map]
    exact nodup_map_edges fun _ _ _ _ same => EdgeView.ends_ofEdge_inj.mp same
  edgeKeys := by
    rw [GraphView.ofGraph, List.map_map]
    refine nodup_map_edges fun edge member other otherMember same => ?_
    obtain ⟨rule, -, source⟩ := exists_source_of_mem member
    obtain ⟨otherRule, -, otherSource⟩ := exists_source_of_mem otherMember
    exact EdgeView.ends_ofEdge_inj.mp (EdgeView.ends_of_key_ofEdge source otherSource same)

/-- Nodes of atoms are drawn with the numbers of the atoms, and nodes of rules without one. -/
theorem nodes_ofGraph_build :
    (GraphView.ofGraph (build policy extraction atoms rules)).nodes =
      (atoms.map fun atom => ⟨nodeKey .atom (nodeId atom.id), atom.predicate, .atom,
        (Color.ofId atom.id).hover, some atom.id⟩) ++
      (leadingRules policy rules).map fun rule => ⟨nodeKey .rule (nodeId rule.id), rule.head,
        .rule, ruleColor, none⟩ := by
  change (atoms.map atomNode ++ (leadingRules policy rules).map ruleNode).map NodeView.ofNode = _
  rw [List.map_append, List.map_map, List.map_map]
  refine congrArg (· ++ _) (List.map_congr_left fun atom _ => ?_)
  simp only [Function.comp_apply, NodeView.ofNode, atomNode, nodeId, Number.readInt64?_toString]

/-- The dependency graph of atoms with different numbers and rules with different numbers is drawn as
a simple graph, whichever way rules become nodes and references are found, and also where an atom
has the number of a rule. Its nodes are those of the atoms, which carry the numbers of the atoms, and
behind them those of rules, which carry none. -/
theorem drawn_graph_is_simple (policy : HeadPolicy) (extraction : ReferenceExtraction)
    {atoms : List Atom} {rules : List Rule} (atomsApart : (atoms.map Atom.id).Nodup)
    (rulesApart : (rules.map Rule.id).Nodup) :
    let view := GraphView.ofGraph (build policy extraction atoms rules)
    view.IsSimple ∧
      view.nodes =
        (atoms.map fun atom => ⟨nodeKey .atom (nodeId atom.id), atom.predicate, .atom,
          (Color.ofId atom.id).hover, some atom.id⟩) ++
        (leadingRules policy rules).map fun rule => ⟨nodeKey .rule (nodeId rule.id), rule.head,
          .rule, ruleColor, none⟩ :=
  ⟨isSimple_ofGraph_build atomsApart rulesApart, nodes_ofGraph_build⟩

/-- An atom and a rule with the same negative number, where the rule refers to the atom, to itself
and to another rule. -/
theorem exampleCollision_drawn :
    let atoms : List Atom := [⟨-10, 1, "bird(X)", "", false, true, []⟩]
    let rules : List Rule := [⟨-10, 1, "", "flies(X) :- bird(X), flies(X), swims(X).", false, .epoch⟩,
      ⟨3, 1, "", "swims(X) :- bird(X).", false, .epoch⟩]
    let view := GraphView.ofGraph (build .mergeByHead .parsed atoms rules)
    (atoms.map Atom.id).Nodup ∧ (rules.map Rule.id).Nodup ∧ view.IsSimple ∧
      view.nodes.map (fun node => (node.key, node.atomId)) =
        [("atom:-10", some (-10)), ("rule:-10", none), ("rule:3", none)] ∧
      view.edges.map EdgeView.key =
        ["rule:-10->atom:-10", "rule:-10->rule:3", "rule:3->atom:-10"] := by
  intro atoms rules view
  have atomsApart : (atoms.map Atom.id).Nodup := by decide
  have rulesApart : (rules.map Rule.id).Nodup := by decide
  obtain ⟨simple, -⟩ := drawn_graph_is_simple .mergeByHead .parsed atomsApart rulesApart
  exact ⟨atomsApart, rulesApart, simple, by decide +kernel, by decide +kernel⟩

end Statute.Viewer
