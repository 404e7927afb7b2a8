import Statute.Proofs.Graph.Assembly
import Statute.Proofs.Number.Digits
import Statute.Proofs.Text.FirstPlace
import Mathlib.Data.List.Nodup
import Std.Data.String.ToInt

/-!
# The edges of the dependency graph

The graph has an edge for each name that a rule refers to and each node with that name, and no
others. Ids of nodes are decimal numbers, so that the id of an edge tells its ends apart. Atoms and
rules may have the same numbers, and numbers may repeat.
-/

namespace Statute.Graph

open Logic Text

/-- Nodes have different ids when they have different numbers. -/
theorem nodeId_inj {left right : Int64} : nodeId left = nodeId right ↔ left = right := by
  rw [nodeId, nodeId, Int.toString_eq_repr, Int.toString_eq_repr, Int.repr_inj, Int64.toInt_inj]

/-- Characters of decimal numbers with a sign. -/
def isIdCharacter (character : Char) : Bool :=
  Number.isDigit character || character = '-'

/-- The number of a node is written with digits and a sign. -/
theorem isIdCharacter_of_mem_nodeId {id : Int64} {character : Char}
    (member : character ∈ (nodeId id).toList) : isIdCharacter character = true := by
  have ofDigits {value : Nat} (digit : character ∈ Number.toDigits value) :
      isIdCharacter character = true := by
    rw [isIdCharacter, Number.isDigit_of_mem_toDigits digit, Bool.true_or]
  rw [nodeId] at member
  rcases Int.lt_or_le id.toInt 0 with negative | nonnegative
  · rw [Number.toList_toString_of_neg negative] at member
    rcases List.mem_cons.mp member with rfl | digit
    · rfl
    · exact ofDigits digit
  · rw [Number.toList_toString_of_nonneg nonnegative] at member
    exact ofDigits member

/-- The id of an edge begins with the id of its source, which the kind of its target ends. -/
theorem span_between_id (source : Int64) (target : String) (kind : NodeKind) :
    (Edge.between (nodeId source) target kind).id.toList.takeWhile isIdCharacter =
        (nodeId source).toList ++ ['-'] ∧
      (Edge.between (nodeId source) target kind).id.toList.dropWhile isIdCharacter =
        kind.wireName.toList ++ ':' :: target.toList := by
  have kept : ∀ character ∈ (nodeId source).toList ++ ['-'], isIdCharacter character = true := by
    intro character member
    rcases List.mem_append.mp member with inside | last
    · exact isIdCharacter_of_mem_nodeId inside
    · obtain rfl := List.mem_singleton.mp last
      rfl
  have ends : ∀ character ∈ (kind.wireName.toList ++ ':' :: target.toList).head?,
      isIdCharacter character = false := by
    cases kind <;> (rintro _ ⟨⟩; rfl)
  have whole : (Edge.between (nodeId source) target kind).id.toList =
      (nodeId source).toList ++ ['-'] ++ (kind.wireName.toList ++ ':' :: target.toList) := by
    simp [Edge.between]
  rw [whole]
  exact takeWhile_append_of_ends kept ends

/-- Edges with the same id have the same ends and point at the same kind of node. -/
theorem between_id_inj {source otherSource : Int64} {target otherTarget : String}
    {kind otherKind : NodeKind}
    (same : (Edge.between (nodeId source) target kind).id =
      (Edge.between (nodeId otherSource) otherTarget otherKind).id) :
    nodeId source = nodeId otherSource ∧ target = otherTarget ∧ kind = otherKind := by
  obtain ⟨front, rest⟩ := span_between_id source target kind
  obtain ⟨otherFront, otherRest⟩ := span_between_id otherSource otherTarget otherKind
  rw [same] at front rest
  refine ⟨String.toList_inj.mp (List.append_cancel_right (front.symm.trans otherFront)), ?_⟩
  have kinds := rest.symm.trans otherRest
  cases kind <;> cases otherKind <;> simp_all [NodeKind.wireName, String.toList_inj]

/-- The graph has an edge between two nodes that points at a kind of node. -/
def DependencyGraph.HasEdge (graph : DependencyGraph) (source target : String) (kind : NodeKind) :
    Prop :=
  ∃ edge ∈ graph.edges, edge.key = (source, target, kind)

instance (graph : DependencyGraph) (source target : String) (kind : NodeKind) :
    Decidable (graph.HasEdge source target kind) :=
  inferInstanceAs (Decidable (∃ edge ∈ graph.edges, edge.key = (source, target, kind)))

/-- The id of the node that a rule belongs to: its own, or that of the first rule with its head. -/
def NodeOf (policy : HeadPolicy) (rules : List Rule) (rule : Rule) (id : String) : Prop :=
  match policy with
  | .mergeByHead => ∃ first, IsFirst Rule.head rules first ∧ first.head = rule.head ∧
      id = nodeId first.id
  | .nodePerRule => id = nodeId rule.id

variable {policy : HeadPolicy} {extraction : ReferenceExtraction} {atoms : List Atom}
  {rules : List Rule}

/-- A rule has the node of its leader and no other one. -/
theorem nodeOf_iff {rule : Rule} (member : rule ∈ rules) {id : String} :
    NodeOf policy rules rule id ↔ nodeId (leader policy rules rule).id = id := by
  cases policy with
  | mergeByHead =>
    obtain ⟨first, found, isFirst, same⟩ := exists_isFirst Rule.head member
    rw [NodeOf, leader, found, Option.getD_some]
    constructor
    · rintro ⟨other, otherFirst, otherSame, rfl⟩
      rw [isFirst.unique otherFirst (same.trans otherSame.symm)]
    · rintro rfl
      exact ⟨first, isFirst, same, rfl⟩
  | nodePerRule => exact eq_comm

/-- The rule that a rule's node stands for has a node of its own. -/
theorem leader_mem_leadingRules {rule : Rule} (member : rule ∈ rules) :
    leader policy rules rule ∈ leadingRules policy rules := by
  cases policy with
  | mergeByHead =>
    obtain ⟨first, found, isFirst, -⟩ := exists_isFirst Rule.head member
    rw [leader, found]
    exact mem_firstOccurrencesBy_iff.mpr isFirst
  | nodePerRule => exact member

/-- The rule nodes of the graph. -/
theorem nodesOf_rule_build :
    (build policy extraction atoms rules).nodesOf .rule =
      (leadingRules policy rules).map ruleNode := by
  rw [DependencyGraph.nodesOf, build, List.filter_append, List.filter_eq_nil_iff.mpr,
    List.filter_eq_self.mpr, List.nil_append]
  · intro node member
    obtain ⟨rule, -, rfl⟩ := List.mem_map.mp member
    rfl
  · intro node member
    obtain ⟨atom, -, rfl⟩ := List.mem_map.mp member
    simp [atomNode]

/-- A name gives an edge to each atom with that name, and to each rule node with it except the
source. -/
theorem mem_edgesTo_iff {leaders : List Rule} {source name : String} {edge : Edge} :
    edge ∈ edgesTo atoms leaders source name ↔
      (∃ atom ∈ atoms, Outline.predicateName atom.predicate = name ∧
        Edge.between source (nodeId atom.id) .atom = edge) ∨
      ∃ rule ∈ leaders, (Outline.predicateName rule.head = name ∧ nodeId rule.id ≠ source) ∧
        Edge.between source (nodeId rule.id) .rule = edge := by
  simp only [edgesTo, List.mem_append, List.mem_map, List.mem_filter, decide_eq_true_eq, and_assoc]

/-- An edge is called for by a rule through a name that the rule refers to. -/
theorem mem_calledEdges_iff {edge : Edge} :
    edge ∈ calledEdges policy extraction atoms rules ↔
      ∃ rule ∈ rules, ∃ name ∈ references extraction rule.definition,
        edge ∈ edgesTo atoms (leadingRules policy rules)
          (nodeId (leader policy rules rule).id) name := by
  simp only [calledEdges, List.mem_flatMap]

/-- The graph has the edges that are called for. -/
theorem hasEdge_build_iff {source target : String} {kind : NodeKind} :
    (build policy extraction atoms rules).HasEdge source target kind ↔
      ∃ edge ∈ calledEdges policy extraction atoms rules, edge.key = (source, target, kind) := by
  rw [DependencyGraph.HasEdge, ← List.mem_map, ← List.mem_map]
  exact mem_keys_firstOccurrencesBy_iff Edge.key

/-- Edges to atoms: they are called for by the names of the atoms. -/
theorem hasEdge_atom_iff {source target : String} :
    (build policy extraction atoms rules).HasEdge source target .atom ↔
      ∃ rule ∈ rules, NodeOf policy rules rule source ∧ ∃ atom ∈ atoms, nodeId atom.id = target ∧
        Outline.predicateName atom.predicate ∈ references extraction rule.definition := by
  rw [hasEdge_build_iff]
  constructor
  · rintro ⟨edge, called, key⟩
    obtain ⟨rule, member, name, refers, toName⟩ := mem_calledEdges_iff.mp called
    rcases mem_edgesTo_iff.mp toName with ⟨atom, ofAtoms, rfl, rfl⟩ | ⟨other, -, -, rfl⟩
    · cases key
      exact ⟨rule, member, (nodeOf_iff member).mpr rfl, atom, ofAtoms, rfl, refers⟩
    · cases key
  · rintro ⟨rule, member, node, atom, ofAtoms, rfl, refers⟩
    obtain rfl := (nodeOf_iff member).mp node
    refine ⟨Edge.between _ (nodeId atom.id) .atom, ?_, rfl⟩
    refine mem_calledEdges_iff.mpr ⟨rule, member, _, refers, ?_⟩
    exact mem_edgesTo_iff.mpr (.inl ⟨atom, ofAtoms, rfl, rfl⟩)

/-- Edges to rules: they are called for by the names of other rule nodes. -/
theorem hasEdge_rule_iff {source target : String} :
    (build policy extraction atoms rules).HasEdge source target .rule ↔
      target ≠ source ∧ ∃ rule ∈ rules, NodeOf policy rules rule source ∧
        ∃ other ∈ leadingRules policy rules, nodeId other.id = target ∧
          Outline.predicateName other.head ∈ references extraction rule.definition := by
  rw [hasEdge_build_iff]
  constructor
  · rintro ⟨edge, called, key⟩
    obtain ⟨rule, member, name, refers, toName⟩ := mem_calledEdges_iff.mp called
    rcases mem_edgesTo_iff.mp toName with ⟨atom, -, -, rfl⟩ | ⟨other, leads, ⟨rfl, apart⟩, rfl⟩
    · cases key
    · cases key
      exact ⟨apart, rule, member, (nodeOf_iff member).mpr rfl, other, leads, rfl, refers⟩
  · rintro ⟨apart, rule, member, node, other, leads, rfl, refers⟩
    obtain rfl := (nodeOf_iff member).mp node
    refine ⟨Edge.between _ (nodeId other.id) .rule, ?_, rfl⟩
    refine mem_calledEdges_iff.mpr ⟨rule, member, _, refers, ?_⟩
    exact mem_edgesTo_iff.mpr (.inr ⟨other, leads, ⟨rfl, apart⟩, rfl⟩)

/-- Every edge connects the node of a rule with a node of its kind, and is named for its ends. -/
theorem exists_ends_of_mem_calledEdges {edge : Edge}
    (called : edge ∈ calledEdges policy extraction atoms rules) :
    ∃ rule ∈ leadingRules policy rules, edge.source = nodeId rule.id ∧
      edge = Edge.between (nodeId rule.id) edge.target edge.targetKind ∧
      ∃ node ∈ (build policy extraction atoms rules).nodes,
        node.kind = edge.targetKind ∧ node.id = edge.target := by
  obtain ⟨rule, member, name, -, toName⟩ := mem_calledEdges_iff.mp called
  refine ⟨_, leader_mem_leadingRules member, ?_⟩
  rcases mem_edgesTo_iff.mp toName with ⟨atom, ofAtoms, -, rfl⟩ | ⟨other, leads, -, rfl⟩
  · exact ⟨rfl, rfl, atomNode atom, List.mem_append_left _ (List.mem_map_of_mem ofAtoms), rfl, rfl⟩
  · exact ⟨rfl, rfl, ruleNode other, List.mem_append_right _ (List.mem_map_of_mem leads), rfl, rfl⟩

/-- Edges of the graph are edges that are called for. -/
theorem mem_calledEdges_of_mem_build {edge : Edge}
    (member : edge ∈ (build policy extraction atoms rules).edges) :
    edge ∈ calledEdges policy extraction atoms rules :=
  (sublist_firstOccurrencesBy _ _).subset member

/-- An edge of the graph is the edge between its ends. -/
theorem mem_edges_build_iff {edge : Edge} :
    edge ∈ (build policy extraction atoms rules).edges ↔
      edge = Edge.between edge.source edge.target edge.targetKind ∧
        (build policy extraction atoms rules).HasEdge edge.source edge.target edge.targetKind := by
  have between : ∀ edge ∈ (build policy extraction atoms rules).edges,
      edge = Edge.between edge.source edge.target edge.targetKind := by
    intro edge member
    obtain ⟨rule, -, source, named, -⟩ :=
      exists_ends_of_mem_calledEdges (mem_calledEdges_of_mem_build member)
    rwa [← source] at named
  constructor
  · intro member
    exact ⟨between edge member, edge, member, rfl⟩
  · rintro ⟨named, other, member, key⟩
    obtain ⟨source, target, kind⟩ : other.source = edge.source ∧ other.target = edge.target ∧
        other.targetKind = edge.targetKind := by
      simpa [Edge.key] using key
    have otherNamed := between other member
    rw [source, target, kind, ← named] at otherNamed
    rwa [← otherNamed]

/-- No two edges have the same id. -/
theorem nodup_ids_build :
    ((build policy extraction atoms rules).edges.map Edge.id).Nodup := by
  have edges : (build policy extraction atoms rules).edges.Nodup :=
    .of_map Edge.key (nodup_keys_firstOccurrencesBy _ _)
  refine edges.map_on ?_
  intro edge member other otherMember same
  obtain ⟨rule, -, source, named, -⟩ :=
    exists_ends_of_mem_calledEdges (mem_calledEdges_of_mem_build member)
  obtain ⟨otherRule, -, otherSource, otherNamed, -⟩ :=
    exists_ends_of_mem_calledEdges (mem_calledEdges_of_mem_build otherMember)
  rw [named, otherNamed] at same
  obtain ⟨sources, targets, kinds⟩ := between_id_inj same
  rw [named, otherNamed, sources, targets, kinds]

/-- An edge points at a node of its kind. -/
theorem exists_target?_of_mem {edge : Edge}
    (member : edge ∈ (build policy extraction atoms rules).edges) :
    ∃ node, (build policy extraction atoms rules).target? edge = some node ∧
      node.kind = edge.targetKind ∧ node.id = edge.target := by
  obtain ⟨-, -, -, -, node, ofGraph, ends⟩ :=
    exists_ends_of_mem_calledEdges (mem_calledEdges_of_mem_build member)
  cases found : (build policy extraction atoms rules).target? edge with
  | none =>
    have nowhere := List.find?_eq_none.mp found node ofGraph
    exact absurd (decide_eq_true ends) nowhere
  | some target =>
    rw [DependencyGraph.target?] at found
    have ends := List.find?_some found
    exact ⟨target, rfl, of_decide_eq_true ends⟩

/-- The dependency graph has exactly the edges that its atoms and rules call for, whichever way
rules become nodes and references are found. Looking names up in indexes makes the same graph. An
edge to an atom is there when a rule of the source's node refers to the name of the atom, an edge to
a rule node when a rule of another node refers to the name of the head that the node is labelled
with. No two edges have the same ends and kind, and no two have the same id. Each leaves a rule
node, and points at a node of the kind that it records. -/
theorem edges_of_build (policy : HeadPolicy) (extraction : ReferenceExtraction) (atoms : List Atom)
    (rules : List Rule) :
    assemble policy extraction atoms rules = build policy extraction atoms rules ∧
    (∀ source target, (build policy extraction atoms rules).HasEdge source target .atom ↔
      ∃ rule ∈ rules, NodeOf policy rules rule source ∧ ∃ atom ∈ atoms, nodeId atom.id = target ∧
        Outline.predicateName atom.predicate ∈ references extraction rule.definition) ∧
    (∀ source target, (build policy extraction atoms rules).HasEdge source target .rule ↔
      target ≠ source ∧ ∃ rule ∈ rules, NodeOf policy rules rule source ∧
        ∃ node ∈ (build policy extraction atoms rules).nodesOf .rule, node.id = target ∧
          Outline.predicateName node.label ∈ references extraction rule.definition) ∧
    ((build policy extraction atoms rules).edges.map Edge.key).Nodup ∧
    ((build policy extraction atoms rules).edges.map Edge.id).Nodup ∧
    ∀ edge ∈ (build policy extraction atoms rules).edges,
      (∃ node ∈ (build policy extraction atoms rules).nodesOf .rule, node.id = edge.source) ∧
      ∃ node, (build policy extraction atoms rules).target? edge = some node ∧
        node.kind = edge.targetKind ∧ node.id = edge.target := by
  refine ⟨assemble_eq_build policy extraction atoms rules, fun _ _ => hasEdge_atom_iff, ?_,
    nodup_keys_firstOccurrencesBy _ _, nodup_ids_build, ?_⟩
  · intro source target
    rw [hasEdge_rule_iff, nodesOf_rule_build]
    simp only [List.mem_map, exists_exists_and_eq_and, ruleNode]
  · intro edge member
    obtain ⟨rule, leads, source, -⟩ :=
      exists_ends_of_mem_calledEdges (mem_calledEdges_of_mem_build member)
    refine ⟨⟨ruleNode rule, ?_, source.symm⟩, exists_target?_of_mem member⟩
    rw [nodesOf_rule_build]
    exact List.mem_map_of_mem leads

end Statute.Graph
