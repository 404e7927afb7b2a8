import Statute.Graph.Build
import Statute.Proofs.Occurrences
import Mathlib.Data.List.Induction
import Std.Data.HashMap.Lemmas
import Std.Data.HashSet.Lemmas

/-!
# Graphs assembled with indexes

A graph can be assembled in one pass over its atoms and rules that files nodes under their names,
and one over what the rules refer to, which looks the names up. An edge is added unless its ends and
kind were seen before. The assembled graph is the dependency graph.
-/

namespace Statute.Graph

open Logic

deriving instance Hashable for NodeKind

/-- What counts as the same edge: its ends and the kind of its target. -/
def Edge.key (edge : Edge) : String × String × NodeKind :=
  (edge.source, edge.target, edge.targetKind)

/-- A graph that is being assembled, with its indexes. -/
structure Assembly where
  graph : DependencyGraph
  /-- The node that each head has, for rules that share it. -/
  heads : Std.HashMap String String
  /-- The nodes of the atoms with a name. -/
  atomsByName : Std.HashMap String (List String)
  /-- The nodes of the rules with a name. -/
  rulesByName : Std.HashMap String (List String)
  /-- The node of each rule, in the order of the rules. -/
  sources : List String
  seen : Std.HashSet (String × String × NodeKind)

/-- Files a node under a name, behind those filed there before. -/
def file (index : Std.HashMap String (List String)) (name id : String) :
    Std.HashMap String (List String) :=
  index.insert name (index.getD name [] ++ [id])

namespace Assembly

/-- There are no nodes. -/
def empty : Assembly :=
  ⟨⟨[], []⟩, ∅, ∅, ∅, [], ∅⟩

/-- Adds the node of an atom. -/
def addAtom (assembly : Assembly) (atom : Atom) : Assembly :=
  { assembly with
    graph := { assembly.graph with nodes := assembly.graph.nodes ++ [atomNode atom] }
    atomsByName :=
      file assembly.atomsByName (Outline.predicateName atom.predicate) (nodeId atom.id) }

/-- Adds a node of its own for a rule. -/
def addRuleNode (assembly : Assembly) (rule : Rule) : Assembly :=
  { assembly with
    graph := { assembly.graph with nodes := assembly.graph.nodes ++ [ruleNode rule] }
    heads := assembly.heads.insert rule.head (nodeId rule.id)
    rulesByName :=
      file assembly.rulesByName (Outline.predicateName rule.head) (nodeId rule.id)
    sources := assembly.sources ++ [nodeId rule.id] }

/-- Finds the node that a rule shares with one of the same head, or adds a node for the rule. -/
def addRule (policy : HeadPolicy) (assembly : Assembly) (rule : Rule) : Assembly :=
  match policy, assembly.heads[rule.head]? with
  | .mergeByHead, some shared => { assembly with sources := assembly.sources ++ [shared] }
  | _, _ => assembly.addRuleNode rule

/-- Adds an edge unless it was seen before. -/
def addEdge (assembly : Assembly) (edge : Edge) : Assembly :=
  if edge.key ∈ assembly.seen then assembly
  else { assembly with
    graph := { assembly.graph with edges := assembly.graph.edges ++ [edge] }
    seen := assembly.seen.insert edge.key }

/-- The edges from a node to all nodes that are filed under a name, but for the node itself. -/
def edgesUnder (assembly : Assembly) (source name : String) : List Edge :=
  (assembly.atomsByName.getD name []).map (fun id => Edge.between source id .atom) ++
    ((assembly.rulesByName.getD name []).filter (· ≠ source)).map
      fun id => Edge.between source id .rule

/-- Connects a node to all nodes that are filed under a name, but for the node itself. -/
def link (source : String) (assembly : Assembly) (name : String) : Assembly :=
  (assembly.edgesUnder source name).foldl addEdge assembly

/-- Connects the node of a rule to what the rule refers to. -/
def linkRule (extraction : ReferenceExtraction) (assembly : Assembly) (rule : Rule × String) :
    Assembly :=
  (references extraction rule.1.definition).foldl (link rule.2) assembly

/-- The nodes of atoms and rules, filed under their names. -/
def indexed (policy : HeadPolicy) (atoms : List Atom) (rules : List Rule) : Assembly :=
  rules.foldl (addRule policy) (atoms.foldl addAtom empty)

end Assembly

/-- The graph of atoms and rules, assembled with indexes. -/
def assemble (policy : HeadPolicy) (extraction : ReferenceExtraction) (atoms : List Atom)
    (rules : List Rule) : DependencyGraph :=
  let assembly := Assembly.indexed policy atoms rules
  ((rules.zip assembly.sources).foldl (Assembly.linkRule extraction) assembly).graph

/-- A name is looked up to the nodes that were filed under it, in order. -/
theorem getD_file (index : Std.HashMap String (List String)) (name id other : String) :
    (file index name id).getD other [] =
      index.getD other [] ++ if name = other then [id] else [] := by
  rw [file, Std.HashMap.getD_insert]
  by_cases same : name = other
  · subst same
    simp
  · simp [same]

/-- The rules with nodes of their own, when one more rule comes. -/
theorem leadingRules_append_singleton (policy : HeadPolicy) (rules : List Rule) (rule : Rule) :
    leadingRules policy (rules ++ [rule]) =
      leadingRules policy rules ++
        if policy = .mergeByHead ∧ rule.head ∈ rules.map Rule.head then [] else [rule] := by
  cases policy with
  | mergeByHead =>
    rw [leadingRules, firstOccurrencesBy_append_singleton, ← leadingRules.eq_1]
    simp
  | nodePerRule => simp [leadingRules]

/-- Rules behind a rule do not change its node. -/
theorem leader_append {policy : HeadPolicy} {rules : List Rule} {rule : Rule}
    (member : rule ∈ rules) (others : List Rule) :
    leader policy (rules ++ others) rule = leader policy rules rule := by
  cases policy with
  | mergeByHead =>
    obtain ⟨first, found, -⟩ := exists_isFirst Rule.head member
    rw [leader, leader, List.find?_append, found, Option.some_or]
  | nodePerRule => rfl

/-- No rule is found for a head that no rule has. -/
theorem find?_eq_none_of_head {rules : List Rule} {head : String}
    (new : head ∉ rules.map Rule.head) : rules.find? (fun rule => rule.head = head) = none := by
  rw [List.find?_eq_none]
  intro rule member same
  exact new (List.mem_map.mpr ⟨rule, member, of_decide_eq_true same⟩)

/-- The nodes of rules, when one more rule comes. -/
theorem map_leader_append_singleton (policy : HeadPolicy) (rules : List Rule) (rule : Rule) :
    (rules ++ [rule]).map (fun other => nodeId (leader policy (rules ++ [rule]) other).id) =
      rules.map (fun other => nodeId (leader policy rules other).id) ++
        [nodeId (leader policy (rules ++ [rule]) rule).id] := by
  rw [List.map_append]
  congr 1
  apply List.map_congr_left
  intro other member
  rw [leader_append member]

namespace Assembly

/-- The nodes and indexes are those of atoms and rules, and there are no edges. -/
structure Indexes (policy : HeadPolicy) (atoms : List Atom) (rules : List Rule)
    (assembly : Assembly) : Prop where
  nodes : assembly.graph.nodes =
    atoms.map atomNode ++ (leadingRules policy rules).map ruleNode
  atomsNamed : ∀ name, assembly.atomsByName.getD name [] =
    (atoms.filter fun atom => Outline.predicateName atom.predicate = name).map
      fun atom => nodeId atom.id
  rulesNamed : ∀ name, assembly.rulesByName.getD name [] =
    ((leadingRules policy rules).filter fun rule => Outline.predicateName rule.head = name).map
      fun rule => nodeId rule.id
  heads : policy = .mergeByHead → ∀ head, assembly.heads[head]? =
    (rules.find? fun rule => rule.head = head).map fun rule => nodeId rule.id
  sources : assembly.sources = rules.map fun rule => nodeId (leader policy rules rule).id

/-- The edges are those called for so far without repeats, and their keys were seen. -/
structure Linked (called : List Edge) (assembly : Assembly) : Prop where
  edges : assembly.graph.edges = firstOccurrencesBy Edge.key called
  seen : ∀ key, key ∈ assembly.seen ↔ key ∈ called.map Edge.key

variable {policy : HeadPolicy} {atoms : List Atom} {rules : List Rule} {called : List Edge}
  {assembly : Assembly}

/-- An empty assembly indexes no atoms and no rules. -/
theorem indexes_empty (policy : HeadPolicy) : Indexes policy [] [] empty where
  nodes := by cases policy <;> rfl
  atomsNamed _ := Std.HashMap.getD_empty
  rulesNamed _ := by cases policy <;> exact Std.HashMap.getD_empty
  heads _ _ := Std.HashMap.getElem?_empty
  sources := rfl

/-- An empty assembly links nothing. -/
theorem linked_empty : Linked [] empty where
  edges := rfl
  seen _ := by simp [empty]

/-- An atom that comes next is indexed behind the others under its name. Atoms come before all
rules. -/
theorem Indexes.addAtom (indexes : Indexes policy atoms [] assembly) (atom : Atom) :
    Indexes policy (atoms ++ [atom]) [] (assembly.addAtom atom) where
  nodes := by
    have none : (leadingRules policy []).map ruleNode = [] := by cases policy <;> rfl
    rw [Assembly.addAtom, indexes.nodes, none, List.append_nil, List.append_nil, List.map_append]
    rfl
  atomsNamed name := by
    rw [Assembly.addAtom, getD_file, indexes.atomsNamed, List.filter_append, List.map_append]
    by_cases same : Outline.predicateName atom.predicate = name
    · simp [same]
    · simp [same]
  rulesNamed := indexes.rulesNamed
  heads := indexes.heads
  sources := indexes.sources

/-- A rule that gets a node of its own is filed with it. -/
theorem Indexes.addRuleNode (indexes : Indexes policy atoms rules assembly) {rule : Rule}
    (own : policy = .mergeByHead → rule.head ∉ rules.map Rule.head) :
    Indexes policy atoms (rules ++ [rule]) (assembly.addRuleNode rule) := by
  have leading : leadingRules policy (rules ++ [rule]) = leadingRules policy rules ++ [rule] := by
    rw [leadingRules_append_singleton, if_neg fun shared => own shared.1 shared.2]
  refine ⟨?_, indexes.atomsNamed, ?_, ?_, ?_⟩
  · rw [Assembly.addRuleNode, leading, indexes.nodes, List.map_append, List.append_assoc]
    rfl
  · intro name
    rw [Assembly.addRuleNode, getD_file, indexes.rulesNamed, leading, List.filter_append,
      List.map_append]
    by_cases same : Outline.predicateName rule.head = name
    · simp [same]
    · simp [same]
  · intro merge head
    rw [Assembly.addRuleNode, Std.HashMap.getElem?_insert, indexes.heads merge,
      List.find?_append]
    by_cases same : rule.head = head
    · have new := find?_eq_none_of_head (same ▸ own merge)
      simp [same, new]
    · simp [same]
  · have itself : leader policy (rules ++ [rule]) rule = rule := by
      cases policy with
      | mergeByHead => rw [leader, List.find?_append, find?_eq_none_of_head (own rfl)]; simp
      | nodePerRule => rfl
    rw [Assembly.addRuleNode, indexes.sources, map_leader_append_singleton, itself]

/-- Each rule is filed with a node of its own, or shares that of a rule in front of it. -/
theorem Indexes.addRule (indexes : Indexes policy atoms rules assembly) (rule : Rule) :
    Indexes policy atoms (rules ++ [rule]) (assembly.addRule policy rule) := by
  rw [Assembly.addRule.eq_def]
  split
  next shared found =>
    -- The node is that of the first rule with this head, and only the source is new.
    rw [indexes.heads rfl] at found
    obtain ⟨first, isFirst, rfl⟩ := Option.map_eq_some_iff.mp found
    have known : rule.head ∈ rules.map Rule.head :=
      List.mem_map.mpr ⟨first, List.mem_of_find?_eq_some isFirst,
        (find?_key_eq_some_iff.mp isFirst).2⟩
    have leading : leadingRules .mergeByHead (rules ++ [rule]) =
        leadingRules .mergeByHead rules := by
      rw [leadingRules_append_singleton, if_pos ⟨rfl, known⟩, List.append_nil]
    have leaders : leader .mergeByHead (rules ++ [rule]) rule = first := by
      rw [leader, List.find?_append, isFirst]
      rfl
    refine ⟨?_, indexes.atomsNamed, ?_, ?_, ?_⟩
    · rw [leading]
      exact indexes.nodes
    · rw [leading]
      exact indexes.rulesNamed
    · intro _ head
      rw [indexes.heads rfl, List.find?_append]
      by_cases same : rule.head = head
      · rw [← same, isFirst]
        rfl
      · simp [same]
    · rw [map_leader_append_singleton, leaders, indexes.sources]
  next notShared =>
    -- A rule in front with the same head would have its node filed under the head.
    apply indexes.addRuleNode
    rintro rfl known
    obtain ⟨other, member, same⟩ := List.mem_map.mp known
    obtain ⟨first, found, -⟩ := exists_isFirst Rule.head member
    have shared := indexes.heads rfl rule.head
    rw [← same, found] at shared
    exact notShared _ rfl (same ▸ shared)

/-- A rule that is filed adds no edge. -/
theorem Linked.addRule (linked : Linked called assembly) (rule : Rule) :
    Linked called (assembly.addRule policy rule) := by
  rw [Assembly.addRule.eq_def]
  split
  next => exact ⟨linked.edges, linked.seen⟩
  next => exact ⟨linked.edges, linked.seen⟩

/-- A graph for which an assembly stands when all nodes are filed and some edges were called for. -/
structure Assembled (policy : HeadPolicy) (atoms : List Atom) (rules : List Rule)
    (called : List Edge) (assembly : Assembly) : Prop where
  indexes : Indexes policy atoms rules assembly
  linked : Linked called assembly

/-- The run of the first pass files all nodes, and adds no edge. -/
theorem assembled_indexed (policy : HeadPolicy) (atoms : List Atom) (rules : List Rule) :
    Assembled policy atoms rules [] (indexed policy atoms rules) := by
  have ofAtoms : Assembled policy atoms [] [] (atoms.foldl addAtom empty) := by
    induction atoms using List.reverseRecOn with
    | nil => exact ⟨indexes_empty policy, linked_empty⟩
    | append_singleton atoms atom inductionHypothesis =>
      obtain ⟨indexes, linked⟩ := inductionHypothesis
      rw [List.foldl_append]
      exact ⟨indexes.addAtom atom, linked.edges, linked.seen⟩
  rw [indexed]
  induction rules using List.reverseRecOn with
  | nil => exact ofAtoms
  | append_singleton rules rule inductionHypothesis =>
    obtain ⟨indexes, linked⟩ := inductionHypothesis
    rw [List.foldl_append]
    exact ⟨indexes.addRule rule, linked.addRule rule⟩

/-- The nodes filed under a name are those to which a name gives edges. -/
theorem Indexes.edgesUnder (indexes : Indexes policy atoms rules assembly) (source name : String) :
    assembly.edgesUnder source name = edgesTo atoms (leadingRules policy rules) source name := by
  rw [Assembly.edgesUnder, indexes.atomsNamed, indexes.rulesNamed, edgesTo, List.filter_map,
    List.filter_filter, List.map_map, List.map_map]
  simp only [Function.comp_def, Bool.decide_and, Bool.and_comm]

/-- One edge: it is added when its key is new. -/
theorem Assembled.addEdge (assembled : Assembled policy atoms rules called assembly) (edge : Edge) :
    Assembled policy atoms rules (called ++ [edge]) (assembly.addEdge edge) := by
  obtain ⟨indexes, linked⟩ := assembled
  rw [Assembly.addEdge]
  split
  next known =>
    have repeated := (linked.seen _).mp known
    refine ⟨indexes, ?_, ?_⟩
    · rw [linked.edges, firstOccurrencesBy_append_singleton, if_pos repeated, List.append_nil]
    · intro key
      rw [linked.seen, List.map_append, List.mem_append, List.map_singleton, List.mem_singleton]
      constructor
      · exact .inl
      · rintro (before | rfl)
        · exact before
        · exact repeated
  next new =>
    rw [linked.seen] at new
    refine ⟨⟨indexes.nodes, indexes.atomsNamed, indexes.rulesNamed, indexes.heads, indexes.sources⟩,
      ?_, ?_⟩
    · rw [linked.edges, firstOccurrencesBy_append_singleton, if_neg new]
    · intro key
      rw [Std.HashSet.mem_insert, linked.seen, List.map_append, List.mem_append,
        List.map_singleton, List.mem_singleton, beq_iff_eq, or_comm, eq_comm]

/-- A run of steps that each call for edges calls for all of them in order. -/
theorem Assembled.foldl {α : Type} {step : Assembly → α → Assembly} {edgesOf : α → List Edge}
    (calls : ∀ {called assembly}, Assembled policy atoms rules called assembly → ∀ item,
      Assembled policy atoms rules (called ++ edgesOf item) (step assembly item))
    (items : List α) (assembled : Assembled policy atoms rules called assembly) :
    Assembled policy atoms rules (called ++ items.flatMap edgesOf) (items.foldl step assembly) := by
  induction items generalizing called assembly with
  | nil => rwa [List.flatMap_nil, List.append_nil]
  | cons item items inductionHypothesis =>
    rw [List.flatMap_cons, ← List.append_assoc]
    exact inductionHypothesis (calls assembled item)

/-- One name: it calls for the edges to the nodes that it is looked up to. -/
theorem Assembled.link (assembled : Assembled policy atoms rules called assembly)
    (source name : String) :
    Assembled policy atoms rules (called ++ edgesTo atoms (leadingRules policy rules) source name)
      (assembly.link source name) := by
  have run := assembled.foldl Assembled.addEdge (assembly.edgesUnder source name)
  rw [List.flatMap_singleton'] at run
  rw [Assembly.link, ← assembled.indexes.edgesUnder]
  exact run

/-- One rule: it calls for the edges of the names that it refers to. -/
theorem Assembled.linkRule (assembled : Assembled policy atoms rules called assembly)
    (extraction : ReferenceExtraction) (rule : Rule × String) :
    Assembled policy atoms rules
      (called ++ (references extraction rule.1.definition).flatMap
        (edgesTo atoms (leadingRules policy rules) rule.2))
      (assembly.linkRule extraction rule) :=
  assembled.foldl (fun assembled name => assembled.link rule.2 name) _

end Assembly

/-- Looking names up in indexes makes the dependency graph. -/
theorem assemble_eq_build (policy : HeadPolicy) (extraction : ReferenceExtraction)
    (atoms : List Atom) (rules : List Rule) :
    assemble policy extraction atoms rules = build policy extraction atoms rules := by
  have indexed := Assembly.assembled_indexed policy atoms rules
  obtain ⟨indexes, linked⟩ := indexed.foldl (fun assembled => assembled.linkRule extraction)
    (rules.zip (Assembly.indexed policy atoms rules).sources)
  have called : (rules.zip (Assembly.indexed policy atoms rules).sources).flatMap
      (fun rule => (references extraction rule.1.definition).flatMap
        (edgesTo atoms (leadingRules policy rules) rule.2)) =
      calledEdges policy extraction atoms rules := by
    rw [indexed.indexes.sources, ← List.map_prod_left_eq_zip, List.flatMap_map, calledEdges]
  rw [List.nil_append, called] at linked
  rw [assemble, build, ← indexes.nodes]
  exact congrArg (DependencyGraph.mk _) linked.edges

end Statute.Graph
