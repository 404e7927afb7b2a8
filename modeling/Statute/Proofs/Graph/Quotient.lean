import Statute.Proofs.Graph.Edges

/-!
# Rules that share a node

When rules of one head share a node, the graph is the graph with a node for each rule, in which the
nodes of rules with the same head have become one. Its edges, read with heads in place of the
numbers of nodes, are the same for every order of the atoms and rules. All of this is about rules
with different numbers.
-/

namespace Statute.Graph

open Logic

/-- A rule refers to the name of an atom with a node's number. -/
def RefersToAtom (extraction : ReferenceExtraction) (atoms : List Atom) (rule : Rule)
    (target : String) : Prop :=
  ∃ atom ∈ atoms, nodeId atom.id = target ∧
    Outline.predicateName atom.predicate ∈ references extraction rule.definition

/-- A rule refers to the name of a head. -/
def RefersToHead (extraction : ReferenceExtraction) (rule : Rule) (head : String) : Prop :=
  Outline.predicateName head ∈ references extraction rule.definition

/-- What an edge says with heads in place of the numbers of rule nodes. -/
inductive Reading where
  | toAtom (head atom : String)
  | toHead (head target : String)

/-- The head that a rule node is labelled with. -/
def DependencyGraph.head? (graph : DependencyGraph) (id : String) : Option String :=
  ((graph.nodesOf .rule).find? fun node => node.id = id).map Node.label

/-- Reads an edge, when its source and a rule that it points at are nodes of the graph. -/
def DependencyGraph.reading? (graph : DependencyGraph) (edge : Edge) : Option Reading :=
  match edge.targetKind with
  | .atom => (graph.head? edge.source).map fun head => .toAtom head edge.target
  | .rule => do return .toHead (← graph.head? edge.source) (← graph.head? edge.target)

variable {extraction : ReferenceExtraction} {atoms : List Atom} {rules : List Rule}

section

variable (apart : (rules.map Rule.id).Nodup)
include apart

/-- Rules with numbers of their own are told apart by their nodes. -/
theorem eq_of_nodeId_eq {left right : Rule} (leftMember : left ∈ rules)
    (rightMember : right ∈ rules) (same : nodeId left.id = nodeId right.id) : left = right :=
  List.inj_on_of_nodup_map apart leftMember rightMember (nodeId_inj.mp same)

/-- Rules belong to the node of the first rule with their head. -/
theorem nodeOf_first_iff {first rule : Rule} (isFirst : IsFirst Rule.head rules first) :
    NodeOf .mergeByHead rules rule (nodeId first.id) ↔ rule.head = first.head := by
  constructor
  · rintro ⟨other, otherFirst, same, node⟩
    obtain rfl := eq_of_nodeId_eq apart isFirst.mem otherFirst.mem node
    exact same.symm
  · intro same
    exact ⟨first, isFirst, same.symm, rfl⟩

/-- Without sharing, a node is that of one rule. -/
theorem nodeOf_own_iff {rule other : Rule} (member : rule ∈ rules) (otherMember : other ∈ rules) :
    NodeOf .nodePerRule rules other (nodeId rule.id) ↔ other = rule := by
  constructor
  · intro node
    exact eq_of_nodeId_eq apart otherMember member node.symm
  · rintro rfl
    rfl

/-- Edges to atoms in the graph with shared nodes. -/
theorem hasEdge_merged_atom_iff {first : Rule} (isFirst : IsFirst Rule.head rules first)
    {target : String} :
    (build .mergeByHead extraction atoms rules).HasEdge (nodeId first.id) target .atom ↔
      ∃ rule ∈ rules, rule.head = first.head ∧ RefersToAtom extraction atoms rule target := by
  rw [hasEdge_atom_iff]
  simp only [nodeOf_first_iff apart isFirst, RefersToAtom]

/-- Edges to atoms in the graph without shared nodes. -/
theorem hasEdge_own_atom_iff {rule : Rule} (member : rule ∈ rules) {target : String} :
    (build .nodePerRule extraction atoms rules).HasEdge (nodeId rule.id) target .atom ↔
      RefersToAtom extraction atoms rule target := by
  rw [hasEdge_atom_iff]
  constructor
  · rintro ⟨other, otherMember, node, refers⟩
    obtain rfl := (nodeOf_own_iff apart member otherMember).mp node
    exact refers
  · intro refers
    exact ⟨rule, member, rfl, refers⟩

/-- Edges to rules in the graph with shared nodes. -/
theorem hasEdge_merged_rule_iff {first second : Rule} (firstIsFirst : IsFirst Rule.head rules first)
    (secondIsFirst : IsFirst Rule.head rules second) :
    (build .mergeByHead extraction atoms rules).HasEdge (nodeId first.id) (nodeId second.id) .rule ↔
      first.head ≠ second.head ∧
        ∃ rule ∈ rules, rule.head = first.head ∧ RefersToHead extraction rule second.head := by
  have heads : nodeId second.id ≠ nodeId first.id ↔ first.head ≠ second.head := by
    constructor
    · intro nodes same
      exact nodes (by rw [firstIsFirst.unique secondIsFirst same])
    · intro different same
      exact different (by rw [eq_of_nodeId_eq apart secondIsFirst.mem firstIsFirst.mem same])
  rw [hasEdge_rule_iff, heads]
  refine and_congr_right fun _ => ?_
  constructor
  · rintro ⟨rule, member, node, other, leads, same, refers⟩
    have otherIsFirst := mem_firstOccurrencesBy_iff.mp leads
    obtain rfl := eq_of_nodeId_eq apart otherIsFirst.mem secondIsFirst.mem same
    exact ⟨rule, member, (nodeOf_first_iff apart firstIsFirst).mp node, refers⟩
  · rintro ⟨rule, member, same, refers⟩
    exact ⟨rule, member, (nodeOf_first_iff apart firstIsFirst).mpr same, second,
      mem_firstOccurrencesBy_iff.mpr secondIsFirst, rfl, refers⟩

/-- Edges to rules in the graph without shared nodes. -/
theorem hasEdge_own_rule_iff {rule other : Rule} (member : rule ∈ rules)
    (otherMember : other ∈ rules) :
    (build .nodePerRule extraction atoms rules).HasEdge (nodeId rule.id) (nodeId other.id) .rule ↔
      other ≠ rule ∧ RefersToHead extraction rule other.head := by
  have nodes : nodeId other.id ≠ nodeId rule.id ↔ other ≠ rule := by
    constructor
    · rintro different rfl
      exact different rfl
    · intro different same
      exact different (eq_of_nodeId_eq apart otherMember member same)
  rw [hasEdge_rule_iff, nodes]
  refine and_congr_right fun _ => ?_
  constructor
  · rintro ⟨source, sourceMember, node, target, targetMember, same, refers⟩
    obtain rfl := (nodeOf_own_iff apart member sourceMember).mp node
    obtain rfl := eq_of_nodeId_eq apart targetMember otherMember same
    exact refers
  · intro refers
    exact ⟨rule, member, rfl, other, otherMember, rfl, refers⟩

/-- A shared node is labelled with the head of the rules that share it. -/
theorem head?_merged {first : Rule} (isFirst : IsFirst Rule.head rules first) :
    (build .mergeByHead extraction atoms rules).head? (nodeId first.id) = some first.head := by
  have leads : first ∈ leadingRules .mergeByHead rules := mem_firstOccurrencesBy_iff.mpr isFirst
  obtain ⟨found, finds, -, same⟩ := exists_isFirst (fun rule : Rule => nodeId rule.id) leads
  have member : found ∈ rules :=
    (mem_firstOccurrencesBy_iff.mp (List.mem_of_find?_eq_some finds)).mem
  obtain rfl := eq_of_nodeId_eq apart member isFirst.mem same
  rw [DependencyGraph.head?, nodesOf_rule_build, List.find?_map]
  exact congrArg (Option.map Node.label ∘ Option.map ruleNode) finds

/-- An edge of the graph with shared nodes leads from a head to an atom, or to another head. -/
theorem mem_edges_merged_iff {edge : Edge} :
    edge ∈ (build .mergeByHead extraction atoms rules).edges ↔
      (∃ first, IsFirst Rule.head rules first ∧
        (∃ rule ∈ rules, rule.head = first.head ∧
          RefersToAtom extraction atoms rule edge.target) ∧
        edge = Edge.between (nodeId first.id) edge.target .atom) ∨
      ∃ first second, IsFirst Rule.head rules first ∧ IsFirst Rule.head rules second ∧
        (first.head ≠ second.head ∧
          ∃ rule ∈ rules, rule.head = first.head ∧ RefersToHead extraction rule second.head) ∧
        edge = Edge.between (nodeId first.id) (nodeId second.id) .rule := by
  rw [mem_edges_build_iff]
  constructor
  · rintro ⟨named, has⟩
    obtain ⟨id, source, target, kind⟩ := edge
    cases kind with
    | atom =>
      obtain ⟨rule, member, ⟨first, isFirst, same, rfl⟩, refers⟩ := hasEdge_atom_iff.mp has
      exact .inl ⟨first, isFirst, ⟨rule, member, same.symm, refers⟩, named⟩
    | rule =>
      obtain ⟨-, rule, member, ⟨first, isFirst, -, rfl⟩, second, leads, rfl, -⟩ :=
        hasEdge_rule_iff.mp has
      have secondIsFirst := mem_firstOccurrencesBy_iff.mp leads
      exact .inr ⟨first, second, isFirst, secondIsFirst,
        (hasEdge_merged_rule_iff apart isFirst secondIsFirst).mp has, named⟩
  · rintro (⟨first, isFirst, refers, named⟩ |
      ⟨first, second, firstIsFirst, secondIsFirst, refers, rfl⟩)
    · rw [named]
      exact ⟨rfl, (hasEdge_merged_atom_iff apart isFirst).mpr refers⟩
    · exact ⟨rfl, (hasEdge_merged_rule_iff apart firstIsFirst secondIsFirst).mpr refers⟩

/-- An edge to an atom says that the head of its node refers to the atom. -/
theorem reading?_merged_atom {first : Rule} (isFirst : IsFirst Rule.head rules first)
    (target : String) :
    (build .mergeByHead extraction atoms rules).reading?
        (Edge.between (nodeId first.id) target .atom) = some (.toAtom first.head target) := by
  simp only [DependencyGraph.reading?, Edge.between, head?_merged apart isFirst, Option.map_some]

/-- An edge between two rules says that the head of the one refers to that of the other. -/
theorem reading?_merged_rule {first second : Rule} (firstIsFirst : IsFirst Rule.head rules first)
    (secondIsFirst : IsFirst Rule.head rules second) :
    (build .mergeByHead extraction atoms rules).reading?
        (Edge.between (nodeId first.id) (nodeId second.id) .rule) =
      some (.toHead first.head second.head) := by
  simp only [DependencyGraph.reading?, Edge.between, head?_merged apart firstIsFirst,
    head?_merged apart secondIsFirst, Option.bind_eq_bind, Option.bind_some, Option.pure_def]

/-- What the edges say is what the rules refer to, whichever rule stands for a head. -/
theorem mem_readings_merged_iff {reading : Option Reading} :
    reading ∈ (build .mergeByHead extraction atoms rules).edges.map
        (build .mergeByHead extraction atoms rules).reading? ↔
      (∃ rule ∈ rules, ∃ target, RefersToAtom extraction atoms rule target ∧
        some (.toAtom rule.head target) = reading) ∨
      ∃ rule ∈ rules, ∃ other ∈ rules, rule.head ≠ other.head ∧
        RefersToHead extraction rule other.head ∧
        some (.toHead rule.head other.head) = reading := by
  rw [List.mem_map]
  constructor
  · rintro ⟨edge, member, rfl⟩
    rcases (mem_edges_merged_iff apart).mp member with
      ⟨first, isFirst, ⟨rule, ofRules, same, refers⟩, named⟩ |
      ⟨first, second, firstIsFirst, secondIsFirst, ⟨different, rule, ofRules, same, refers⟩, rfl⟩
    · refine .inl ⟨rule, ofRules, edge.target, refers, ?_⟩
      rw [named, reading?_merged_atom apart isFirst, same]
      rfl
    · refine .inr ⟨rule, ofRules, second, secondIsFirst.mem, same ▸ different, refers, ?_⟩
      rw [reading?_merged_rule apart firstIsFirst secondIsFirst, same]
  · rintro (⟨rule, ofRules, target, refers, rfl⟩ | ⟨rule, ofRules, other, otherOfRules, different,
      refers, rfl⟩)
    · obtain ⟨first, -, isFirst, same⟩ := exists_isFirst Rule.head ofRules
      refine ⟨Edge.between (nodeId first.id) target .atom, ?_, ?_⟩
      · exact (mem_edges_merged_iff apart).mpr
          (.inl ⟨first, isFirst, ⟨rule, ofRules, same.symm, refers⟩, rfl⟩)
      · rw [reading?_merged_atom apart isFirst, same]
    · obtain ⟨first, -, isFirst, same⟩ := exists_isFirst Rule.head ofRules
      obtain ⟨second, -, secondIsFirst, otherSame⟩ := exists_isFirst Rule.head otherOfRules
      rw [← same, ← otherSame] at different
      rw [← otherSame] at refers
      refine ⟨Edge.between (nodeId first.id) (nodeId second.id) .rule, ?_, ?_⟩
      · exact (mem_edges_merged_iff apart).mpr (.inr ⟨first, second, isFirst, secondIsFirst,
          ⟨different, rule, ofRules, same.symm, refers⟩, rfl⟩)
      · rw [reading?_merged_rule apart isFirst secondIsFirst, same, otherSame]

/-- No two edges say the same. -/
theorem nodup_readings_merged :
    ((build .mergeByHead extraction atoms rules).edges.map
      (build .mergeByHead extraction atoms rules).reading?).Nodup := by
  have edges : (build .mergeByHead extraction atoms rules).edges.Nodup :=
    .of_map Edge.key (nodup_keys_firstOccurrencesBy _ _)
  -- A head has one node, so edges that say the same have the same ends.
  refine edges.map_on ?_
  intro edge member other otherMember same
  rcases (mem_edges_merged_iff apart).mp member with
    ⟨first, isFirst, -, named⟩ | ⟨first, second, isFirst, secondIsFirst, -, rfl⟩
  · rcases (mem_edges_merged_iff apart).mp otherMember with
      ⟨otherFirst, otherIsFirst, -, otherNamed⟩ |
      ⟨otherFirst, otherSecond, otherIsFirst, otherSecondIsFirst, -, rfl⟩
    · rw [named, otherNamed, reading?_merged_atom apart isFirst,
        reading?_merged_atom apart otherIsFirst] at same
      obtain ⟨heads, targets⟩ := Reading.toAtom.inj (Option.some.inj same)
      rw [named, otherNamed, isFirst.unique otherIsFirst heads]
      exact congrArg (Edge.between _ · _) targets
    · rw [named, reading?_merged_atom apart isFirst,
        reading?_merged_rule apart otherIsFirst otherSecondIsFirst] at same
      cases same
  · rcases (mem_edges_merged_iff apart).mp otherMember with
      ⟨otherFirst, otherIsFirst, -, otherNamed⟩ |
      ⟨otherFirst, otherSecond, otherIsFirst, otherSecondIsFirst, -, rfl⟩
    · rw [otherNamed, reading?_merged_rule apart isFirst secondIsFirst,
        reading?_merged_atom apart otherIsFirst] at same
      cases same
    · rw [reading?_merged_rule apart isFirst secondIsFirst,
        reading?_merged_rule apart otherIsFirst otherSecondIsFirst] at same
      obtain ⟨heads, targets⟩ := Reading.toHead.inj (Option.some.inj same)
      rw [isFirst.unique otherIsFirst heads, secondIsFirst.unique otherSecondIsFirst targets]

/-- The edges say the same for every order of the atoms and of the rules. -/
theorem perm_readings_merged {otherAtoms : List Atom} {otherRules : List Rule}
    (atomsPerm : atoms.Perm otherAtoms) (rulesPerm : rules.Perm otherRules) :
    ((build .mergeByHead extraction atoms rules).edges.map
        (build .mergeByHead extraction atoms rules).reading?).Perm
      ((build .mergeByHead extraction otherAtoms otherRules).edges.map
        (build .mergeByHead extraction otherAtoms otherRules).reading?) := by
  have otherApart : (otherRules.map Rule.id).Nodup := (rulesPerm.map Rule.id).nodup_iff.mp apart
  refine (List.perm_ext_iff_of_nodup (nodup_readings_merged apart)
    (nodup_readings_merged otherApart)).mpr ?_
  intro reading
  rw [mem_readings_merged_iff apart, mem_readings_merged_iff otherApart]
  simp only [RefersToAtom, atomsPerm.mem_iff, rulesPerm.mem_iff]

end

/-- The graph in which rules of one head share a node is the quotient of the graph with a node for
each rule. Its rule nodes are those of the rules that are the first with their head, in order. A
head has an edge to an atom when one of its rules has it without sharing, and an edge to another
head when one of its rules has one to a rule of that head. So its edges, read with heads in place of
rule nodes, are the same for every order of the atoms and of the rules. -/
theorem merged_is_quotient {rules : List Rule} (apart : (rules.map Rule.id).Nodup)
    (extraction : ReferenceExtraction) (atoms : List Atom) :
    (∃ firsts : List Rule,
      (build .mergeByHead extraction atoms rules).nodesOf .rule = firsts.map ruleNode ∧
      firsts.Sublist rules ∧ (firsts.map Rule.head).Nodup ∧
      ∀ rule, rule ∈ firsts ↔ IsFirst Rule.head rules rule) ∧
    (∀ first, IsFirst Rule.head rules first → ∀ target,
      (build .mergeByHead extraction atoms rules).HasEdge (nodeId first.id) target .atom ↔
        ∃ rule ∈ rules, rule.head = first.head ∧
          (build .nodePerRule extraction atoms rules).HasEdge (nodeId rule.id) target .atom) ∧
    (∀ first, IsFirst Rule.head rules first → ∀ second, IsFirst Rule.head rules second →
      ((build .mergeByHead extraction atoms rules).HasEdge (nodeId first.id) (nodeId second.id)
          .rule ↔
        first.head ≠ second.head ∧ ∃ rule ∈ rules, rule.head = first.head ∧
          ∃ other ∈ rules, other.head = second.head ∧
            (build .nodePerRule extraction atoms rules).HasEdge (nodeId rule.id) (nodeId other.id)
              .rule)) ∧
    (∀ edge ∈ (build .mergeByHead extraction atoms rules).edges,
      ((build .mergeByHead extraction atoms rules).reading? edge).isSome) ∧
    ∀ otherAtoms otherRules, atoms.Perm otherAtoms → rules.Perm otherRules →
      ((build .mergeByHead extraction atoms rules).edges.map
          (build .mergeByHead extraction atoms rules).reading?).Perm
        ((build .mergeByHead extraction otherAtoms otherRules).edges.map
          (build .mergeByHead extraction otherAtoms otherRules).reading?) := by
  refine ⟨⟨leadingRules .mergeByHead rules, nodesOf_rule_build,
    sublist_firstOccurrencesBy _ _, nodup_keys_firstOccurrencesBy _ _,
    fun _ => mem_firstOccurrencesBy_iff⟩, ?_, ?_, ?_,
    fun _ _ atomsPerm rulesPerm => perm_readings_merged apart atomsPerm rulesPerm⟩
  · intro first isFirst target
    rw [hasEdge_merged_atom_iff apart isFirst]
    refine exists_congr fun rule => and_congr_right fun member => and_congr_right fun _ => ?_
    exact (hasEdge_own_atom_iff apart member).symm
  · intro first firstIsFirst second secondIsFirst
    rw [hasEdge_merged_rule_iff apart firstIsFirst secondIsFirst]
    refine and_congr_right fun different => ?_
    constructor
    · rintro ⟨rule, member, same, refers⟩
      refine ⟨rule, member, same, second, secondIsFirst.mem, rfl, ?_⟩
      refine (hasEdge_own_rule_iff apart member secondIsFirst.mem).mpr ⟨?_, refers⟩
      rintro rfl
      exact different same.symm
    · rintro ⟨rule, member, same, other, otherMember, otherSame, has⟩
      obtain ⟨-, refers⟩ := (hasEdge_own_rule_iff apart member otherMember).mp has
      exact ⟨rule, member, same, otherSame ▸ refers⟩
  · intro edge member
    rcases (mem_edges_merged_iff apart).mp member with
      ⟨first, isFirst, -, named⟩ | ⟨first, second, firstIsFirst, secondIsFirst, -, rfl⟩
    · rw [named, reading?_merged_atom apart isFirst]
      rfl
    · rw [reading?_merged_rule apart firstIsFirst secondIsFirst]
      rfl

/-- Two rules of one head, of which the second calls itself and the third rule. -/
def exampleSharing : List Rule :=
  [⟨10, 1, "", "p(X) :- a(X).", false, .epoch⟩, ⟨-11, 1, "", "p(X) :- q(X), p(X).", false, .epoch⟩,
    ⟨12, 1, "", "q(X) :- b(X).", true, .epoch⟩]

/-- The node of the two rules has the edge of the second rule to the third, and none to itself. -/
theorem exampleSharing_merged :
    (exampleSharing.map Rule.id).Nodup ∧
      (build .nodePerRule .lexical [] exampleSharing).edges =
        [Edge.between "-11" "12" .rule, Edge.between "-11" "10" .rule] ∧
      (build .mergeByHead .lexical [] exampleSharing).HasEdge "10" "12" .rule ∧
      ¬ (build .mergeByHead .lexical [] exampleSharing).HasEdge "10" "10" .rule := by
  have apart : (exampleSharing.map Rule.id).Nodup := by decide
  have own : (build .nodePerRule .lexical [] exampleSharing).edges =
      [Edge.between "-11" "12" .rule, Edge.between "-11" "10" .rule] := by
    decide +kernel
  obtain ⟨-, -, toHeads, -⟩ := merged_is_quotient apart .lexical []
  have one : IsFirst Rule.head exampleSharing exampleSharing[0] :=
    ⟨[], _, rfl, List.forall_mem_nil _⟩
  have three : IsFirst Rule.head exampleSharing exampleSharing[2] := by
    refine ⟨exampleSharing.take 2, [], rfl, ?_⟩
    decide
  have has : (build .nodePerRule .lexical [] exampleSharing).HasEdge (nodeId (-11)) (nodeId 12)
      .rule := ⟨Edge.between "-11" "12" .rule, by rw [own]; exact List.mem_cons_self, rfl⟩
  refine ⟨apart, own, ?_, ?_⟩
  · refine (toHeads _ one _ three).mpr ⟨by decide, exampleSharing[1], by decide, by decide, ?_⟩
    exact ⟨exampleSharing[2], by decide, rfl, has⟩
  · intro toItself
    obtain ⟨different, -⟩ := (toHeads _ one _ one).mp toItself
    exact different rfl

end Statute.Graph
