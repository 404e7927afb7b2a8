import Statute.Proofs.Graph.Quotient
import Statute.Proofs.Logic.HeadName

/-!
# Edges to the atoms that rules call

With references read from clauses, the node of a rule has an edge to an atom when a rule of that
node calls the predicate name of the atom's text. For a text that begins plainly, and for no other,
this is the name of the atom. Other names are missed: one with an upper-case letter is cut off in
front of it, and a text that begins with a quote or a blank is taken whole.
-/

namespace Statute.Graph

open Logic Outline

/-- Two rules have the same node. -/
def SharesNode (policy : HeadPolicy) (rule other : Rule) : Prop :=
  match policy with
  | .mergeByHead => other.head = rule.head
  | .nodePerRule => other = rule

instance (policy : HeadPolicy) (rule other : Rule) : Decidable (SharesNode policy rule other) :=
  match policy with
  | .mergeByHead => inferInstanceAs (Decidable (other.head = rule.head))
  | .nodePerRule => inferInstanceAs (Decidable (other = rule))

/-- The predicates that the clause of a rule calls. -/
def calls (rule : Rule) : List String :=
  match parseClause rule.definition with
  | .ok clause => clause.referencedPredicates
  | .error _ => []

/-- The name of an atom, which is that of its text when this is read as a fact. -/
def factName? (atom : Atom) : Option String :=
  match parseClause (atom.predicate ++ ".") with
  | .ok ⟨head, none⟩ => head.name?
  | _ => none

/-- A rule of a node shares the node with the other rules of it. -/
theorem nodeOf_iff_sharesNode {policy : HeadPolicy} {rules : List Rule}
    (apart : (rules.map Rule.id).Nodup) {rule other : Rule} (member : rule ∈ rules)
    (otherMember : other ∈ rules) {source : String} (node : NodeOf policy rules rule source) :
    NodeOf policy rules other source ↔ SharesNode policy rule other := by
  cases policy with
  | mergeByHead =>
    obtain ⟨first, isFirst, same, rfl⟩ := node
    rw [nodeOf_first_iff apart isFirst, same]
    rfl
  | nodePerRule =>
    obtain rfl := node
    exact nodeOf_own_iff apart member otherMember

/-- The name of an atom is the predicate name of its text exactly when the text begins plainly. -/
theorem beginsPlainly_iff_factName? {atom : Atom} {head : Term}
    (parses : parseClause (atom.predicate ++ ".") = .ok ⟨head, none⟩) :
    BeginsPlainly atom.predicate ↔ factName? atom = some (predicateName atom.predicate) := by
  rw [factName?, parses]
  exact beginsPlainly_iff parses

/-- With references read from clauses, the node of a rule has an edge to an atom exactly when a rule
of the same node calls the predicate name of the atom's text. That is the name of the atom exactly
when the text begins plainly. -/
theorem edges_to_called_atoms {atoms : List Atom} {rules : List Rule}
    (atomsApart : (atoms.map Atom.id).Nodup) (rulesApart : (rules.map Rule.id).Nodup)
    (facts : ∀ atom ∈ atoms, ∃ head, parseClause (atom.predicate ++ ".") = .ok ⟨head, none⟩)
    (clauses : ∀ rule ∈ rules, ∃ clause, parseClause rule.definition = .ok clause)
    (policy : HeadPolicy) {rule : Rule} (member : rule ∈ rules) {source : String}
    (node : NodeOf policy rules rule source) {atom : Atom} (ofAtoms : atom ∈ atoms) :
    ((build policy .parsed atoms rules).HasEdge source (nodeId atom.id) .atom ↔
      ∃ other ∈ rules, SharesNode policy rule other ∧
        predicateName atom.predicate ∈ calls other) ∧
    (BeginsPlainly atom.predicate ↔ factName? atom = some (predicateName atom.predicate)) := by
  have references : ∀ other ∈ rules, references .parsed other.definition = calls other := by
    intro other otherMember
    obtain ⟨clause, parses⟩ := clauses other otherMember
    rw [Graph.references, calls, parses]
  constructor
  · rw [hasEdge_atom_iff]
    constructor
    · rintro ⟨other, otherMember, otherNode, target, ofTargets, same, refers⟩
      obtain rfl := List.inj_on_of_nodup_map atomsApart ofTargets ofAtoms (nodeId_inj.mp same)
      rw [references other otherMember] at refers
      have shares := (nodeOf_iff_sharesNode rulesApart member otherMember node).mp otherNode
      exact ⟨other, otherMember, shares, refers⟩
    · rintro ⟨other, otherMember, shares, refers⟩
      rw [← references other otherMember] at refers
      have otherNode := (nodeOf_iff_sharesNode rulesApart member otherMember node).mpr shares
      exact ⟨other, otherMember, otherNode, atom, ofAtoms, rfl, refers⟩
  · obtain ⟨head, parses⟩ := facts atom ofAtoms
    exact beginsPlainly_iff_factName? parses

/-- Two rules of one head, each of which calls one predicate. -/
def exampleWings : List Rule :=
  [⟨10, 1, "", "flies(X) :- hasWings(X).", false, .epoch⟩,
    ⟨11, 1, "", "flies(X) :- wings_2(X).", false, .epoch⟩]

/-- The atom that the second rule calls. -/
def exampleWing : Atom :=
  ⟨1, 1, "wings_2(X)", "", false, true, []⟩

/-- The node of the first rule has the edge that the second rule calls for. -/
theorem exampleWings_linked :
    (exampleWings.map Rule.id).Nodup ∧ BeginsPlainly exampleWing.predicate ∧
      exampleWings.map calls = [["hasWings"], ["wings_2"]] ∧
      NodeOf .mergeByHead exampleWings exampleWings[0] (nodeId 10) ∧
      (build .mergeByHead .parsed [exampleWing] exampleWings).HasEdge (nodeId 10) (nodeId 1) .atom ∧
      factName? exampleWing = some "wings_2" := by
  have atomsApart : ([exampleWing].map Atom.id).Nodup := by decide
  have apart : (exampleWings.map Rule.id).Nodup := by decide
  have called : exampleWings.map calls = [["hasWings"], ["wings_2"]] := by decide +kernel
  have plainly : BeginsPlainly exampleWing.predicate := by decide +kernel
  have node : NodeOf .mergeByHead exampleWings exampleWings[0] (nodeId 10) :=
    ⟨exampleWings[0], ⟨[], _, rfl, List.forall_mem_nil _⟩, rfl, rfl⟩
  have facts : ∀ atom ∈ [exampleWing], ∃ head,
      parseClause (atom.predicate ++ ".") = .ok ⟨head, none⟩ := by
    have named : (factName? exampleWing).isSome = true := by decide +kernel
    rw [factName?] at named
    split at named
    next head parses => exact List.forall_mem_singleton.mpr ⟨head, parses⟩
    next => cases named
  have clauses : ∀ rule ∈ exampleWings, ∃ clause, parseClause rule.definition = .ok clause := by
    have some : ∀ rule ∈ exampleWings, calls rule ≠ [] := by decide +kernel
    intro rule member
    have nonempty := some rule member
    rw [calls] at nonempty
    split at nonempty
    next clause parses => exact ⟨clause, parses⟩
    next => exact absurd rfl nonempty
  obtain ⟨linked, named⟩ := edges_to_called_atoms atomsApart apart facts clauses
    .mergeByHead List.mem_cons_self node (List.mem_singleton_self exampleWing)
  refine ⟨apart, plainly, called, node, linked.mpr ?_, named.mp plainly⟩
  exact ⟨exampleWings[1], by decide, by decide, by decide +kernel⟩

/-- Atoms with the names `hasWings`, `has wings` and `bird`. Only the last name has neither an
upper-case letter nor a blank, but a blank stands in front of it. -/
def exampleBirds : List Atom :=
  [⟨1, 1, "hasWings(X)", "", false, true, []⟩, ⟨2, 1, "'has wings'(X)", "", false, true, []⟩,
    ⟨3, 1, " bird(X)", "", false, true, []⟩]

/-- A rule that calls all of these atoms. -/
def exampleFlight : Rule :=
  ⟨10, 1, "", "flies(X) :- hasWings(X), 'has wings'(X), bird(X).", false, .epoch⟩

/-- Edges to the atoms that a rule calls can be missing: the rule calls each atom by the name of the
atom, and its node has an edge to none of them. -/
theorem exampleFlight_unlinked :
    (exampleBirds.map Atom.id).Nodup ∧
      exampleBirds.map factName? = [some "hasWings", some "has wings", some "bird"] ∧
      calls exampleFlight = ["hasWings", "has wings", "bird"] ∧
      ∀ policy, (build policy .parsed exampleBirds [exampleFlight]).edges = [] := by
  refine ⟨by decide, by decide +kernel, by decide +kernel, ?_⟩
  intro policy
  cases policy with
  | mergeByHead => decide +kernel
  | nodePerRule => decide +kernel

end Statute.Graph
