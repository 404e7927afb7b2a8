import Statute.Proofs.Graph.Edges
import Statute.Proofs.Logic.CalledNames

/-!
# References found with and without a grammar

What rules refer to can be read from their clauses or be taken to be all runs of predicate characters
in their body texts. The second way needs no grammar and finds more. For plain texts it finds every
name that the first way finds, so no edge of the graph is lost by it.
-/

namespace Statute.Graph

open Logic

variable {policy : HeadPolicy} {atoms : List Atom} {rules : List Rule}

/-- More references make more edges. -/
theorem edges_subset_of_references {extraction other : ReferenceExtraction}
    (more : ∀ rule ∈ rules, references extraction rule.definition ⊆
      references other rule.definition) :
    (build policy extraction atoms rules).edges ⊆ (build policy other atoms rules).edges := by
  intro edge member
  obtain ⟨named, hasEdge⟩ := mem_edges_build_iff.mp member
  obtain ⟨called, calledFor, key⟩ := hasEdge_build_iff.mp hasEdge
  obtain ⟨rule, ofRules, name, refers, toName⟩ := mem_calledEdges_iff.mp calledFor
  have calledForMore : called ∈ calledEdges policy other atoms rules :=
    mem_calledEdges_iff.mpr ⟨rule, ofRules, name, more rule ofRules refers, toName⟩
  exact mem_edges_build_iff.mpr ⟨named, hasEdge_build_iff.mpr ⟨called, calledForMore, key⟩⟩

/-- What the clause of a plain rule text refers to is found in its body text. -/
theorem references_parsed_subset {definition : String} (plain : IsPlainText definition.toList) :
    references .parsed definition ⊆ references .lexical definition := by
  intro name refers
  rw [references] at refers
  split at refers
  next clause parses => exact mem_bodyTokens_of_mem_referencedPredicates plain parses refers
  next => exact refers

/-- For plain rule texts the graph with references from body texts has the same nodes as the graph
with references from clauses, and all edges of it. Each name that the clause of a rule refers to is
found in the body text of the rule. -/
theorem lexical_edges_cover_parsed (policy : HeadPolicy) (atoms : List Atom) {rules : List Rule}
    (plain : ∀ rule ∈ rules, IsPlainText rule.definition.toList) :
    (build policy .lexical atoms rules).nodes = (build policy .parsed atoms rules).nodes ∧
    (build policy .parsed atoms rules).edges ⊆ (build policy .lexical atoms rules).edges ∧
    ∀ rule ∈ rules, ∀ clause, parseClause rule.definition = .ok clause →
      clause.referencedPredicates ⊆ Outline.bodyTokens rule.definition := by
  refine ⟨rfl, edges_subset_of_references fun rule member =>
    references_parsed_subset (plain rule member), ?_⟩
  intro rule member clause parses name refers
  exact mem_bodyTokens_of_mem_referencedPredicates (plain rule member) parses refers

/-- A clause with a comparison, and a text that is no clause. -/
def exampleAges : List Rule :=
  [⟨10, 1, "", "adult(X) :- person(X), Xage > age_limit(X).", false, .epoch⟩,
    ⟨11, 1, "", "minor(X) :- person(X) age(X).", false, .epoch⟩]

/-- The atoms whose names the rule texts have behind their necks. -/
def exampleAgeAtoms : List Atom :=
  [⟨1, 1, "person(X)", "", false, true, []⟩, ⟨2, 1, "age(X)", "", false, true, []⟩,
    ⟨3, 1, "age_limit(X)", "", false, true, []⟩]

/-- The clause calls one atom. Its text has the names of two more, one of them in a variable. -/
theorem exampleAges_covered :
    (∀ rule ∈ exampleAges, IsPlainText rule.definition.toList) ∧
    (build .nodePerRule .parsed exampleAgeAtoms exampleAges).edges.map Edge.id =
      ["10-atom:1", "11-atom:1", "11-atom:2"] ∧
    (build .nodePerRule .parsed exampleAgeAtoms exampleAges).edges ⊆
      (build .nodePerRule .lexical exampleAgeAtoms exampleAges).edges ∧
    (build .nodePerRule .lexical exampleAgeAtoms exampleAges).edges.map Edge.id =
      ["10-atom:1", "10-atom:2", "10-atom:3", "11-atom:1", "11-atom:2"] := by
  have plain : ∀ rule ∈ exampleAges, IsPlainText rule.definition.toList := by decide +kernel
  refine ⟨plain, by decide +kernel, ?_, by decide +kernel⟩
  exact (lexical_edges_cover_parsed .nodePerRule exampleAgeAtoms plain).2.1

end Statute.Graph
