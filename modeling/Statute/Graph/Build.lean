import Statute.Color
import Statute.Graph.Basic
import Statute.Logic.Clause.Reader
import Statute.Occurrences
import Statute.Regulation.Rule

/-!
# Building the dependency graph

Every atom is a node. Rules are nodes by themselves, or rules of one head share the node of the
first of them. A rule's node has edges to every atom, and to every other rule node, whose predicate
name is among the names that the rule refers to.
-/

namespace Statute.Graph

open Logic

/-- The color of rule nodes. -/
def ruleColor : String := "#ed64a6"

/-- How rules become nodes. -/
inductive HeadPolicy where
  /-- Rules with the same head share a node, which has the number of the first. -/
  | mergeByHead
  | nodePerRule
deriving DecidableEq, Repr

namespace HeadPolicy

/-- The name of a policy in data. -/
def wireName : HeadPolicy → String
  | mergeByHead => "merge-by-head"
  | nodePerRule => "node-per-rule"

/-- The policy with a name in data. -/
def ofWireName? (name : String) : Option HeadPolicy :=
  [mergeByHead, nodePerRule].find? fun policy => policy.wireName == name

/-- Reads the JSON form of a policy. -/
def ofJson? (json : Json) : Option HeadPolicy :=
  json.alternative? >>= ofWireName?

end HeadPolicy

/-- How the names that a rule refers to are found. -/
inductive ReferenceExtraction where
  /-- All runs of predicate characters in its body text. -/
  | lexical
  /-- The predicates that its clause calls; as `lexical` when its definition is no clause. -/
  | parsed
deriving DecidableEq, Repr

namespace ReferenceExtraction

/-- The name of a way in data. -/
def wireName : ReferenceExtraction → String
  | lexical => "lexical"
  | parsed => "parsed"

/-- The way with a name in data. -/
def ofWireName? (name : String) : Option ReferenceExtraction :=
  [lexical, parsed].find? fun extraction => extraction.wireName == name

/-- Reads the JSON form of a way. -/
def ofJson? (json : Json) : Option ReferenceExtraction :=
  json.alternative? >>= ofWireName?

end ReferenceExtraction

/-- The names that a rule text refers to, in order. -/
def references (extraction : ReferenceExtraction) (definition : String) : List String :=
  match extraction with
  | .lexical => Outline.bodyTokens definition
  | .parsed =>
    match parseClause definition with
    | .ok clause => clause.referencedPredicates
    | .error _ => Outline.bodyTokens definition

/-- The rules that have a node of their own. -/
def leadingRules (policy : HeadPolicy) (rules : List Rule) : List Rule :=
  match policy with
  | .mergeByHead => firstOccurrencesBy Rule.head rules
  | .nodePerRule => rules

/-- The rule whose node a rule belongs to. -/
def leader (policy : HeadPolicy) (rules : List Rule) (rule : Rule) : Rule :=
  match policy with
  | .mergeByHead => (rules.find? fun other => other.head = rule.head).getD rule
  | .nodePerRule => rule

/-- The id of a node in decimal. -/
def nodeId (id : Int64) : String :=
  toString id.toInt

/-- The node of an atom. -/
def atomNode (atom : Atom) : Node :=
  ⟨nodeId atom.id, atom.predicate, .atom, (Color.ofId atom.id).hover⟩

/-- The node of a rule. -/
def ruleNode (rule : Rule) : Node :=
  ⟨nodeId rule.id, rule.head, .rule, ruleColor⟩

/-- The edges from a node to all atoms and all other rule nodes with a predicate name. -/
def edgesTo (atoms : List Atom) (leaders : List Rule) (source name : String) : List Edge :=
  let namedAtoms := atoms.filter fun atom => Outline.predicateName atom.predicate = name
  let namedRules := leaders.filter fun rule =>
    Outline.predicateName rule.head = name ∧ nodeId rule.id ≠ source
  namedAtoms.map (fun atom => Edge.between source (nodeId atom.id) .atom) ++
    namedRules.map (fun rule => Edge.between source (nodeId rule.id) .rule)

/-- All edges that the rules call for, repeats included. -/
def calledEdges (policy : HeadPolicy) (extraction : ReferenceExtraction) (atoms : List Atom)
    (rules : List Rule) : List Edge :=
  let leaders := leadingRules policy rules
  rules.flatMap fun rule =>
    (references extraction rule.definition).flatMap
      (edgesTo atoms leaders (nodeId (leader policy rules rule).id))

/-- The dependency graph of atoms and rules. -/
def build (policy : HeadPolicy) (extraction : ReferenceExtraction) (atoms : List Atom)
    (rules : List Rule) : DependencyGraph :=
  ⟨atoms.map atomNode ++ (leadingRules policy rules).map ruleNode,
    firstOccurrencesBy (fun edge => (edge.source, edge.target, edge.targetKind))
      (calledEdges policy extraction atoms rules)⟩

end Statute.Graph
