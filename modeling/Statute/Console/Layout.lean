import Statute.Examples.Store
import Statute.Graph.Basic
import Statute.Log.Feed
import Statute.Number.FixedPoint
import Statute.Terminal

/-!
# Layout

The lines in which the terminal shows fragments, atoms, rules, graphs, solutions, messages and log
entries.
-/

namespace Statute.Layout

open Statute.Terminal Statute.Text

/-- A number with spaces before it up to five characters. -/
def alignedId (id : Int64) : String :=
  let digits := toString id.toInt
  String.ofList (List.replicate (5 - digits.length) ' ') ++ digits

/-- A date with the hour and minute. -/
def minuteText (timestamp : Timestamp) : String :=
  String.ofList <| Timestamp.dateText timestamp.date ++ ' ' ::
    (Timestamp.timeText timestamp.time).take 5

/-- The hour, minute and second. -/
def secondText (timestamp : Timestamp) : String :=
  String.ofList ((Timestamp.timeText timestamp.time).take 8)

/-! ## Fragments -/

/-- The line of a fragment in a list. -/
def fragmentLine (fragment : Fragment) : String :=
  alignedId fragment.id ++ "  " ++ heading fragment.title ++ "  " ++
    dimmed (fragment.model.displayName ++ " · " ++ fragment.formalism.displayName ++ " · " ++
      minuteText fragment.createdAt)

/-- The title of a fragment, its source if it has one, and an empty line. -/
def fragmentHeader (fragment : Fragment) : List String :=
  heading fragment.title :: (fragment.source.map dimmed).toList ++ [""]

/-- What holds of an atom besides its predicate. -/
def atomFlags (atom : Atom) : List String :=
  (if atom.isNegated then ["negated"] else []) ++ (if atom.isFact then ["fact"] else [])

/-- The line of an atom in a list. -/
def atomLine (atom : Atom) : String :=
  swatch (Color.ofId atom.id).hover ++ " " ++ alignedId atom.id ++ "  " ++ atom.predicate ++ "  " ++
    atom.description ++ " " ++ dimmed (joined ", " (atomFlags atom))

/-- Dollars with four decimal places. -/
def dollars (amount : Float) : String :=
  "$" ++ Number.fixed 4 amount

/-- What a fragment has cost by its tokens and by a reported price. -/
def costLines (fragment : Fragment) (price : Float) : List String :=
  [heading fragment.title,
    "  model:      " ++ fragment.model.displayName,
    "  tokens:     " ++ toString (fragment.usedTokensIn.getD 0).toNat ++ " in / " ++
      toString (fragment.usedTokensOut.getD 0).toNat ++ " out",
    "  estimated:  " ++ dollars fragment.spent,
    "  reported:   " ++ dollars price]

/-! ## Rules -/

/-- The line of a literal with its separator; the last literal of a rule ends with a stop. -/
def literalLine (literal : Logic.Outline.Literal) : String :=
  "      " ++ literal.text ++ match literal.separator with
    | some ';' => " ;"
    | some separator => String.singleton separator
    | none => "."

/-- The lines of a rule: its number and description, its head, and one line for each literal. -/
def ruleLines (rule : Rule) : List String :=
  let title := swatch (Color.ofId rule.id).hover ++ " #" ++ toString rule.id.toInt ++
    (if rule.isGoal then " [goal]" else "") ++
    (if rule.description.isEmpty then "" else " " ++ dimmed rule.description)
  title :: match Logic.Outline.splitClause rule.definition with
    | .ok (head, tail) =>
      ("  " ++ heading head ++ " :-") :: (Logic.Outline.splitLiterals tail).map literalLine
    | .error _ => ["  " ++ heading (trimmed rule.definition)]

/-! ## Graphs -/

/-- The line of what an edge points at. -/
def targetLine (target : Graph.Node) : String :=
  "    -> " ++ swatch target.color ++ " " ++ target.label ++ " " ++
    dimmed (target.kind.wireName ++ " #" ++ target.id)

/-- The lines of a rule node: the node itself and what its edges point at. -/
def nodeLines (graph : Graph.DependencyGraph) (node : Graph.Node) : List String :=
  (swatch node.color ++ " " ++ heading node.label ++ " " ++ dimmed ("#" ++ node.id)) ::
    (graph.edgesFrom node.id).filterMap fun edge => (graph.target? edge).map targetLine

/-- The lines of a graph: its size, and each rule node with what it points at. -/
def graphLines (graph : Graph.DependencyGraph) : List String :=
  dimmed (toString (graph.nodesOf .atom).length ++ " atoms, " ++
      toString (graph.nodesOf .rule).length ++ " rule nodes, " ++
      toString graph.edges.length ++ " edges") ::
    (graph.nodesOf .rule).flatMap (nodeLines graph)

/-! ## Solutions -/

/-- The variables of a solution with their values; nothing to bind means that it is true. -/
def bindingsText (solution : Solution) : String :=
  let bindings := joined ", " (solution.bindings.map fun binding =>
    binding.variableName ++ " = " ++ binding.value)
  if bindings.isEmpty then "true" else bindings

/-- A line for each successful solution, numbered from one. -/
def solutionLines (response : QueryResponse) : List String :=
  (response.solutions.filter fun solution => solution.status = .success).mapIdx
    fun index solution => heading (toString (index + 1) ++ ".") ++ " " ++ bindingsText solution

/-! ## Messages and log entries -/

/-- The lines of a message, with an empty one at the end. -/
def messageLines (message : Message) : List String :=
  let author := match message.author with
    | .user => "you"
    | .agent => "agent"
  [heading author ++ " " ++ dimmed (minuteText message.createdAt), message.content, ""]

/-- The lines of a log entry, with an empty one at the end. -/
def entryLines (entry : LogEntry) : List String :=
  let title := heading entry.source.displayName ++ " " ++
    dimmed ("#" ++ toString entry.id.toInt ++ " " ++ secondText entry.createdAt) ++
    (if entry.isError then " error" else "")
  title :: (entry.systemPrompt.map dimmed).toList ++ [entry.userPrompt, ""]

end Statute.Layout
