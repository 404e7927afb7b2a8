import Statute.Graph.Basic
import Statute.Proofs.Json.Records
import Statute.Proofs.Time.Writings
import Statute.Regulation.ExampleSet
import Statute.Regulation.Fragment
import Statute.Regulation.LogEntry
import Statute.Regulation.Message

/-!
# What is exchanged survives its JSON form

Each record that is sent or received is described by its fields, with those that may be left out and
what they are then. From this follows that its values survive. Points in time are written with four
digits of the year, so values with a point in time survive within these years.
-/

namespace Statute

open Json

/-! ## Names and points in time -/

/-- A language model is found again by the name that it is written with. -/
theorem LanguageModel.ofJson?_toJson (model : LanguageModel) :
    ofJson? model.toJson = some model := by
  cases model <;> rfl

/-- A formalism is found again by the name that it is written with. -/
theorem Formalism.ofJson?_toJson (formalism : Formalism) :
    ofJson? formalism.toJson = some formalism := by
  cases formalism
  rfl

/-- The names of the sources of log entries are told apart, so that each is read as its own source.
-/
theorem LogSource.ofJson?_wireName (source : LogSource) :
    ofJson? (.string source.wireName) = some source := by
  cases source <;> rfl

/-- The names of the two authors are told apart, so that each is read as its own author. -/
theorem Author.ofJson?_wireName (author : Author) :
    ofJson? (.string author.wireName) = some author := by
  cases author <;> rfl

/-- The names of the statuses of a query are told apart, so that each is read as its own status. -/
theorem QueryStatus.ofJson?_wireName (status : QueryStatus) :
    ofJson? (.string status.wireName) = some status := by
  cases status <;> rfl

/-- The names of the kinds of nodes are told apart, so that each is read as its own kind. -/
theorem Graph.NodeKind.ofJson?_wireName (kind : NodeKind) :
    ofJson? (.string kind.wireName) = some kind := by
  cases kind <;> rfl

/-- A point in time is read back from its text when its year has four digits. -/
theorem Timestamp.ofJson?_text {timestamp : Timestamp} (plain : timestamp.date.HasPlainYear) :
    ofJson? (.string timestamp.text) = some timestamp := by
  rw [ofJson?, string?_string, Option.bind_eq_bind, Option.bind_some, parse_text plain]

/-! ## Atoms -/

/-- The fields of a span. -/
def Span.fields (span : Span) : List (String × FieldForm) :=
  [("id", .required (.integer span.id.toInt)), ("atom_id", .required (.integer span.atomId.toInt)),
    ("start", .required (.integer span.start.toNat)),
    ("end", .required (.integer span.finish.toNat))]

/-- A span survives. None of its fields may be left out. -/
theorem Span.survives : Survives fields toJson ofJson? fun _ => True :=
  survives_of_finds (by decide) (fun _ => rfl) (fun _ => rfl) (fun _ => rfl)
    fun span record _ _ finds => by
      obtain ⟨id, atomId, start, finish, -⟩ := finds
      simp only [id.required (int64?_integer _), atomId.required (int64?_integer _),
        start.required (uint64?_integer _), finish.required (uint64?_integer _),
        Option.bind_eq_bind, Option.bind_some, Option.pure_def]

/-- The fields of an atom. -/
def Atom.fields (atom : Atom) : List (String × FieldForm) :=
  [("id", .required (.integer atom.id.toInt)),
    ("regulation_fragment_id", .required (.integer atom.fragmentId.toInt)),
    ("predicate", .required (.string atom.predicate)),
    ("description", .required (.string atom.description)),
    ("is_negated", .required (.bool atom.isNegated)),
    ("is_fact", .defaulted (.bool false) (.bool atom.isFact)),
    ("spans", .defaulted (.array []) (.array (atom.spans.map Span.toJson)))]

/-- An atom survives. Read without its last two members it is no fact and has no spans. -/
theorem Atom.survives : Survives fields toJson ofJson? fun _ => True :=
  survives_of_finds (by decide) (fun _ => rfl) (fun _ => rfl) (fun _ => rfl)
    fun atom record _ _ finds => by
      obtain ⟨id, fragmentId, predicate, description, isNegated, isFact, spans, -⟩ := finds
      simp only [id.required (int64?_integer _), fragmentId.required (int64?_integer _),
        predicate.required (string?_string _), description.required (string?_string _),
        isNegated.required (bool?_bool _), isFact.defaulted (bool?_bool _) (bool?_bool _),
        spans.defaulted (Span.survives.list?_map _) (list?_nil _),
        Option.bind_eq_bind, Option.bind_some, Option.pure_def]

/-! ## Rules -/

/-- The fields of a rule. -/
def Rule.fields (rule : Rule) : List (String × FieldForm) :=
  [("id", .required (.integer rule.id.toInt)),
    ("regulation_fragment_id", .required (.integer rule.fragmentId.toInt)),
    ("description", .required (.string rule.description)),
    ("definition", .required (.string rule.definition)),
    ("is_goal", .required (.bool rule.isGoal)),
    ("created_at", .required (.string rule.createdAt.text))]

/-- A rule survives when its creation is in a year of four digits. None of its fields may be left
out. -/
theorem Rule.survives :
    Survives fields toJson ofJson? fun rule => rule.createdAt.date.HasPlainYear :=
  survives_of_finds (by decide) (fun _ => rfl) (fun _ => rfl) (fun _ => rfl)
    fun rule record plain _ finds => by
      obtain ⟨id, fragmentId, description, definition, isGoal, createdAt, -⟩ := finds
      simp only [id.required (int64?_integer _), fragmentId.required (int64?_integer _),
        description.required (string?_string _), definition.required (string?_string _),
        isGoal.required (bool?_bool _), createdAt.required (Timestamp.ofJson?_text plain),
        Option.bind_eq_bind, Option.bind_some, Option.pure_def]

/-- The fields of a rule to be created. -/
def NewRule.fields (rule : NewRule) : List (String × FieldForm) :=
  [("regulation_fragment_id", .required (.integer rule.fragmentId.toInt)),
    ("description", .required (.string rule.description)),
    ("definition", .required (.string rule.definition)),
    ("is_goal", .defaulted (.bool false) (.bool rule.isGoal))]

/-- A rule to be created survives. Read without its last member it is no goal. -/
theorem NewRule.survives : Survives fields toJson ofJson? fun _ => True :=
  survives_of_finds (by decide) (fun _ => rfl) (fun _ => rfl) (fun _ => rfl)
    fun rule record _ _ finds => by
      obtain ⟨fragmentId, description, definition, isGoal, -⟩ := finds
      simp only [fragmentId.required (int64?_integer _), description.required (string?_string _),
        definition.required (string?_string _), isGoal.defaulted (bool?_bool _) (bool?_bool _),
        Option.bind_eq_bind, Option.bind_some, Option.pure_def]

/-- The fields of a change. -/
def RuleChange.fields (change : RuleChange) : List (String × FieldForm) :=
  [("description", .optional (change.description.map .string)),
    ("definition", .optional (change.definition.map .string)),
    ("is_goal", .optional (change.isGoal.map .bool))]

/-- What is written for a change are the members of its fields that are there, and nothing for the
others. -/
theorem RuleChange.toJson_eq (change : RuleChange) :
    change.toJson = .object (written change.fields) := by
  obtain ⟨description, definition, isGoal⟩ := change
  cases description <;> cases definition <;> cases isGoal <;> rfl

/-- A change survives. Each of its fields may be left out, and is then not changed. -/
theorem RuleChange.survives : Survives fields toJson ofJson? fun _ => True :=
  survives_of_finds (by decide) (fun _ => rfl) toJson_eq (fun _ => rfl)
    fun change record _ byName finds => by
      obtain ⟨description, definition, isGoal, -⟩ := finds
      simp only [description.optional byName (fun _ => nofun) string?_string,
        definition.optional byName (fun _ => nofun) string?_string,
        isGoal.optional byName (fun _ => nofun) bool?_bool,
        Option.bind_eq_bind, Option.bind_some, Option.pure_def]

/-- The fields of feedback. -/
def Feedback.fields (value : Feedback) : List (String × FieldForm) :=
  [("feedback", .required (.string value.feedback))]

/-- Feedback survives. Its one field may not be left out. -/
theorem Feedback.survives : Survives fields toJson ofJson? fun _ => True :=
  survives_of_finds (by decide) (fun _ => rfl) (fun _ => rfl) (fun _ => rfl)
    fun value record _ _ finds => by
      obtain ⟨feedback, -⟩ := finds
      simp only [feedback.required (string?_string _), Option.bind_eq_bind, Option.bind_some,
        Option.pure_def]

/-! ## Fragments -/

/-- The fields of a fragment. -/
def Fragment.fields (fragment : Fragment) : List (String × FieldForm) :=
  [("id", .required (.integer fragment.id.toInt)), ("title", .required (.string fragment.title)),
    ("content", .required (.string fragment.content)),
    ("created_at", .required (.string fragment.createdAt.text)),
    ("llm_identifier", .required fragment.model.toJson),
    ("formalism", .defaulted Formalism.prolog.toJson fragment.formalism.toJson),
    ("source", .optional (fragment.source.map .string)),
    ("used_tokens_in", .optional (fragment.usedTokensIn.map countJson)),
    ("used_tokens_out", .optional (fragment.usedTokensOut.map countJson))]

/-- What is written for a fragment are its fields, without the source and the counts of tokens that
are not there. -/
theorem Fragment.toJson_eq (fragment : Fragment) :
    fragment.toJson = .object (written fragment.fields) := by
  obtain ⟨_, _, _, _, _, _, source, usedTokensIn, usedTokensOut⟩ := fragment
  cases source <;> cases usedTokensIn <;> cases usedTokensOut <;> rfl

/-- A fragment survives when its creation is in a year of four digits. The formalism has a default,
and the source and the counts of tokens may be left out or be null. -/
theorem Fragment.survives :
    Survives fields toJson ofJson? fun fragment => fragment.createdAt.date.HasPlainYear :=
  survives_of_finds (by decide) (fun _ => rfl) toJson_eq (fun _ => rfl)
    fun fragment record plain _ finds => by
      obtain ⟨id, title, content, createdAt, model, formalism, source, usedIn, usedOut, -⟩ := finds
      simp only [id.required (int64?_integer _), title.required (string?_string _),
        content.required (string?_string _), createdAt.required (Timestamp.ofJson?_text plain),
        model.required (LanguageModel.ofJson?_toJson _),
        formalism.defaulted (Formalism.ofJson?_toJson _) (Formalism.ofJson?_toJson _),
        source.nullable (fun _ => nofun) string?_string,
        usedIn.nullable (fun _ => nofun) uint64?_integer,
        usedOut.nullable (fun _ => nofun) uint64?_integer,
        Option.bind_eq_bind, Option.bind_some, Option.pure_def]

/-- The fields of a fragment to be created. -/
def NewFragment.fields (fragment : NewFragment) : List (String × FieldForm) :=
  [("title", .required (.string fragment.title)), ("content", .required (.string fragment.content)),
    ("source", .optional (fragment.source.map .string)),
    ("llm_identifier", .required fragment.model.toJson),
    ("formalism", .defaulted Formalism.prolog.toJson fragment.formalism.toJson)]

/-- What is written for a fragment to be created are its fields, without a source that is not there.
-/
theorem NewFragment.toJson_eq (fragment : NewFragment) :
    fragment.toJson = .object (written fragment.fields) := by
  obtain ⟨_, _, source, _, _⟩ := fragment
  cases source <;> rfl

/-- A fragment to be created survives. The formalism has a default, and the source may be left out.
-/
theorem NewFragment.survives : Survives fields toJson ofJson? fun _ => True :=
  survives_of_finds (by decide) (fun _ => rfl) toJson_eq (fun _ => rfl)
    fun fragment record _ byName finds => by
      obtain ⟨title, content, source, model, formalism, -⟩ := finds
      simp only [title.required (string?_string _), content.required (string?_string _),
        source.optional byName (fun _ => nofun) string?_string,
        model.required (LanguageModel.ofJson?_toJson _),
        formalism.defaulted (Formalism.ofJson?_toJson _) (Formalism.ofJson?_toJson _),
        Option.bind_eq_bind, Option.bind_some, Option.pure_def]

/-! ## Chat messages and the log -/

/-- The fields of a message. -/
def Message.fields (message : Message) : List (String × FieldForm) :=
  [("id", .required (.integer message.id.toInt)),
    ("created_at", .required (.string message.createdAt.text)),
    ("content", .required (.string message.content)),
    ("agent", .required (.string message.author.wireName))]

/-- A message survives when its creation is in a year of four digits. None of its fields may be left
out. -/
theorem Message.survives :
    Survives fields toJson ofJson? fun message => message.createdAt.date.HasPlainYear :=
  survives_of_finds (by decide) (fun _ => rfl) (fun _ => rfl) (fun _ => rfl)
    fun message record plain _ finds => by
      obtain ⟨id, createdAt, content, author, -⟩ := finds
      simp only [id.required (int64?_integer _), createdAt.required (Timestamp.ofJson?_text plain),
        content.required (string?_string _), author.required (Author.ofJson?_wireName _),
        Option.bind_eq_bind, Option.bind_some, Option.pure_def]

/-- The fields of a message to be sent. -/
def NewMessage.fields (message : NewMessage) : List (String × FieldForm) :=
  [("content", .required (.string message.content))]

/-- A message to be sent survives. Its one field may not be left out. -/
theorem NewMessage.survives : Survives fields toJson ofJson? fun _ => True :=
  survives_of_finds (by decide) (fun _ => rfl) (fun _ => rfl) (fun _ => rfl)
    fun message record _ _ finds => by
      obtain ⟨content, -⟩ := finds
      simp only [content.required (string?_string _), Option.bind_eq_bind, Option.bind_some,
        Option.pure_def]

/-- The fields of a log entry. -/
def LogEntry.fields (entry : LogEntry) : List (String × FieldForm) :=
  [("id", .required (.integer entry.id.toInt)),
    ("user_prompt", .required (.string entry.userPrompt)),
    ("system_prompt", .optional (entry.systemPrompt.map .string)),
    ("message_source", .required (.string entry.source.wireName)),
    ("regulation_fragment_id", .required (.integer entry.fragmentId.toInt)),
    ("created_at", .required (.string entry.createdAt.text)),
    ("is_error", .defaulted (.bool false) (.bool entry.isError))]

/-- What is written for a log entry are its fields, without a system prompt that is not there. -/
theorem LogEntry.toJson_eq (entry : LogEntry) : entry.toJson = .object (written entry.fields) := by
  obtain ⟨_, _, systemPrompt, _, _, _, _⟩ := entry
  cases systemPrompt <;> rfl

/-- A log entry survives when its creation is in a year of four digits. Without a system prompt, or
with null for it, there is none, and an entry is by default no error. -/
theorem LogEntry.survives :
    Survives fields toJson ofJson? fun entry => entry.createdAt.date.HasPlainYear :=
  survives_of_finds (by decide) (fun _ => rfl) toJson_eq (fun _ => rfl)
    fun entry record plain _ finds => by
      obtain ⟨id, userPrompt, systemPrompt, source, fragmentId, createdAt, isError, -⟩ := finds
      simp only [id.required (int64?_integer _), userPrompt.required (string?_string _),
        systemPrompt.nullable (fun _ => nofun) string?_string,
        source.required (LogSource.ofJson?_wireName _), fragmentId.required (int64?_integer _),
        createdAt.required (Timestamp.ofJson?_text plain),
        isError.defaulted (bool?_bool _) (bool?_bool _),
        Option.bind_eq_bind, Option.bind_some, Option.pure_def]

/-! ## Queries and examples -/

/-- The fields of a query. -/
def Query.fields (query : Query) : List (String × FieldForm) :=
  [("facts", .required (.string query.facts))]

/-- A query survives. Its one field may not be left out. -/
theorem Query.survives : Survives fields toJson ofJson? fun _ => True :=
  survives_of_finds (by decide) (fun _ => rfl) (fun _ => rfl) (fun _ => rfl)
    fun query record _ _ finds => by
      obtain ⟨facts, -⟩ := finds
      simp only [facts.required (string?_string _), Option.bind_eq_bind, Option.bind_some,
        Option.pure_def]

/-- The fields of a binding. -/
def Binding.fields (binding : Binding) : List (String × FieldForm) :=
  [("variable", .required (.string binding.variableName)),
    ("value", .required (.string binding.value))]

/-- A binding of a variable survives. None of its fields may be left out. -/
theorem Binding.survives : Survives fields toJson ofJson? fun _ => True :=
  survives_of_finds (by decide) (fun _ => rfl) (fun _ => rfl) (fun _ => rfl)
    fun binding record _ _ finds => by
      obtain ⟨variableName, value, -⟩ := finds
      simp only [variableName.required (string?_string _), value.required (string?_string _),
        Option.bind_eq_bind, Option.bind_some, Option.pure_def]

/-- The fields of a solution. -/
def Solution.fields (solution : Solution) : List (String × FieldForm) :=
  [("status", .required (.string solution.status.wireName)),
    ("answers", .required (.array (solution.bindings.map Binding.toJson))),
    ("message", .defaulted (.string "") (.string solution.message))]

/-- A solution survives with all its bindings. Its message may be left out, and is then empty. -/
theorem Solution.survives : Survives fields toJson ofJson? fun _ => True :=
  survives_of_finds (by decide) (fun _ => rfl) (fun _ => rfl) (fun _ => rfl)
    fun solution record _ _ finds => by
      obtain ⟨status, bindings, message, -⟩ := finds
      simp only [status.required (QueryStatus.ofJson?_wireName _),
        bindings.required (Binding.survives.list?_map _),
        message.defaulted (string?_string _) (string?_string _),
        Option.bind_eq_bind, Option.bind_some, Option.pure_def]

/-- The fields of an outcome. -/
def QueryResponse.fields (response : QueryResponse) : List (String × FieldForm) :=
  [("status", .required (.string response.status.wireName)),
    ("answers", .required (.array (response.solutions.map Solution.toJson)))]

/-- The outcome of a query survives with all its solutions. None of its fields may be left out. -/
theorem QueryResponse.survives : Survives fields toJson ofJson? fun _ => True :=
  survives_of_finds (by decide) (fun _ => rfl) (fun _ => rfl) (fun _ => rfl)
    fun response record _ _ finds => by
      obtain ⟨status, solutions, -⟩ := finds
      simp only [status.required (QueryStatus.ofJson?_wireName _),
        solutions.required (Solution.survives.list?_map _),
        Option.bind_eq_bind, Option.bind_some, Option.pure_def]

/-- The fields of a fact of an example. -/
def ExampleFact.fields (fact : ExampleFact) : List (String × FieldForm) :=
  [("predicate", .required (.string fact.predicate)),
    ("arguments", .defaulted (.array []) (.array (fact.arguments.map Binding.toJson)))]

/-- A fact of an example survives with all its arguments, which may be left out when there are none.
-/
theorem ExampleFact.survives : Survives fields toJson ofJson? fun _ => True :=
  survives_of_finds (by decide) (fun _ => rfl) (fun _ => rfl) (fun _ => rfl)
    fun fact record _ _ finds => by
      obtain ⟨predicate, arguments, -⟩ := finds
      simp only [predicate.required (string?_string _),
        arguments.defaulted (Binding.survives.list?_map _) (list?_nil _),
        Option.bind_eq_bind, Option.bind_some, Option.pure_def]

/-- The fields of an example. -/
def Example.fields (value : Example) : List (String × FieldForm) :=
  [("description", .required (.string value.description)),
    ("facts", .defaulted (.array []) (.array (value.facts.map ExampleFact.toJson)))]

/-- An example survives with all its facts, which may be left out when there are none. -/
theorem Example.survives : Survives fields toJson ofJson? fun _ => True :=
  survives_of_finds (by decide) (fun _ => rfl) (fun _ => rfl) (fun _ => rfl)
    fun value record _ _ finds => by
      obtain ⟨description, facts, -⟩ := finds
      simp only [description.required (string?_string _),
        facts.defaulted (ExampleFact.survives.list?_map _) (list?_nil _),
        Option.bind_eq_bind, Option.bind_some, Option.pure_def]

/-- The fields of a set of examples. -/
def ExampleSet.fields (set : ExampleSet) : List (String × FieldForm) :=
  [("examples", .defaulted (.array []) (.array (set.examples.map Example.toJson)))]

/-- A set of examples survives. Its list may be left out when it is empty. -/
theorem ExampleSet.survives : Survives fields toJson ofJson? fun _ => True :=
  survives_of_finds (by decide) (fun _ => rfl) (fun _ => rfl) (fun _ => rfl)
    fun set record _ _ finds => by
      obtain ⟨examples, -⟩ := finds
      simp only [examples.defaulted (Example.survives.list?_map _) (list?_nil _),
        Option.bind_eq_bind, Option.bind_some, Option.pure_def]

namespace Graph

/-! ## Dependency graphs -/

/-- The fields of a node. -/
def Node.fields (node : Node) : List (String × FieldForm) :=
  [("id", .required (.string node.id)), ("label", .required (.string node.label)),
    ("kind", .required (.string node.kind.wireName)), ("color", .required (.string node.color))]

/-- A node survives. None of its fields may be left out. -/
theorem Node.survives : Survives fields toJson ofJson? fun _ => True :=
  survives_of_finds (by decide) (fun _ => rfl) (fun _ => rfl) (fun _ => rfl)
    fun node record _ _ finds => by
      obtain ⟨id, label, kind, color, -⟩ := finds
      simp only [id.required (string?_string _), label.required (string?_string _),
        kind.required (NodeKind.ofJson?_wireName _), color.required (string?_string _),
        Option.bind_eq_bind, Option.bind_some, Option.pure_def]

/-- The fields of an edge. -/
def Edge.fields (edge : Edge) : List (String × FieldForm) :=
  [("id", .required (.string edge.id)), ("source", .required (.string edge.source)),
    ("target", .required (.string edge.target)),
    ("target_kind", .required (.string edge.targetKind.wireName))]

/-- An edge survives. None of its fields may be left out. -/
theorem Edge.survives : Survives fields toJson ofJson? fun _ => True :=
  survives_of_finds (by decide) (fun _ => rfl) (fun _ => rfl) (fun _ => rfl)
    fun edge record _ _ finds => by
      obtain ⟨id, source, target, targetKind, -⟩ := finds
      simp only [id.required (string?_string _), source.required (string?_string _),
        target.required (string?_string _), targetKind.required (NodeKind.ofJson?_wireName _),
        Option.bind_eq_bind, Option.bind_some, Option.pure_def]

/-- The fields of a graph. -/
def DependencyGraph.fields (graph : DependencyGraph) : List (String × FieldForm) :=
  [("nodes", .required (.array (graph.nodes.map Node.toJson))),
    ("edges", .required (.array (graph.edges.map Edge.toJson)))]

/-- A dependency graph survives with all its nodes and edges. None of its fields may be left out. -/
theorem DependencyGraph.survives : Survives fields toJson ofJson? fun _ => True :=
  survives_of_finds (by decide) (fun _ => rfl) (fun _ => rfl) (fun _ => rfl)
    fun graph record _ _ finds => by
      obtain ⟨nodes, edges, -⟩ := finds
      simp only [nodes.required (Node.survives.list?_map _),
        edges.required (Edge.survives.list?_map _),
        Option.bind_eq_bind, Option.bind_some, Option.pure_def]

end Graph

/-! ## Everything that is exchanged -/

/-- All records that are exchanged survive: what is written for a value is read as the value, and
so is every other form of it, with its members in another order, with unknown members, or without
those that have their default. Points in time are those with a year of four digits. -/
theorem exchanged_survive :
    Survives Atom.fields Atom.toJson Atom.ofJson? (fun _ => True) ∧
      Survives Span.fields Span.toJson Span.ofJson? (fun _ => True) ∧
      Survives Rule.fields Rule.toJson Rule.ofJson?
        (fun rule => rule.createdAt.date.HasPlainYear) ∧
      Survives NewRule.fields NewRule.toJson NewRule.ofJson? (fun _ => True) ∧
      Survives RuleChange.fields RuleChange.toJson RuleChange.ofJson? (fun _ => True) ∧
      Survives Feedback.fields Feedback.toJson Feedback.ofJson? (fun _ => True) ∧
      Survives Fragment.fields Fragment.toJson Fragment.ofJson?
        (fun fragment => fragment.createdAt.date.HasPlainYear) ∧
      Survives NewFragment.fields NewFragment.toJson NewFragment.ofJson? (fun _ => True) ∧
      Survives Message.fields Message.toJson Message.ofJson?
        (fun message => message.createdAt.date.HasPlainYear) ∧
      Survives NewMessage.fields NewMessage.toJson NewMessage.ofJson? (fun _ => True) ∧
      Survives LogEntry.fields LogEntry.toJson LogEntry.ofJson?
        (fun entry => entry.createdAt.date.HasPlainYear) ∧
      Survives Query.fields Query.toJson Query.ofJson? (fun _ => True) ∧
      Survives QueryResponse.fields QueryResponse.toJson QueryResponse.ofJson? (fun _ => True) ∧
      Survives ExampleSet.fields ExampleSet.toJson ExampleSet.ofJson? (fun _ => True) ∧
      Survives Graph.DependencyGraph.fields Graph.DependencyGraph.toJson
        Graph.DependencyGraph.ofJson? (fun _ => True) :=
  ⟨Atom.survives, Span.survives, Rule.survives, NewRule.survives, RuleChange.survives,
    Feedback.survives, Fragment.survives, NewFragment.survives, Message.survives,
    NewMessage.survives, LogEntry.survives, Query.survives, QueryResponse.survives,
    ExampleSet.survives, Graph.DependencyGraph.survives⟩

/-- A fragment from the time of a leap second, with the most tokens that are counted. -/
def exampleFragment : Fragment where
  id := -9223372036854775808
  title := "§ 1"
  content := "Birds fly."
  createdAt := Timestamp.exampleLeapSecond
  model := .gpt4oMini
  formalism := .prolog
  source := none
  usedTokensIn := some 18446744073709551615
  usedTokensOut := none

/-- A form of the fragment with its members in another order, one of them unknown, without the
formalism, with null for a part that is not there, and with a date of mail. -/
def exampleFragmentForm : Json :=
  .object [("created_at", .string "Sat, 31 Dec 2016 23:59:60 GMT"), ("source", .null),
    ("llm_identifier", .object [("GPT_4o_MINI", .null)]), ("seen", .bool true),
    ("used_tokens_in", .integer 18446744073709551615), ("content", .string "Birds fly."),
    ("title", .string "§ 1"), ("id", .integer (-9223372036854775808))]

/-- A form of the example that is not the written one, with unknown members and without defaults, is
read as the same fragment as the written one. -/
theorem exampleFragment_survives :
    Fragment.ofJson? exampleFragmentForm = some exampleFragment ∧
      Fragment.ofJson? exampleFragment.toJson = some exampleFragment := by
  obtain ⟨-, -, -, -, -, -, fragments, -⟩ := exchanged_survive
  have read : Fragment.ofJson? exampleFragmentForm = some exampleFragment := by decide +kernel
  exact ⟨read, fragments.again _ _ read (by decide)⟩

end Statute
