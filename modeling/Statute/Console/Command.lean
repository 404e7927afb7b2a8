import Statute.Chat.Thread
import Statute.Console.Layout
import Statute.Examples.Generated
import Statute.Examples.Program
import Statute.Highlight.Annotation
import Statute.Json.Printer
import Statute.Logic.Clause.Reader
import Statute.Settings.Basic

/-!
# Commands

What can be asked of the program on the command line, and the session that each command is. A
command stops at its first failure; what it has written until then stays.
-/

namespace Statute

/-- What can be generated for a fragment. -/
inductive GenerationTarget where
  | atoms
  | rules
deriving DecidableEq, Repr

/-- The word for a target. -/
def GenerationTarget.noun : GenerationTarget → String
  | atoms => "atoms"
  | rules => "rules"

/-- A command that talks to the backend. -/
inductive Command where
  | listFragments
  | createFragment (title path : String) (source : Option String) (model : LanguageModel)
  | deleteFragment (id : FragmentId)
  | showFragment (id : FragmentId) (focus : Option AtomId) (asMarkup : Bool)
  | showCost (id : FragmentId)
  | listRules (fragment : FragmentId)
  | addRule (fragment : FragmentId) (definition description : String) (isGoal : Bool)
  | editRule (id : RuleId) (change : RuleChange)
  | deleteRule (id : RuleId)
  | clear (target : GenerationTarget) (fragment : FragmentId)
  | showProgram (fragment : FragmentId)
  | showGraph (fragment : FragmentId) (nodePerRule parsed asJson : Bool)
  | generate (target : GenerationTarget) (fragment : FragmentId)
  | regenerate (target : GenerationTarget) (fragment : FragmentId) (feedback : String)
  | runFacts (fragment : FragmentId) (path : String)
  | showExamples (fragment : FragmentId) (alsoRun : Bool)
  | chat (fragment : FragmentId) (message : String)
  | showLog (fragment : FragmentId) (follow : Bool)
deriving DecidableEq

/-- Why a command failed. -/
inductive Failure where
  | backend (error : BackendError)
  | spans (error : Highlight.SpanError)
  | clause (error : Logic.SyntaxError)
  | examples (error : ExampleError)
  | unreadableText (path : String)
  | unreadableFacts (path : String)
  | emptyTitle
  | emptyText
  | nothingToChange
  /-- The settings could not be loaded. -/
  | settings
  /-- A setting is too large to be written. -/
  | unwritableSetting

namespace Failure

/-- The failure in words. -/
def message : Failure → String
  | backend error => error.message
  | spans error => error.message
  | clause error => error.message
  | examples error =>
    error.message (fun id => toString id.number) (fun id => toString id.number)
  | unreadableText path => "Failed to read " ++ path
  | unreadableFacts path => "Failed to read facts from " ++ path
  | emptyTitle => "Fragment title must not be empty"
  | emptyText => "Fragment text must not be empty"
  | nothingToChange => "Nothing to change: pass --definition, --description or --goal"
  | settings => "Failed to load configuration"
  | unwritableSetting => "out-of-range value for u64 type"

end Failure

/-- A session that can fail. -/
abbrev Job (α : Type) : Type := ExceptT Failure Session α

namespace Job

/-- Asks the backend; its failure is the job's. -/
def ask (request : Request) : Job request.Answer :=
  ExceptT.mk (Session.ask request fun outcome => pure (outcome.mapError .backend))

/-- Asks the backend two things at once. -/
def askBoth (first second : Request) : Job (first.Answer × second.Answer) :=
  ExceptT.mk (Session.askBoth first second fun outcome => pure (outcome.mapError .backend))

/-- Reads a file; that it cannot be read is a failure. -/
def readFile (path : String) (failure : Failure) : Job String :=
  ExceptT.mk (Session.readFile path fun content =>
    pure (match content with
      | some content => .ok content
      | none => .error failure))

/-- A value or a failure. -/
def ofExcept {ε α : Type} (wrap : ε → Failure) (result : Except ε α) : Job α :=
  ExceptT.mk (pure (result.mapError wrap))

/-- Writes lines. -/
def print (lines : List String) : Job Unit :=
  ExceptT.lift (Session.printLines lines)

/-- Writes that something succeeded. -/
def succeed (message : String) : Job Unit :=
  ExceptT.lift (Session.print (Terminal.successLine message))

/-- Writes a hint. -/
def hint (message : String) : Job Unit :=
  ExceptT.lift (Session.print (Terminal.hintLine message))

/-- Reports a problem. -/
def complain (message : String) : Job Unit :=
  ExceptT.lift (Session.complain (Terminal.failureLine message))

end Job

namespace Command

open Job

/-- Lists the fragments. -/
def listingJob : Job Unit := do
  let fragments ← ask .listFragments
  if fragments.isEmpty then hint "No regulation fragments"
  else print (fragments.map Layout.fragmentLine)

/-- A fragment to be created, without blanks around its title and text, which must not be empty. A
blank source counts as none. -/
def newFragment (title content : String) (source : Option String) (model : LanguageModel) :
    Except Failure NewFragment :=
  let title := Text.trimmed title
  let content := Text.trimmed content
  if title.isEmpty then .error .emptyTitle
  else if content.isEmpty then .error .emptyText
  else
    .ok {
      title
      content
      source := source.filter fun source => !(Text.trimmed source).isEmpty
      model
      formalism := .prolog }

/-- Creates a fragment from the text of a file. -/
def creationJob (title path : String) (source : Option String) (model : LanguageModel) :
    Job Unit := do
  let content ← readFile path (.unreadableText path)
  let fragment ← ask (.createFragment (← ofExcept id (newFragment title content source model)))
  succeed ("Created fragment " ++ toString fragment.id.toInt ++ " (" ++ fragment.title ++ ")")

/-- The text of a fragment, colored or with markup. -/
def shownText (policy : Highlight.OverlapPolicy) (focus : Option AtomId) (asMarkup : Bool)
    (fragment : Fragment) (atoms : List Atom) : Except Failure String :=
  if asMarkup then (Highlight.annotate policy fragment.content atoms).mapError .spans
  else (Highlight.highlight policy fragment.content atoms).mapError .spans |>.map
    (Terminal.renderPieces focus)

/-- Shows a fragment and its atoms. -/
def showingJob (policy : Highlight.OverlapPolicy) (id : FragmentId) (focus : Option AtomId)
    (asMarkup : Bool) : Job Unit := do
  let (fragment, atoms) ← askBoth (.getFragment id) (.listAtoms id)
  print (Layout.fragmentHeader fragment)
  print [← ofExcept (·) (shownText policy focus asMarkup fragment atoms), ""]
  if atoms.isEmpty then hint "No atoms extracted yet"
  else print (Terminal.heading "Atoms" :: atoms.map Layout.atomLine)

/-- Lists the rules of a fragment. -/
def rulesJob (fragment : FragmentId) : Job Unit := do
  let rules ← ask (.listRules fragment)
  if rules.isEmpty then hint "No rules generated yet"
  else print (rules.flatMap fun rule => Layout.ruleLines rule ++ [""])

/-- The text of a clause without blanks around it and with a stop at its end, if it is a clause. -/
def checkedDefinition (definition : String) : Except Logic.SyntaxError String :=
  let text := Text.trim definition.toList
  let text := String.ofList (if text.getLast? = some '.' then text else text ++ ['.'])
  (Logic.parseClause text).map fun _ => text

/-- Adds a rule to a fragment. -/
def additionJob (fragment : FragmentId) (definition description : String) (isGoal : Bool) :
    Job Unit := do
  let definition ← ofExcept .clause (checkedDefinition definition)
  let rule ← ask (.createRule ⟨fragment, Text.trimmed description, definition, isGoal⟩)
  succeed ("Added rule " ++ toString rule.id.toInt)
  print (Layout.ruleLines rule)

/-- Changes parts of a rule. -/
def changeJob (id : RuleId) (change : RuleChange) : Job Unit := do
  if change.definition.isNone && change.description.isNone && change.isGoal.isNone then
    throw .nothingToChange
  let definition ← change.definition.mapM fun definition =>
    ofExcept .clause (checkedDefinition definition)
  let rule ← ask (.updateRule id { change with definition })
  succeed ("Updated rule " ++ toString rule.id.toInt)
  print (Layout.ruleLines rule)

/-- The number of atoms or rules that a fragment has. -/
def countJob : GenerationTarget → FragmentId → Job Nat
  | .atoms, fragment => return (← ask (.listAtoms fragment)).length
  | .rules, fragment => return (← ask (.listRules fragment)).length

/-- Lets the backend generate and tells how much there is afterwards. A failure to generate is also
reported. -/
def generationJob (verb : String) (target : GenerationTarget) (fragment : FragmentId)
    (request : Job Unit) : Job Unit := do
  tryCatch request fun failure => do
    complain (verb ++ " failed: " ++ failure.message)
    throw failure
  let count ← countJob target fragment
  succeed ("Fragment " ++ toString fragment.toInt ++ " now has " ++ toString count ++ " " ++
    target.noun)

/-- Deletes every atom or rule of a fragment. -/
def clearingJob (target : GenerationTarget) (fragment : FragmentId) : Job Unit := do
  match target with
  | .atoms => ask (.deleteAtoms fragment)
  | .rules => ask (.deleteRules fragment)
  succeed ("Cleared " ++ target.noun ++ " of fragment " ++ toString fragment.toInt)

/-- Shows the dependency graph of a fragment. What the command does not say the settings do. -/
def graphJob (settings : GraphSettings) (fragment : FragmentId)
    (nodePerRule parsed asJson : Bool) : Job Unit := do
  let (atoms, rules) ← askBoth (.listAtoms fragment) (.listRules fragment)
  let policy := if nodePerRule then .nodePerRule else settings.headPolicy
  let extraction := if parsed then .parsed else settings.extraction
  let graph := Graph.build policy extraction atoms rules
  if asJson then print [graph.toJson.pretty] else print (Layout.graphLines graph)

/-- Evaluates a query and shows its solutions. -/
def queryJob (fragment : FragmentId) (query : Query) : Job Unit := do
  let response ← ask (.runExample fragment query)
  print (Layout.solutionLines response)
  match response.errorMessage? with
  | some message => complain message
  | none =>
    if response.status = .success then succeed "Query succeeded" else hint "No solutions"

/-- Shows generated examples as facts, and evaluates them if wanted. -/
def examplesJob (fragment : FragmentId) (alsoRun : Bool) : Job Unit := do
  let (examples, atoms) ← askBoth (.generateExamples fragment) (.listAtoms fragment)
  print (examples.examples.map fun value =>
    Terminal.dimmed "%" ++ " " ++ Terminal.dimmed value.description)
  let (added, store) := ExampleStore.empty.loadGenerated fragment examples atoms
  if added = 0 then hint "No generated fact matched an atom of this fragment"
  else
    let query ← ofExcept .examples (store.query fragment atoms)
    print [query.facts]
    if alsoRun then
      print [""]
      queryJob fragment query

/-- Loads a thread. -/
def loadedThread (thread : ChatThread) : Job ChatThread := do
  let (outcome, thread) ← ExceptT.lift thread.load
  ofExcept .backend outcome
  return thread

/-- Shows the chat, or sends a message and shows what is new. -/
def chatJob (regulation : FragmentId) (message : String) : Job Unit := do
  let thread ← loadedThread (.empty regulation)
  let content := Text.trimmed message
  if content.isEmpty then
    if thread.messages.isEmpty then hint "No messages yet"
    print (thread.messages.flatMap Layout.messageLines)
  else
    let before := thread.messages.length
    let (outcome, thread) ← ExceptT.lift (thread.send content)
    match outcome with
    | .error error =>
      complain ("Message not sent: " ++ error.message)
      throw (.backend error)
    | .ok _ => print ((thread.messages.drop before).flatMap Layout.messageLines)

/-- Shows the newest entries of the log. The feed that they come from can be followed on. -/
def logJob (settings : LogSettings) (fragment : FragmentId) (follow : Bool) : Job LogFeed := do
  let (outcome, feed) ← ExceptT.lift ((LogFeed.empty fragment settings.pageLimit).perform .initial)
  let entries ← ofExcept .backend outcome
  if entries.isEmpty && !follow then hint "No agentic log entries"
  print (entries.flatMap Layout.entryLines)
  if follow then hint "Following agentic log (Ctrl+C to stop)"
  return feed

/-- The session of a command. When the log is to be followed, it ends with the feed to follow. -/
def job (settings : Settings) : Command → Job (Option LogFeed)
  | listFragments => do listingJob; return none
  | createFragment title path source model => do
    creationJob title path source model; return none
  | deleteFragment id => do
    ask (.deleteFragment id)
    succeed ("Deleted fragment " ++ toString id.toInt)
    return none
  | showFragment id focus asMarkup => do
    showingJob settings.overlapPolicy id focus asMarkup; return none
  | showCost id => do
    let (fragment, price) ← askBoth (.getFragment id) (.fragmentCost id)
    print (Layout.costLines fragment price)
    return none
  | listRules fragment => do rulesJob fragment; return none
  | addRule fragment definition description isGoal => do
    additionJob fragment definition description isGoal; return none
  | editRule id change => do changeJob id change; return none
  | deleteRule id => do
    ask (.deleteRule id)
    succeed ("Deleted rule " ++ toString id.toInt)
    return none
  | clear target fragment => do clearingJob target fragment; return none
  | showProgram fragment => do
    let text ← ask (.programText fragment)
    print [String.ofList (Text.trimRight text.toList)]
    return none
  | showGraph fragment nodePerRule parsed asJson => do
    graphJob settings.graph fragment nodePerRule parsed asJson; return none
  | generate target fragment => do
    generationJob "Generation" target fragment (match target with
      | .atoms => ask (.generateAtoms fragment)
      | .rules => ask (.generateRules fragment))
    return none
  | regenerate target fragment feedback => do
    generationJob "Regeneration" target fragment (match target with
      | .atoms => ask (.regenerateAtoms fragment ⟨feedback⟩)
      | .rules => ask (.regenerateRules fragment ⟨feedback⟩))
    return none
  | runFacts fragment path => do
    queryJob fragment ⟨← readFile path (.unreadableFacts path)⟩
    return none
  | showExamples fragment alsoRun => do examplesJob fragment alsoRun; return none
  | chat fragment message => do chatJob fragment message; return none
  | showLog fragment follow => do
    let feed ← logJob settings.logs fragment follow
    return if follow then some feed else none

end Command

end Statute
