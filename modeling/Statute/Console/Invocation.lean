import Statute.Console.Arguments
import Statute.Console.Command
import Statute.Number.Integer

/-!
# Invocations

The command line of the program: its commands with their options and values, and what each of them
asks for.
-/

namespace Statute.Console

/-- What the program is asked to do. -/
inductive Invocation where
  | command (command : Command)
  /-- Print the settings in force, or those that hold when nothing else is said. -/
  | printSettings (standard : Bool)
  /-- Serve the viewer, at a port of its own and without opening a browser if so wanted. -/
  | serve (fragment : FragmentId) (port : Option Nat) (staysClosed : Bool)
deriving DecidableEq

/-- An invocation with the settings file that it names. -/
structure CommandLine where
  settingsPath : Option String
  invocation : Invocation
deriving DecidableEq

/-! ## Words -/

/-- The target with a name. -/
def target? (word : String) : Option GenerationTarget :=
  [.atoms, .rules].find? fun target => target.noun = word

/-- The language model with a name. -/
def model? (word : String) : Option LanguageModel :=
  (LanguageModel.ofName word).toOption

/-- The port with a number. -/
def port? (word : String) : Option Nat :=
  Number.readInt64? word >>= fun value => Number.unsigned? 16 value.toInt

/-! ## Forms -/

/-- A value that is the number of something. -/
def idForm : ValueForm := ⟨fun word => (Number.readInt64? word).isSome, false⟩

/-- A value that names what is generated. -/
def targetForm : ValueForm := ⟨fun word => (target? word).isSome, false⟩

/-- A value that may be any text. -/
def textForm : ValueForm := ⟨fun _ => true, false⟩

/-- Any number of values that may be any text. -/
def wordsForm : ValueForm := ⟨fun _ => true, true⟩

/-- An option without value. -/
def flagForm (name : String) (letter : Option Char) : OptionForm := ⟨name, letter, .flag, false⟩

/-- An option whose value may be any text. -/
def textOption (name : String) (letter : Option Char) : OptionForm :=
  ⟨name, letter, .value fun _ => true, false⟩

/-- An option whose value is the path of a file. -/
def pathOption (name : String) (letter : Option Char) : OptionForm :=
  ⟨name, letter, .value fun path => !path.isEmpty, false⟩

/-- An option whose value is read in some way. -/
def readOption {α : Type} (name : String) (letter : Option Char) (read : String → Option α) :
    OptionForm :=
  ⟨name, letter, .value fun word => (read word).isSome, false⟩

/-- An option that must be given. -/
def required (option : OptionForm) : OptionForm := { option with isRequired := true }

/-- The options that every command has. -/
def commonOptions : List OptionForm :=
  [pathOption "config" (some 'c'), ⟨"help", some 'h', .interruption .help, false⟩]

/-- A command without commands below it. -/
def leaf (name : String) (values : List ValueForm) (options : List OptionForm) : CommandForm :=
  .mk name values (options ++ commonOptions) [] false

/-- The command line of the program. -/
def programForm : CommandForm :=
  .mk "lexlogic" [] (⟨"version", some 'V', .interruption .version, false⟩ :: commonOptions)
    [.mk "fragments" [] commonOptions
      [leaf "create" [textForm] [required (pathOption "file" none), textOption "source" none,
        readOption "llm" none model?],
        leaf "delete" [idForm] []] false,
      leaf "show" [idForm] [readOption "focus" none Number.readInt64?, flagForm "annotated" none],
      leaf "rules" [idForm] [],
      .mk "rule" [] commonOptions
        [leaf "add" [idForm, textForm] [textOption "description" (some 'd'), flagForm "goal" none],
          leaf "edit" [idForm] [textOption "definition" none, textOption "description" (some 'd'),
            readOption "goal" none Text.truth?],
          leaf "delete" [idForm] []] true,
      leaf "clear" [targetForm, idForm] [],
      leaf "program" [idForm] [],
      leaf "graph" [idForm] [flagForm "per-rule" none, flagForm "parsed" none,
        flagForm "json" none],
      leaf "generate" [targetForm, idForm] [],
      leaf "regenerate" [targetForm, idForm] [required (textOption "feedback" (some 'f'))],
      leaf "run" [idForm] [required (pathOption "facts" none)],
      leaf "examples" [idForm] [flagForm "run" none],
      leaf "chat" [idForm, wordsForm] [],
      leaf "logs" [idForm] [flagForm "follow" (some 'f')],
      leaf "cost" [idForm] [],
      leaf "config" [] [flagForm "default" none],
      leaf "serve" [idForm] [readOption "port" (some 'p') port?, flagForm "no-open" none]] true

/-! ## Meanings -/

/-- The value of an option, read if it is given. -/
def Reading.read? {α : Type} (reading : Reading) (name : String) (read : String → Option α) :
    Option (Option α) :=
  match reading.option? name with
  | none => some none
  | some word => (read word).map some

/-- What a reading asks for. -/
def Invocation.ofReading? (reading : Reading) : Option Invocation :=
  let has := reading.hasOption
  let id? := Number.readInt64?
  match reading.path, reading.values with
  | ["fragments"], [] => some (.command .listFragments)
  | ["fragments", "create"], [title] => do
    let path ← reading.option? "file"
    let model ← reading.read? "llm" model?
    return .command (.createFragment title path (reading.option? "source")
      (model.getD .gpt4oMini))
  | ["fragments", "delete"], [id] => return .command (.deleteFragment (← id? id))
  | ["show"], [id] =>
    return .command (.showFragment (← id? id) (← reading.read? "focus" id?) (has "annotated"))
  | ["rules"], [id] => return .command (.listRules (← id? id))
  | ["rule", "add"], [id, definition] =>
    return .command (.addRule (← id? id) definition ((reading.option? "description").getD "")
      (has "goal"))
  | ["rule", "edit"], [id] =>
    return .command (.editRule (← id? id) ⟨reading.option? "description",
      reading.option? "definition", ← reading.read? "goal" Text.truth?⟩)
  | ["rule", "delete"], [id] => return .command (.deleteRule (← id? id))
  | ["clear"], [target, id] => return .command (.clear (← target? target) (← id? id))
  | ["program"], [id] => return .command (.showProgram (← id? id))
  | ["graph"], [id] =>
    return .command (.showGraph (← id? id) (has "per-rule") (has "parsed") (has "json"))
  | ["generate"], [target, id] => return .command (.generate (← target? target) (← id? id))
  | ["regenerate"], [target, id] =>
    return .command (.regenerate (← target? target) (← id? id) (← reading.option? "feedback"))
  | ["run"], [id] => return .command (.runFacts (← id? id) (← reading.option? "facts"))
  | ["examples"], [id] => return .command (.showExamples (← id? id) (has "run"))
  | ["chat"], id :: words => return .command (.chat (← id? id) (Text.joined " " words))
  | ["logs"], [id] => return .command (.showLog (← id? id) (has "follow"))
  | ["cost"], [id] => return .command (.showCost (← id? id))
  | ["config"], [] => some (.printSettings (has "default"))
  | ["serve"], [id] =>
    return .serve (← id? id) (← reading.read? "port" port?) (has "no-open")
  | _, _ => none

/-- Reads the words of a command line. -/
def CommandLine.ofWords (words : List String) : Except Interruption CommandLine := do
  let reading ← readArguments programForm words
  match Invocation.ofReading? reading with
  | some invocation => return ⟨reading.option? "config", invocation⟩
  | none => .error .misuse

end Statute.Console
