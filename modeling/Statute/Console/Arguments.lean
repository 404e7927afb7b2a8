/-!
# Command lines

A command line is read word by word against the form of a command: its options, the values that
stand by themselves, and the commands below it. The first word that is out of place decides, and so
does the first that asks for help. The value in the word after an option is checked when the next
option or value of the same command is read, or else after the commands below it.
-/

namespace Statute.Console

/-- Why a command line says nothing to be done. -/
inductive Interruption where
  | misuse
  | help
  | version
deriving DecidableEq, Repr

/-- What an option is for. -/
inductive OptionKind where
  /-- It is there or not. -/
  | flag
  /-- It has a value of a certain form. -/
  | value (accepts : String → Bool)
  /-- It asks for something else than the command. -/
  | interruption (cause : Interruption)

/-- The form of an option, which is given by its name or its letter. -/
structure OptionForm where
  name : String
  letter : Option Char
  kind : OptionKind
  isRequired : Bool

/-- The form of a value that stands by itself. -/
structure ValueForm where
  accepts : String → Bool
  /-- There may be any number of such values, none among them. -/
  repeats : Bool

/-- The form of a command. -/
inductive CommandForm where
  | mk (name : String) (values : List ValueForm) (options : List OptionForm)
      (commands : List CommandForm) (needsCommand : Bool)

namespace CommandForm

/-- The word for a command. -/
def name : CommandForm → String
  | mk name _ _ _ _ => name

/-- The values that stand by themselves. -/
def values : CommandForm → List ValueForm
  | mk _ values _ _ _ => values

/-- The options. -/
def options : CommandForm → List OptionForm
  | mk _ _ options _ _ => options

/-- The commands below a command. -/
def commands : CommandForm → List CommandForm
  | mk _ _ _ commands _ => commands

/-- One of the commands below must be given. -/
def needsCommand : CommandForm → Bool
  | mk _ _ _ _ needsCommand => needsCommand

/-- The command below with a name. -/
def command? (form : CommandForm) (word : String) : Option CommandForm :=
  form.commands.find? fun command => command.name = word

/-- The option with a name. -/
def optionNamed? (form : CommandForm) (name : String) : Option OptionForm :=
  form.options.find? fun option => option.name = name

/-- The option with a letter. -/
def optionLettered? (form : CommandForm) (letter : Char) : Option OptionForm :=
  form.options.find? fun option => option.letter = some letter

/-- The number of values that must be given. -/
def requiredCount (form : CommandForm) : Nat :=
  (form.values.filter fun value => !value.repeats).length

/-- The form of the value after a number of values. -/
def valueAt? (form : CommandForm) (count : Nat) : Option ValueForm :=
  match form.values[count]? with
  | some value => some value
  | none => form.values.getLast?.filter (·.repeats)

end CommandForm

/-- What a command line says: the commands from the outermost to the innermost, the options of all
of them in order, and the values of the innermost. -/
structure Reading where
  path : List String
  options : List (String × String)
  values : List String
deriving DecidableEq

namespace Reading

/-- The value of an option. Inner commands come later and have the last word. -/
def option? (reading : Reading) (name : String) : Option String :=
  reading.options.reverse.lookup name

/-- The option is given. -/
def hasOption (reading : Reading) (name : String) : Bool :=
  (reading.option? name).isSome

end Reading

/-- What has been read for one command. -/
structure Level where
  options : List (String × String)
  values : List String
  /-- The option whose value is the next word. -/
  pending : Option OptionForm
  /-- The last option with its value, when they are not checked yet. -/
  unchecked : Option (OptionForm × String)
  /-- Every word from here on is a value. -/
  isLiteral : Bool

namespace Level

/-- Nothing has been read. -/
def empty : Level := ⟨[], [], none, none, false⟩

/-- With an option, which must not have been given before. -/
def record (level : Level) (option : OptionForm) (value : String) : Except Interruption Level :=
  let recorded : Level := { level with options := level.options ++ [(option.name, value)] }
  let isNew := (level.options.lookup option.name).isNone
  match option.kind with
  | .flag => if isNew then .ok recorded else .error .misuse
  | .value accepts => if accepts value && isNew then .ok recorded else .error .misuse
  | .interruption cause => .error cause

/-- With nothing left to check. -/
def settle (level : Level) : Except Interruption Level :=
  match level.unchecked with
  | some (option, value) => { level with unchecked := none }.record option value
  | none => .ok level

/-- The options with their values, checked or not. -/
def given (level : Level) : List (String × String) :=
  level.options ++ (level.unchecked.map fun (option, value) => (option.name, value)).toList

/-- With a value that stands by itself. -/
def place (form : CommandForm) (level : Level) (word : String) : Except Interruption Level :=
  match form.valueAt? level.values.length with
  | some value =>
    if value.accepts word then .ok { level with values := level.values ++ [word] }
    else .error .misuse
  | none => .error .misuse

/-- With an option given by its name, and perhaps a value after an equals sign. -/
def readNamed (form : CommandForm) (level : Level) (name : String) (value : Option String) :
    Except Interruption Level :=
  match form.optionNamed? name with
  | none => .error .misuse
  | some option =>
    match option.kind, value with
    | .value _, none => .ok { level with pending := some option }
    | .value _, some value => level.record option value
    | _, none => level.record option ""
    | _, some _ => .error .misuse

/-- With options given by their letters. The first that has a value takes what follows it, or else
the next word. -/
def readLetters (form : CommandForm) (level : Level) : List Char → Except Interruption Level
  | [] => .ok level
  | letter :: rest =>
    match form.optionLettered? letter with
    | none => .error .misuse
    | some option =>
      match option.kind, rest with
      | .value _, [] => .ok { level with pending := some option }
      | .value _, '=' :: value => level.record option (String.ofList value)
      | .value _, value => level.record option (String.ofList value)
      | _, _ => do readLetters form (← level.record option "") rest

/-- What has been read, when the words are at an end. -/
def finish (form : CommandForm) (outer : Reading) (level : Level) :
    Except Interruption Reading := do
  let level ← level.settle
  let isComplete := level.pending.isNone && form.requiredCount ≤ level.values.length &&
    form.options.all (fun option =>
      !option.isRequired || (level.options.lookup option.name).isSome) && !form.needsCommand
  if isComplete then return ⟨outer.path, outer.options ++ level.options, level.values⟩
  else .error .misuse

end Level

/-- What a word looks like. -/
inductive WordShape where
  /-- Two dashes, after which every word is a value. -/
  | separator
  | named (name : String) (value : Option String)
  | lettered (letters : List Char)
  | plain
deriving DecidableEq

/-- The shape of a word. A dash alone is plain. -/
def shapeOf (word : String) : WordShape :=
  match word.toList with
  | ['-', '-'] => .separator
  | '-' :: '-' :: text =>
    let name := text.takeWhile (· ≠ '=')
    match text.dropWhile (· ≠ '=') with
    | _ :: value => .named (String.ofList name) (some (String.ofList value))
    | [] => .named (String.ofList name) none
  | '-' :: letter :: rest => .lettered (letter :: rest)
  | _ => .plain

/-- The words after `help` name a command, each one below the one before it. -/
def helpOn (form : CommandForm) : List String → Interruption
  | [] => .help
  | word :: rest =>
    match form.command? word with
    | some command => helpOn command rest
    | none =>
      if word = "help" && !form.commands.isEmpty && rest.isEmpty then .help else .misuse

/-- One word, where no command below may be named. -/
def readWord (form : CommandForm) (level : Level) (word : String) : Except Interruption Level := do
  if level.isLiteral then (← level.settle).place form word
  else
    match level.pending, shapeOf word with
    | some option, .plain => return { level with pending := none, unchecked := some (option, word) }
    | some _, _ => .error .misuse
    | none, .separator => return { level with isLiteral := true }
    | none, .plain => (← level.settle).place form word
    | none, .named name value => (← level.settle).readNamed form name value
    | none, .lettered letters => (← level.settle).readLetters form letters

/-- Reads the words of a command and of those below it. -/
def readWords (form : CommandForm) (outer : Reading) (level : Level) :
    List String → Except Interruption Reading
  | [] => level.finish form outer
  | word :: rest =>
    let isValue := level.isLiteral || level.pending.isSome
    match if isValue then none else form.command? word with
    | some command => do
      let reading ←
        readWords command ⟨outer.path ++ [word], outer.options ++ level.given, []⟩ .empty rest
      let _ ← level.settle
      return reading
    | none =>
      if !isValue && word = "help" && !form.commands.isEmpty then .error (helpOn form rest)
      else
        match readWord form level word with
        | .ok level => readWords form outer level rest
        | .error interruption => .error interruption

/-- Reads the words of a command line. -/
def readArguments (form : CommandForm) (words : List String) : Except Interruption Reading :=
  readWords form ⟨[], [], []⟩ .empty words

end Statute.Console
