import ThreadLint.Decimal.Numeral
import ThreadLint.Disk
import ThreadLint.OutputFormat
import ThreadLint.Severity
import ThreadLint.Text.Segment

/-!
This module contains what the program can be told to do, and how its arguments say that: the options
that a command takes, and how options with their values are told from operands.
-/

namespace ThreadLint.CommandLine

/-! ### Options and operands -/

/--
An option of a command: what it is about, how it may be spelled, and whether a value follows it.
-/
structure OptionSpec (κ : Type) where
  key : κ
  spellings : List String
  takesValue : Bool := false

/--
Why arguments make no sense.
-/
inductive Misuse where
  | unknownOption (spelling : String)
  | missingValue (spelling : String)
  | surplusValue (spelling : String)
  | unknownCommand (name : String)
  | noCommand
  | surplusOperand (operand : String)
  | badValue (spelling value : String)
  | noFile (path : String)
  deriving DecidableEq, Repr, Inhabited

/--
The wording of a misuse.
-/
def Misuse.message : Misuse → String
  | unknownOption spelling => "No such option: " ++ spelling
  | missingValue spelling => "Option '" ++ spelling ++ "' requires an argument."
  | surplusValue spelling => "Option '" ++ spelling ++ "' does not take a value."
  | unknownCommand name => "No such command '" ++ name ++ "'."
  | noCommand => "Missing command."
  | surplusOperand operand => "Got unexpected extra argument (" ++ operand ++ ")"
  | badValue spelling value => "Invalid value for '" ++ spelling ++ "': " ++ value
  | noFile path => "Invalid value for '--config': File '" ++ path ++ "' does not exist."

/--
Arguments that are told apart: the options in their order, with empty values for those that take
none, and the operands.
-/
structure Arguments (κ : Type) where
  options : List (κ × String) := []
  operands : List String := []

/--
The options in one argument, and the one among them whose value is the next argument, with its
spelling.
-/
structure Cluster (κ : Type) where
  options : List (κ × String) := []
  pending : Option (κ × String) := none

namespace OptionSpec

/--
The option with a spelling.
-/
def find? {κ : Type} (specs : List (OptionSpec κ)) (spelling : String) : Option (OptionSpec κ) :=
  specs.find? fun spec => spec.spellings.contains spelling

/--
The options whose letters stand behind one hyphen. What follows the letter of an option that takes a
value is that value.
-/
def letters {κ : Type} (specs : List (OptionSpec κ)) : List Char → Except Misuse (Cluster κ)
  | [] => .ok {}
  | letter :: rest =>
    let spelling := String.ofList ['-', letter]
    match find? specs spelling with
    | none => .error (.unknownOption spelling)
    | some spec =>
      if spec.takesValue then
        if rest.isEmpty then .ok ⟨[], some (spec.key, spelling)⟩
        else .ok ⟨[(spec.key, String.ofList rest)], none⟩
      else do
        let others ← letters specs rest
        return { others with options := (spec.key, "") :: others.options }

/--
The options in an argument that begins with a hyphen. The value of one that is spelled out may
follow an equals sign.
-/
def cluster {κ : Type} (specs : List (OptionSpec κ)) (argument : String) :
    Except Misuse (Cluster κ) :=
  let spelling := Text.beforeFirst '=' argument
  let value : Option String :=
    if argument.contains '=' then some (Text.afterFirst '=' argument) else none
  match (find? specs spelling).filter fun _ => 2 < spelling.length, value with
  | some spec, some value =>
    if spec.takesValue then .ok ⟨[(spec.key, value)], none⟩ else .error (.surplusValue spelling)
  | some spec, none =>
    if spec.takesValue then .ok ⟨[], some (spec.key, spelling)⟩ else .ok ⟨[(spec.key, "")], none⟩
  | none, _ =>
    if Text.startsWith argument "--" then .error (.unknownOption spelling)
    else letters specs (argument.toList.drop 1)

end OptionSpec

namespace Arguments

/--
Tells arguments apart. Two hyphens end the options. If operands and options are not mixed,
everything from the first operand on is an operand.
-/
def ofList {κ : Type} (specs : List (OptionSpec κ)) (mixed : Bool) :
    List String → Except Misuse (Arguments κ)
  | [] => .ok {}
  | argument :: rest =>
    if argument == "--" then .ok ⟨[], rest⟩
    else if Text.startsWith argument "-" && 1 < argument.length then do
      let cluster ← OptionSpec.cluster specs argument
      match cluster.pending, rest with
      | none, rest =>
        let others ← ofList specs mixed rest
        return { others with options := cluster.options ++ others.options }
      | some (_, spelling), [] => throw (.missingValue spelling)
      | some (key, _), value :: rest =>
        let others ← ofList specs mixed rest
        return { others with options := cluster.options ++ (key, value) :: others.options }
    else if mixed then do
      let others ← ofList specs mixed rest
      return { others with operands := argument :: others.operands }
    else .ok ⟨[], argument :: rest⟩

variable {κ : Type} [DecidableEq κ]

/--
Whether an option is given.
-/
def has (arguments : Arguments κ) (key : κ) : Bool :=
  arguments.options.any fun option => option.1 = key

/--
The values of an option, in their order.
-/
def values (arguments : Arguments κ) (key : κ) : List String :=
  (arguments.options.filter fun option => option.1 = key).map Prod.snd

/--
The value of an option that counts, which is the last one.
-/
def value? (arguments : Arguments κ) (key : κ) : Option String :=
  (arguments.values key).getLast?

end Arguments

/-! ### Commands -/

/--
A request to check files. What is not said is left to the other sources of settings.
-/
structure CheckRequest where
  paths : List String := []
  categories : List String := []
  fixes : Bool := false
  isDry : Bool := false
  failOn : Option Severity := none
  workers : Option Int := none
  format : Option OutputFormat := none
  configFile : Option String := none
  disabledRules : List String := []
  isVerbose : Bool := false
  isQuiet : Bool := false
  logFile : Option String := none
  deriving DecidableEq, Repr, Inhabited

/--
What the program is told to do.
-/
inductive Command where
  | help
  | version
  | rules (categories : List String)
  | check (request : CheckRequest)
  deriving DecidableEq, Repr, Inhabited

/--
The options in front of a command.
-/
inductive ProgramOption where
  | version
  | help
  deriving DecidableEq, Repr, Inhabited

/--
How the options in front of a command are spelled.
-/
def ProgramOption.specs : List (OptionSpec ProgramOption) :=
  [⟨version, ["--version"], false⟩, ⟨help, ["--help"], false⟩]

/--
The options of the command that lists the rules.
-/
inductive RulesOption where
  | category
  | help
  deriving DecidableEq, Repr, Inhabited

/--
How the options of the command that lists the rules are spelled.
-/
def RulesOption.specs : List (OptionSpec RulesOption) :=
  [⟨category, ["-r", "--ruleset"], true⟩, ⟨help, ["--help"], false⟩]

/--
The options of the command that checks files.
-/
inductive CheckOption where
  | category
  | fix
  | dryRun
  | failOn
  | workers
  | format
  | configFile
  | disable
  | verbose
  | quiet
  | logFile
  | help
  deriving DecidableEq, Repr, Inhabited

/--
How the options of the command that checks files are spelled.
-/
def CheckOption.specs : List (OptionSpec CheckOption) :=
  [⟨category, ["-r", "--ruleset"], true⟩, ⟨fix, ["--fix"], false⟩, ⟨dryRun, ["--dry-run"], false⟩,
   ⟨failOn, ["--fail-on"], true⟩, ⟨workers, ["-w", "--workers"], true⟩,
   ⟨format, ["-f", "--format"], true⟩, ⟨configFile, ["-c", "--config"], true⟩,
   ⟨disable, ["--disable"], true⟩, ⟨verbose, ["--verbose", "-v"], false⟩,
   ⟨quiet, ["--quiet", "-q"], false⟩, ⟨logFile, ["--log-file"], true⟩, ⟨help, ["--help"], false⟩]

/--
A word without regard to letter case. The long s is a small s here.
-/
def caseFolded (word : String) : String :=
  String.ofList ((Text.lower word).toList.map fun c => if c == 'ſ' then 's' else c)

/--
The choice that a word makes.
-/
def choice {α : Type} (spelling : String) (choices : List (String × α)) (word : String) :
    Except Misuse α :=
  match choices.lookup (caseFolded word) with
  | some meaning => .ok meaning
  | none => .error (.badValue spelling word)

/--
A number of workers.
-/
def workerCount (word : String) : Except Misuse Int :=
  match Decimal.integer word with
  | .ok n => if n < 1 then .error (.badValue "--workers" word) else .ok n
  | .error _ => .error (.badValue "--workers" word)

/--
A path that must lead to a file. One with a null character is not looked for here.
-/
def existingFile (disk : Disk) (written : String) : Except Misuse String :=
  let last := Text.afterLast '/' written
  match disk.item (Path.ofString written) with
  | .ok (.file _) => if last.isEmpty || last == "." then fault else .ok written
  | .error .nullCharacter => .ok written
  | _ => fault
where
  fault : Except Misuse String := .error (.noFile written)

/--
The request that the arguments of the command for checks stand for.
-/
def CheckRequest.ofArguments (disk : Disk) (arguments : Arguments CheckOption) :
    Except Misuse CheckRequest := do
  let failOn ← (arguments.value? .failOn).mapM
    (choice "--fail-on" (Severity.all.map fun severity => (severity.name, severity)))
  let workers ← (arguments.value? .workers).mapM workerCount
  let format ← (arguments.value? .format).mapM
    (choice "--format" (OutputFormat.all.map fun format => (format.name, format)))
  let configFile ← (arguments.value? .configFile).mapM (existingFile disk)
  return {
    paths := arguments.operands
    categories := arguments.values .category
    fixes := arguments.has .fix
    isDry := arguments.has .dryRun
    failOn := failOn
    workers := workers
    format := format
    configFile := configFile
    disabledRules := arguments.values .disable
    isVerbose := arguments.has .verbose
    isQuiet := arguments.has .quiet
    logFile := arguments.value? .logFile
  }

/--
The paths in a request.
-/
def CheckRequest.allPaths (request : CheckRequest) : List String :=
  request.paths ++ request.configFile.toList ++ request.logFile.toList

namespace Command

/--
The command to check files with some arguments.
-/
def checkOf (disk : Disk) (words : List String) : Except Misuse Command := do
  let arguments ← Arguments.ofList CheckOption.specs true words
  if arguments.has .help then return help
  else return check (← CheckRequest.ofArguments disk arguments)

/--
The command to list rules with some arguments.
-/
def rulesOf (words : List String) : Except Misuse Command := do
  let arguments ← Arguments.ofList RulesOption.specs true words
  if arguments.has .help then return help
  else
    match arguments.operands with
    | operand :: _ => throw (.surplusOperand operand)
    | [] => return rules (arguments.values .category)

/--
The command that the arguments of the program stand for. An option in front of a command is a
command of its own.
-/
def ofArguments (disk : Disk) (words : List String) : Except Misuse Command := do
  let arguments ← Arguments.ofList ProgramOption.specs false words
  match arguments.options, arguments.operands with
  | (.version, _) :: _, _ => return version
  | (.help, _) :: _, _ => return help
  | [], [] => throw .noCommand
  | [], "check" :: words => checkOf disk words
  | [], "rules" :: words => rulesOf words
  | [], name :: _ => throw (.unknownCommand name)

end Command

end ThreadLint.CommandLine
