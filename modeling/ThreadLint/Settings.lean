import ThreadLint.OutputFormat
import ThreadLint.Settings.Value
import ThreadLint.Settings.Verbosity
import ThreadLint.Settings.Word
import ThreadLint.Symbol.Entry

/-!
This module contains the settings of a run and the check that the values given for them make sense.
-/

namespace ThreadLint

/--
What a run does with the fixes that it finds.
-/
inductive Mode where
  | report
  | fix
  deriving DecidableEq, Repr, Inhabited

/--
The word for a mode.
-/
def Mode.name : Mode → String
  | report => "report"
  | fix => "fix"

/--
A symbol that the settings add to the known ones: its name, its tags as they were given, and what
these mean.
-/
structure ExtraSymbol where
  name : String
  given : Value
  tags : List SymbolTag
  deriving Inhabited

/--
The settings of a run.
-/
structure Settings where
  rulesets : List (Spelled Category)
  disabledRules : List String
  extraSymbols : List ExtraSymbol
  mode : Mode
  dryRun : Value
  failOn : Spelled Severity
  maxWorkers : Value
  extensions : List String
  excludePatterns : List String
  maxFileSize : Value
  allowHiddenFiles : Value
  followSymlinks : Value
  outputFormat : OutputFormat
  verbosity : Verbosity
  deriving Inhabited

namespace Settings

/--
A value that is a list of texts.
-/
def textList (texts : List String) : Value :=
  .list (texts.map .text)

/--
The values that settings have if nothing else is given.
-/
def defaults : Entries :=
  [("rulesets", textList (Category.all.map Category.name)),
   ("disabled_rules", .list []),
   ("extra_symbols", .table []),
   ("mode", .text "report"),
   ("dry_run", .bool false),
   ("fail_on", .text "error"),
   ("max_workers", .null),
   ("extensions", textList [".cs"]),
   ("exclude_patterns", textList
     ["bin/*", "obj/*", ".git/*", ".vs/*", "packages/*", "node_modules/*", "*.g.cs", "*.g.i.cs",
      "*.Designer.cs", "*.AssemblyInfo.cs"]),
   ("max_file_size_mb", .real 5.0),
   ("allow_hidden_files", .bool false),
   ("follow_symlinks", .bool false),
   ("output_format", .text "human"),
   ("verbosity", .text "normal")]

/--
The keys of settings.
-/
def keys : List String :=
  defaults.map Prod.fst

/--
The pieces of a text between commas, without white space around them and without empty ones.
-/
def commaSeparated (text : String) : List String :=
  ((Text.pieces ',' text).map Text.trim).filter fun piece => !piece.isEmpty

/--
The texts that the value of a setting lists: those of the items of a list, or the pieces of a text
between commas.
-/
def texts (key : String) : Value → Except Fault (List String)
  | .text value => .ok (commaSeparated value)
  | .list items => items.mapM Value.shown
  | value => value.refused key .notAList

/--
The category that a text in the settings means.
-/
def category (written : String) : Except Fault (Spelled Category) :=
  match Category.ofWord written with
  | .ok meaning => .ok ⟨written, meaning⟩
  | .error bad => .error (.setting (.text "rulesets") written (.bad bad))

/--
The single tags of the value given for a symbol, unless the value has no parts.
-/
def tagValues : Value → Except Fault (List Value)
  | .text value => .ok [.text value]
  | .list items => .ok items
  | .table entries => .ok (entries.map fun entry => .text entry.1)
  | value => if value.isOn then .error .wrongType else .ok []

/--
A tag of a symbol.
-/
def tag (name : String) (given : Value) : Except Fault SymbolTag := do
  match SymbolTag.ofWord (← given.shown) with
  | .ok tag => return tag
  | .error bad => given.refused ("extra_symbols." ++ name) (.bad bad)

/--
A symbol that the settings add.
-/
def extraSymbol (name : String) (given : Value) : Except Fault ExtraSymbol := do
  if name.isEmpty then throw (.setting (.text "extra_symbols") name .emptySymbol)
  let values ← tagValues given
  if values.isEmpty then throw (.setting (.text "extra_symbols") name .emptySymbol)
  let tags ← values.mapM (tag name)
  return ⟨name, given, tags.eraseDups⟩

/--
The symbols that the settings add.
-/
def extraSymbolsOf : Value → Except Fault (List ExtraSymbol)
  | .table entries => entries.mapM fun entry => extraSymbol entry.1 entry.2
  | value => value.refused "extra_symbols" .notATable

/--
The choice that the value of a setting makes.
-/
def choice {α : Type} (key : String) (choices : List (String × α)) (problem : SettingProblem)
    (value : Value) : Except Fault α :=
  match value with
  | .text word =>
    match choices.lookup word with
    | some meaning => .ok meaning
    | none => value.refused key problem
  | _ => value.refused key problem

/--
The severity from which on findings make a run fail.
-/
def severity (value : Value) : Except Fault (Spelled Severity) := do
  let word ← value.shown
  match Severity.ofWord word with
  | .ok meaning => return ⟨word, meaning⟩
  | .error bad => value.refused "fail_on" (.bad bad)

/--
The number of workers, or nothing. A switch that is on counts as one.
-/
def workers (value : Value) : Except Fault Value :=
  match value with
  | .null | .bool true => .ok value
  | .int n => if n < 1 then tooFew else .ok value
  | _ => tooFew
where
  tooFew : Except Fault Value :=
    value.refused "max_workers" .tooFewWorkers

/--
An extension of files.
-/
def extension (written : String) : Except Fault String :=
  if Text.startsWith written "." then .ok written
  else .error (.setting (.text "extensions") written .extensionWithoutDot)

/--
The size up to which files are read. A switch that is on counts as one.
-/
def fileSize (value : Value) : Except Fault Value :=
  match value with
  | .bool true => .ok value
  | .int n => if n ≤ 0 then notPositive else .ok value
  | .real x => if x ≤ 0 then notPositive else .ok value
  | .bool false => notPositive
  | _ => .error .wrongType
where
  notPositive : Except Fault Value :=
    value.refused "max_file_size_mb" .notPositive

/--
The settings that values give, where a value that is not given is the default. The first value that
makes no sense is a fault.
-/
def ofEntries (given : Entries) : Except Fault Settings := do
  if given.any fun entry => !keys.contains entry.1 then throw .wrongType
  let entries := defaults.update given
  let value (key : String) : Value := (entries.lookup key).getD .null
  let rulesets ← texts "rulesets" (value "rulesets")
  let disabledRules ← texts "disabled_rules" (value "disabled_rules")
  let extensions ← texts "extensions" (value "extensions")
  let excludePatterns ← texts "exclude_patterns" (value "exclude_patterns")
  let rulesets ← rulesets.mapM category
  let extraSymbols ← extraSymbolsOf (value "extra_symbols")
  let mode ←
    choice "mode" ([Mode.report, .fix].map fun m => (m.name, m)) .unknownMode (value "mode")
  let failOn ← severity (value "fail_on")
  let maxWorkers ← workers (value "max_workers")
  let extensions ← extensions.mapM extension
  let maxFileSize ← fileSize (value "max_file_size_mb")
  let outputFormat ←
    choice "output_format" (OutputFormat.all.map fun f => (f.name, f))
      .unknownOutputFormat (value "output_format")
  let verbosity ←
    choice "verbosity" (Verbosity.all.map fun v => (v.name, v))
      .unknownVerbosity (value "verbosity")
  return {
    rulesets := rulesets
    disabledRules := disabledRules
    extraSymbols := extraSymbols
    mode := mode
    dryRun := value "dry_run"
    failOn := failOn
    maxWorkers := maxWorkers
    extensions := extensions
    excludePatterns := excludePatterns
    maxFileSize := maxFileSize
    allowHiddenFiles := value "allow_hidden_files"
    followSymlinks := value "follow_symlinks"
    outputFormat := outputFormat
    verbosity := verbosity
  }

/--
The categories that are switched on.
-/
def categories (settings : Settings) : List Category :=
  settings.rulesets.map Spelled.meaning

/--
The entries of the symbols that the settings add, in the order of their names.
-/
def symbolEntries (settings : Settings) : List SymbolEntry :=
  (settings.extraSymbols.mergeSort fun first second => decide (first.name ≤ second.name)).map
    fun extra => SymbolEntry.ofSetting extra.name extra.tags

/--
The greatest number of bytes that is read from a file: so many megabytes, without a fraction of a
byte.
-/
def maxFileBytes (settings : Settings) : Except Fault Int :=
  match settings.maxFileSize with
  | .bool true => .ok (1024 * 1024)
  | .int n => .ok (n * 1024 * 1024)
  | .real x =>
    match Decimal.truncate? (x * 1024 * 1024) with
    | some bytes => .ok bytes
    | none => .error (if x.isNaN then .badValue .notANumber else .infinite)
  | _ => .error .wrongType

end Settings

end ThreadLint
