import ThreadLint.Disk
import ThreadLint.Settings
import ThreadLint.Toml.Document

/-!
This module contains where settings come from: files in TOML, environment variables and what the
user says for a run. Each source goes on top of those that count less.
-/

namespace ThreadLint

namespace Value

/--
What a value is made of: the items of a list, the characters of a text or the keys of a table.
-/
def parts? : Value → Option (List Value)
  | list items => some items
  | text value => some (value.toList.map fun c => text c.toString)
  | table entries => some (entries.map fun entry => text entry.1)
  | _ => none

/--
The entry that a value with two parts stands for.
-/
def entry (item : Value) (index : Nat) : Except Fault (Value × Value) :=
  match item.parts? with
  | some [list _, _] | some [table _, _] => .error .wrongType
  | some [key, value] => .ok (key, value)
  | some parts => .error (.badValue (.pair index parts.length))
  | none => .error .wrongType

/--
Where a number stands among all others: the sign of an infinite one or zero, and how many times it
is the smallest positive floating-point number. A switch that is on counts as one.
-/
def place? : Value → Option (Int × Int)
  | bool value => some (0, if value then unit else 0)
  | int value => some (0, value * unit)
  | real value =>
    let bits := value.toBits.toNat
    let size := bits % Decimal.twoTo 63
    let sign : Int := if bits < Decimal.twoTo 63 then 1 else -1
    if value.isNaN then none
    else if value.isInf then some (sign, 0)
    else
      let number := Decimal.Rounded.ofBits size
      some (0, sign * (number.mantissa * Decimal.twoTo (number.exponent + 1074).toNat : Nat))
  | _ => none
where
  unit : Int := (Decimal.twoTo 1074 : Nat)

/--
Whether two values are the same as keys. Numbers are if they are equal.
-/
def isSameKey (first second : Value) : Bool :=
  match first, second with
  | moment first, moment second => first = second
  | _, _ => first.place?.isSome && first.place? == second.place?

/--
Whether a number comes in front of another one. One that is not a number never does.
-/
def precedes (first second : Value) : Bool :=
  match first.place?, second.place? with
  | some (sign, size), some (sign', size') =>
    decide (sign < sign') || (sign == sign' && decide (size < size'))
  | _, _ => false

/--
A value as a detail of a fault.
-/
def detail (value : Value) : Except Fault Detail := do
  let words ← value.shown
  match value with
  | bool isOn => return .switch isOn
  | int _ | real _ => return .number words
  | _ => return .text words

end Value

/--
What a source says about settings: the entries under texts, and those under other keys, which are no
settings.
-/
structure Stated where
  entries : Entries := []
  strays : List (Value × Value) := []
  deriving Inhabited

namespace Stated

/--
What is stated with one more entry under a key that is no text. A key that is there already stays as
it is.
-/
def putStray (stated : Stated) (key value : Value) : Stated :=
  if stated.strays.any fun stray => stray.1.isSameKey key then
    { stated with strays := stated.strays.map fun stray =>
        if stray.1.isSameKey key then (stray.1, value) else stray }
  else { stated with strays := stated.strays ++ [(key, value)] }

/--
What is stated with one more entry.
-/
def put (stated : Stated) (key value : Value) : Stated :=
  match key with
  | .text key => { stated with entries := stated.entries.put key value }
  | key => stated.putStray key value

/--
What is stated with what another source says on top.
-/
def update (stated others : Stated) : Stated :=
  others.strays.foldl (fun stated (key, value) => stated.putStray key value)
    { stated with entries := stated.entries.update others.entries }

/--
What a value says about settings: a table, or parts that are pairs.
-/
def ofValue (value : Value) : Except Fault Stated := do
  match value with
  | .table entries => return ⟨entries, []⟩
  | value =>
    match value.parts? with
    | some parts =>
      let pairs ← parts.zipIdx.mapM fun (item, index) => item.entry index
      return pairs.foldl (fun stated (key, value) => stated.put key value) {}
    | none => throw .wrongType

/--
The first of the entries under keys that are no settings, if there are any. Texts and other keys
have no order among each other, and neither have moments.
-/
def firstUnknown? (stated : Stated) (isKnown : String → Bool) :
    Except Fault (Option (Detail × Value)) := do
  let unknown := (stated.entries.filter fun entry => !isKnown entry.1).mergeSort
    fun first second => decide (first.1 ≤ second.1)
  match unknown, stated.strays with
  | [], [] => return none
  | (key, value) :: _, [] => return some (.text key, value)
  | [], stray :: strays =>
    if !strays.isEmpty && stated.strays.any fun (key, _) => key matches .moment _ then
      throw .wrongType
    let (key, value) := strays.foldl
      (fun first next => if next.1.precedes first.1 then next else first) stray
    return some (← key.detail, value)
  | _, _ => throw .wrongType

end Stated

namespace Settings

/--
The key under which a document holds the settings, if it does not hold them at the top.
-/
def tableKey : String :=
  "hostguard"

/--
The settings in a file.
-/
def inFile (disk : Disk) (path : Path) : Except Fault Stated :=
  match disk.item path with
  | .error (.nameTooLong _) => .error .longPath
  | .error _ => fault .missingFile
  | .ok (.directory _) => fault (.isDirectory path.text)
  | .ok (.file content) =>
    match Text.decode content with
    | .error problem => .error (.undecodable problem)
    | .ok text =>
      match Toml.entries text with
      | .error .malformed => fault .malformedFile
      | .error (.tooLong digits) => .error (.badValue (.integer "" (.tooLong digits)))
      | .ok entries =>
        match entries.lookup tableKey with
        | some value => Stated.ofValue value
        | none => .ok ⟨entries, []⟩
where
  fault (problem : SettingProblem) : Except Fault Stated :=
    .error (.setting (.text "config_file") path.text problem)

/--
The settings in a file that need not be there.
-/
def inFileIfThere (disk : Disk) (path : Path) : Except Fault Stated :=
  if disk.has path then inFile disk path else .ok {}

/--
How the text of an environment variable is read.
-/
inductive VariableKind where
  | words
  | text
  | switch
  | integer
  | decimal
  deriving DecidableEq, Repr, Inhabited

/--
How the variable for a setting is read. The symbols that settings add have no variable.
-/
def variableKind? (key : String) : Option VariableKind :=
  [("rulesets", VariableKind.words), ("disabled_rules", .words), ("mode", .text),
    ("dry_run", .switch), ("fail_on", .text), ("max_workers", .integer), ("extensions", .words),
    ("exclude_patterns", .words), ("max_file_size_mb", .decimal), ("allow_hidden_files", .switch),
    ("follow_symlinks", .switch), ("output_format", .text), ("verbosity", .text)].lookup key

/--
The name of the variable for a setting.
-/
def variableName (key : String) : String :=
  "HOSTGUARD_" ++ String.ofList (key.toList.map Char.toUpper)

/--
The value that the text of a variable stands for.
-/
def variableValue (kind : VariableKind) (text : String) : Except BadValue Value :=
  match kind with
  | .words => .ok (textList (commaSeparated text))
  | .text => .ok (.text text)
  | .switch =>
    if ["true", "1", "yes", "on"].contains (Text.lower text) then .ok (.bool true)
    else if ["false", "0", "no", "off"].contains (Text.lower text) then .ok (.bool false)
    else .error (.switch text)
  | .integer =>
    match Decimal.integer text with
    | .ok n => .ok (.int n)
    | .error problem => .error (.integer text problem)
  | .decimal =>
    match Decimal.real? text with
    | some x => .ok (.real x)
    | none => .error (.decimal text)

/--
The settings in environment variables.
-/
def environmentEntries (environment : Keyed String) : Except Fault Entries := do
  let found ← keys.mapM fun key =>
    match variableKind? key, environment.lookup (variableName key) with
    | some kind, some text =>
      match variableValue kind text with
      | .ok value => .ok (some (key, value))
      | .error bad => .error (.setting (.text (variableName key)) text (.bad bad))
    | _, _ => .ok none
  return found.filterMap id

/--
What the user says for a run, where the switches for more or less output stand for a verbosity. The
one for less wins, and what is null is not said.
-/
def statedEntries (stated : Entries) : Entries :=
  let isSet (key : String) : Bool := (stated.lookup key).any Value.isOn
  let plain := (stated.erase "verbose").erase "quiet"
  let louder := if isSet "verbose" then plain.put "verbosity" (.text "verbose") else plain
  let settled := if isSet "quiet" then louder.put "verbosity" (.text "quiet") else louder
  settled.filter fun entry =>
    match entry.2 with
    | .null => false
    | _ => true

/--
Settings in which the table of symbols has been put on top of the symbols that are given otherwise.
-/
def withSymbols (entries : Entries) : Except Fault Entries :=
  match entries.lookup "symbols" with
  | none => .ok entries
  | some symbols =>
    match (entries.lookup "extra_symbols").getD (.table []), symbols with
    | .table given, .table symbols =>
      .ok ((entries.erase "symbols").put "extra_symbols" (.table (Keyed.update given symbols)))
    | _, _ => .error .wrongType

/--
The settings that merged sources give. Of the keys that are no settings the first is a fault.
-/
def ofMerged (stated : Stated) : Except Fault Settings := do
  let stated := { stated with entries := ← withSymbols stated.entries }
  match ← stated.firstUnknown? keys.contains with
  | some (key, value) => throw (.setting key (← value.shown) .unknownKey)
  | none => ofEntries stated.entries

/--
The settings for a run: those in the user's file, in the file of the current directory, in a file
that is named, in the environment, and those that are stated. The later ones win.
-/
def load (disk : Disk) (environment : Keyed String) (configFile : Option String)
    (stated : Entries) : Except Fault Settings := do
  let personal ← inFileIfThere disk (disk.home.join (Path.ofString ".hostguard.toml"))
  let project ← inFileIfThere disk (disk.here.join (Path.ofString "hostguard.toml"))
  let named ← match configFile with
    | some written => inFile disk (Path.ofString written)
    | none => pure {}
  let exported ← environmentEntries environment
  let inFiles := ((({} : Stated).update personal).update project).update named
  ofMerged ((inFiles.update ⟨exported, []⟩).update ⟨statedEntries stated, []⟩)

end Settings

end ThreadLint
