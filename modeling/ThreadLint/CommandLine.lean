import ThreadLint.CommandLine.Command
import ThreadLint.Markup
import ThreadLint.Report.Panel
import ThreadLint.Report.Write
import ThreadLint.Run
import ThreadLint.Settings.Source

/-!
This module contains what the commands of the program do: what they write, what they do to files,
and how the program ends.
-/

namespace ThreadLint.CommandLine

/--
What a command did: the lines that it wrote, how the program ends and why that is not as wished, the
verbosity of its log unless it never began one, and the disk behind it.
-/
structure Effect where
  output : List String := []
  status : ExitStatus
  complaint : Option String := none
  log : Option Verbosity := none
  disk : Disk

/--
The name and version of the program.
-/
def versionLine : String :=
  "hostguard version 0.1.0"

/--
The cells of a rule in the list of rules.
-/
def ruleCells (rule : RuleDefinition) : List String :=
  [rule.id, ((rule.category.map Category.name).getD ""),
    ((rule.severity.map Severity.label).getD ""),
    if rule.offer = .offered then "yes" else "no", rule.description]

/--
The list of the rules of some categories, or of all rules.
-/
def ruleLines (categories : List Category) : List String :=
  let shown := RuleDefinition.catalogue.filter fun rule =>
    categories.isEmpty || rule.category.any categories.contains
  Grid.lines "hostguard rules"
    [⟨"Rule", false⟩, ⟨"Category", false⟩, ⟨"Severity", false⟩, ⟨"Fix", true⟩,
      ⟨"Description", false⟩]
    (shown.map ruleCells)

/--
What a request states about settings.
-/
def CheckRequest.stated (request : CheckRequest) : Entries :=
  let words (key : String) (texts : List String) : Entries :=
    if texts.isEmpty then [] else [(key, Settings.textList texts)]
  let switch (key : String) (isOn : Bool) : Entries := if isOn then [(key, .bool true)] else []
  words "rulesets" request.categories ++
    (if request.fixes || request.isDry then [("mode", .text Mode.fix.name)] else []) ++
    switch "dry_run" request.isDry ++
    (request.failOn.map fun severity => ("fail_on", Value.text severity.name)).toList ++
    (request.workers.map fun n => ("max_workers", Value.int n)).toList ++
    (request.format.map fun format => ("output_format", Value.text format.name)).toList ++
    words "disabled_rules" request.disabledRules ++
    switch "verbose" request.isVerbose ++ switch "quiet" request.isQuiet

/--
How the program ends after a fault.
-/
def statusOf (fault : Fault) : ExitStatus :=
  match fault with
  | .setting .. | .rules _ => .badSettings
  | .syntaxError _ | .access _ | .fixConflict .. | .promise .. => .failure
  | _ => .crash

/--
What the program says in front of a complaint about settings.
-/
def settingsHeading : String :=
  "Fatal configuration error:"

/--
What the program says in front of the text of a fault.
-/
def headingOf (fault : Fault) : String :=
  match fault with
  | .setting .. | .rules _ => settingsHeading
  | .promise .. => "Internal error:"
  | _ => "Error:"

/--
The effect of a command that ended with a complaint. Its words are taken as markup, and the program
breaks off at markup that ends a style that was not begun.
-/
def Effect.ofComplaint (status : ExitStatus) (heading words : String) (log : Option Verbosity)
    (disk : Disk) : Effect :=
  let markup := Markup.styled "red" heading ++ " " ++ words
  if Markup.isBalanced markup then
    { status := status, complaint := some (Markup.plain markup), log := log, disk := disk }
  else
    { status := .crash, complaint := some (heading ++ " " ++ words), log := log, disk := disk }

/--
The effect of a command that a fault ended.
-/
def Effect.ofFault (fault : Fault) (log : Option Verbosity) (disk : Disk) : Effect :=
  .ofComplaint (statusOf fault) (headingOf fault) fault.text log disk

/--
How the program ends after a run.
-/
def statusAfter (batch : Batch) (failOn : Severity) : ExitStatus :=
  if batch.isCancelled then .interrupted else batch.report.status failOn

/--
The lines of a text, of which the last one may be empty.
-/
def linesOf (text : String) : List String :=
  if text.isEmpty then [] else Text.pieces '\n' text

/--
The disk with a log file, which is made if it is missing.
-/
def withLog (disk : Disk) (path : Path) : Except AccessFault Disk :=
  match disk.item path with
  | .ok (.file _) => .ok disk
  | _ => disk.storeText path ""

/--
Checks the files of a request on a terminal of some width. No path in it may have a null character.
-/
def check (room : Nat) (environment : Keyed String) (disk : Disk) (request : CheckRequest) :
    Effect :=
  if request.allPaths.any fun path => path.contains '\x00' then
    .ofFault (.badValue .nullCharacter) none disk
  else
    match (request.logFile.map Path.ofString).elim (.ok disk) (withLog disk) with
    | .error fault => { Effect.ofFault (.access fault) none disk with status := .crash }
    | .ok disk =>
      match Settings.load disk environment request.configFile request.stated with
      | .error fault =>
        .ofFault fault (some (Verbosity.ofFlags request.isVerbose request.isQuiet)) disk
      | .ok settings =>
        let paths := if request.paths.isEmpty then ["."] else request.paths
        match (settings.run paths).run ⟨disk, []⟩ with
        | (.error fault, scene) => .ofFault fault (some settings.verbosity) scene.disk
        | (.ok batch, scene) =>
          { output := linesOf (settings.outputFormat.write room batch.report)
            status := statusAfter batch settings.failOn.meaning
            log := some settings.verbosity
            disk := scene.disk }

/--
Lists the rules of the categories that some words mean.
-/
def rules (disk : Disk) (words : List String) : Effect :=
  match words.mapM Category.ofWord with
  | .error bad => .ofComplaint .badSettings settingsHeading bad.message none disk
  | .ok categories => { output := ruleLines categories, status := .clean, disk := disk }

/--
How the program is used.
-/
def usageLines : List String :=
  ["Usage: hostguard [--version] [--help] COMMAND [ARGS]...",
   "  check [PATHS]... [-r CATEGORY] [--fix] [--dry-run] [--fail-on SEVERITY] [-w COUNT]",
   "        [-f FORMAT] [-c FILE] [--disable RULE] [-v] [-q]",
   "  rules [-r CATEGORY]"]

/--
Does what the program is told to.
-/
def Command.perform (room : Nat) (environment : Keyed String) (disk : Disk) : Command → Effect
  | help => { output := usageLines, status := .clean, disk := disk }
  | version => { output := [versionLine], status := .clean, disk := disk }
  | rules categories => CommandLine.rules disk categories
  | check request => CommandLine.check room environment disk request

/--
Runs the program with some arguments.
-/
def run (room : Nat) (environment : Keyed String) (disk : Disk) (words : List String) : Effect :=
  match Command.ofArguments disk words with
  | .error misuse =>
    { status := .misuse, complaint := some ("Error: " ++ misuse.message), disk := disk }
  | .ok command => command.perform room environment disk

end ThreadLint.CommandLine
