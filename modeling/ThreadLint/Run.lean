import ThreadLint.Analysis
import ThreadLint.Disk.Collect
import ThreadLint.Disk

/-!
This module contains runs over files: each file is read once and analysed, and in fix mode its fixes
are written back unless it has changed in the meantime.
-/

namespace ThreadLint

/--
What a run works on: the disk, and changes that somebody else makes to files. Each of them happens
when the text of its file has been read for the first time; without new bytes the file goes away.
-/
structure Scene where
  disk : Disk
  changes : Keyed (Option ByteArray) := []

namespace Scene

/--
What becomes of the scene while the text of a file is analysed.
-/
def meanwhile (scene : Scene) (path : String) : Scene :=
  match scene.changes.lookup path with
  | none => scene
  | some (some content) =>
    ⟨scene.disk.put (Path.ofString path) content, scene.changes.erase path⟩
  | some none => ⟨scene.disk.erase (Path.ofString path), scene.changes.erase path⟩

end Scene

/--
A part of a run. What it did to the disk remains if it ends in a fault.
-/
abbrev Run (α : Type) := ExceptT Fault (StateM Scene) α

namespace FileResult

/--
The reason for which fixes are not written to a file that somebody else has changed.
-/
def changedReason : String :=
  "file changed on disk during the run; fixes not written"

/--
The result for a file that cannot be read or written, with one more finding that says so.
-/
def withAccessFault (result : FileResult) (fault : AccessFault) : FileResult :=
  { result with
    accessFault := some fault
    findings := Finding.sorted (result.findings ++ [fault.finding result.path]) }

end FileResult

namespace Analyzer

/--
Writes a fixed text to its file and analyses it again. The file must still hold the text that was
analysed.
-/
def writeBack (analyzer : Analyzer) (text : String) (result : FileResult) (outcome : Outcome) :
    Run FileResult := do
  let path := Path.ofString result.path
  match (← get).disk.readText path none with
  | .error fault => return result.withAccessFault fault
  | .ok present =>
    if present != text then return { result with fixError := some FileResult.changedReason }
    else
      match (← get).disk.writeText path outcome.text with
      | .error fault => return result.withAccessFault fault
      | .ok disk =>
        modify fun scene => { scene with disk := disk }
        let after ← analyzer.analyzeText outcome.text result.path
        return { result with
          outcome := some { outcome with written := true }
          findings := after.findings
          syntaxFault := after.syntaxFault }

/--
Fixes a file with an analysed text. Fixes after which the text has no syntax tree are given up as a
whole, and a dry run writes nothing.
-/
def fixFile (analyzer : Analyzer) (text : String) (result : FileResult) : Run FileResult := do
  let fixable := result.findings.filter fun finding => finding.fix.isSome
  if fixable.isEmpty then return result
  else
    match Outcome.ofFindings text fixable (some result.path) true with
    | .error (.fixConflict fault _) =>
      return { result with fixError := some (Fault.conflictReason fault) }
    | .error fault => throw fault
    | .ok outcome =>
      let result := { result with outcome := some outcome }
      if outcome.isChanged && !analyzer.settings.dryRun.isOn then
        analyzer.writeBack text result outcome
      else return result

/--
Analyses a file, and fixes it in fix mode.
-/
def analyzeFile (analyzer : Analyzer) (path : String) : Run FileResult := do
  let limit ← analyzer.settings.maxFileBytes
  match (← get).disk.readText (Path.ofString path) (some limit) with
  | .error fault =>
    if fault.obstacle = .nullCharacter then throw (.ofAccess fault)
    else return { path := path, findings := [fault.finding path], accessFault := some fault }
  | .ok text =>
    modify fun scene => scene.meanwhile path
    let result ← analyzer.analyzeText text path
    if analyzer.settings.mode = .fix ∧ result.syntaxFault.isNone then
      analyzer.fixFile text result
    else return result

end Analyzer

/--
The results for the files of a run in their order, and whether the run was cancelled.
-/
structure Batch where
  files : List FileResult := []
  isCancelled : Bool := false
  deriving Inhabited

namespace Batch

/--
What is reported about a run.
-/
def report (batch : Batch) : Report :=
  batch.files.map FileResult.report

/--
The paths of the files that were not analysed to the end.
-/
def incomplete (batch : Batch) : List String :=
  (batch.files.filter fun file => !file.isComplete).map FileResult.path

/--
The paths of the files that fixes change.
-/
def fixed (batch : Batch) : List String :=
  (batch.report.filter FileReport.isFixed).map FileReport.path

end Batch

namespace Analyzer

/--
Whether a run that is cancelled after some number of files is cancelled when so many are finished.
-/
def isCancelledAt (cancelAfter : Option Nat) (finished : Nat) : Bool :=
  cancelAfter.any fun bound => decide (bound ≤ finished)

/--
Analyses files one after the other. A run that is cancelled begins no further file.
-/
def analyzeFrom (analyzer : Analyzer) (cancelAfter : Option Nat) (finished : Nat) :
    List String → Run Batch
  | [] => return ⟨[], isCancelledAt cancelAfter finished⟩
  | path :: rest => do
    if isCancelledAt cancelAfter finished then
      let batch ← analyzer.analyzeFrom cancelAfter finished rest
      return { batch with files := { path := path, isCancelled := true } :: batch.files }
    else
      let result ← analyzer.analyzeFile path
      let batch ← analyzer.analyzeFrom cancelAfter (finished + 1) rest
      return { batch with files := result :: batch.files }

/--
Analyses files, unless the run is cancelled after some number of them.
-/
def analyzeFiles (analyzer : Analyzer) (cancelAfter : Option Nat) (paths : List String) :
    Run Batch :=
  analyzer.analyzeFrom cancelAfter 0 paths

end Analyzer

namespace Settings

/--
Which files below a directory count.
-/
def fileFilter (settings : Settings) : FileFilter :=
  ⟨settings.extensions, settings.excludePatterns, settings.allowHiddenFiles.isOn⟩

/--
Analyses the files that some paths stand for. Bad rules are found before any file is looked for, and
the number of workers must be one that can be written.
-/
def run (settings : Settings) (paths : List String) : Run Batch := do
  let analyzer ← Analyzer.ofSettings settings
  let files ← (← get).disk.collect settings.fileFilter (paths.map Path.ofString)
  let _ ← settings.maxWorkers.shown
  analyzer.analyzeFiles none (files.map Path.text)

end Settings

end ThreadLint
