import ThreadLint.Evaluation
import ThreadLint.Report
import ThreadLint.Rule.Catalogue
import ThreadLint.Settings

/-!
This module contains the analysis of one text with the rules and symbols that the settings select.
-/

namespace ThreadLint

/--
What is fixed before any file is looked at: the settings, the rules and the known symbols.
-/
structure Analyzer where
  settings : Settings
  ruleSet : RuleSet
  table : SymbolTable

/--
Everything that one file gave.
-/
structure FileResult where
  path : String
  findings : List Finding := []
  syntaxFault : Option SyntaxFault := none
  accessFault : Option AccessFault := none
  outcome : Option Outcome := none
  fixError : Option String := none
  isCancelled : Bool := false
  deriving DecidableEq, Repr

namespace FileResult

/--
What is reported about a file.
-/
def report (result : FileResult) : FileReport where
  path := result.path
  findings := result.findings
  accessReason := result.accessFault.map fun fault => fault.obstacle.message
  syntaxReason := result.syntaxFault.map SyntaxFault.summary
  isCancelled := result.isCancelled
  outcome := result.outcome
  fixError := result.fixError

/--
Whether the file was analysed to the end.
-/
def isComplete (result : FileResult) : Bool :=
  result.report.isComplete

end FileResult

/--
The finding that a text has no syntax tree.
-/
def SyntaxFault.finding (fault : SyntaxFault) (text path : String) : Except Fault Finding := do
  let source := Source.ofString text (some path)
  let offset := source.clamp fault.offset
  return {
    path := path
    rule := Finding.parseErrorRule
    category := none
    severity := .error
    span := ← source.span offset offset
    message := "Cannot parse file: " ++ fault.reason.message
  }

/--
The finding that a file cannot be read or written.
-/
def AccessFault.finding (fault : AccessFault) (path : String) : Finding where
  path := path
  rule := Finding.accessRule
  category := none
  severity := .error
  span := Span.first
  message := fault.message ++ ": " ++ fault.obstacle.message

namespace Analyzer

/--
The analyzer for some settings.
-/
def ofSettings (settings : Settings) : Except Fault Analyzer := do
  let selected :=
    RuleSet.select (some settings.categories) settings.disabledRules RuleDefinition.catalogue
  let ruleSet ← selected.mapError Fault.rules
  return ⟨settings, ruleSet, SymbolTable.builtin settings.symbolEntries⟩

/--
What a text gives under a path. A text without a syntax tree gives one finding that says so.
Findings about brackets that nothing closes stand among those of the rules.
-/
def analyzeText (analyzer : Analyzer) (text path : String) : Except Fault FileResult :=
  match parse text (some path) with
  | .error (.syntaxError fault) => do
    return {
      path := path
      findings := [← fault.finding text path]
      syntaxFault := some fault
    }
  | .error fault => .error fault
  | .ok parsed => do
    let findings ← evaluate parsed analyzer.table analyzer.ruleSet
    return { path := path, findings := Finding.sorted (parsed.recoveryFindings ++ findings) }

end Analyzer

end ThreadLint
