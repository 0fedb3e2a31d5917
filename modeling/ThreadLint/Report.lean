import ThreadLint.Outcome

/-!
This module contains what a run reports about its files, and the status with which the program ends.
-/

namespace ThreadLint

/--
What is reported about one file. The reasons are those for which it could not be analysed.
-/
structure FileReport where
  path : String
  findings : List Finding := []
  accessReason : Option String := none
  syntaxReason : Option String := none
  isCancelled : Bool := false
  outcome : Option Outcome := none
  fixError : Option String := none
  deriving DecidableEq, Repr

namespace FileReport

/--
Whether the file was analysed to the end.
-/
def isComplete (file : FileReport) : Bool :=
  file.accessReason.isNone && file.syntaxReason.isNone && !file.isCancelled

/--
The reason for a file that was never begun.
-/
def cancelledReason : String :=
  "cancelled before analysis started"

/--
The reason for which a file was not analysed to the end.
-/
def failure? (file : FileReport) : Option String :=
  file.accessReason.or <| file.syntaxReason.or <|
    if file.isCancelled then some cancelledReason else none

/--
Whether fixes change the file.
-/
def isFixed (file : FileReport) : Bool :=
  file.outcome.any Outcome.isChanged

end FileReport

/--
What is reported about the files of a run, in the order of the files.
-/
abbrev Report := List FileReport

/--
How the program ends: without findings that matter or with some, after a failure of its own or of a
file, with a command that makes no sense, with settings that make none, by the user's wish, or by a
fault that it does not know how to report.
-/
inductive ExitStatus where
  | clean
  | findings
  | failure
  | misuse
  | badSettings
  | interrupted
  | crash
  deriving DecidableEq, Repr, Inhabited

/--
The number by which the system knows a status.
-/
def ExitStatus.code : ExitStatus → Nat
  | clean => 0
  | findings => 1
  | failure => 2
  | misuse => 2
  | badSettings => 3
  | interrupted => 130
  | crash => 1

namespace Report

/--
The findings of all files.
-/
def findings (report : Report) : List Finding :=
  report.flatMap FileReport.findings

/--
The report on some findings, which are put together by the files in which they are. Files come in
the order of their first findings.
-/
def ofFindings (findings : List Finding) : Report :=
  ((findings.map Finding.path).eraseDups).map fun path =>
    { path := path, findings := findings.filter (·.path == path) }

/--
The status after a run: a failure if a file could not be read or written, and else whether a finding
is as bad as a threshold.
-/
def status (report : Report) (failOn : Severity) : ExitStatus :=
  if report.any (·.accessReason.isSome) then .failure
  else if (findings report).any (·.severity.atLeast failOn) then .findings
  else .clean

end Report

end ThreadLint
