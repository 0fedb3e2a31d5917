import ThreadLint.Report

/-!
This module contains the report for a build server: one command for each finding, which puts a
remark beside the line of the file.
-/

namespace ThreadLint.Report

/--
The name of the command for a severity.
-/
def annotationLevel : Severity → String
  | .error => "error"
  | .warning => "warning"
  | .info => "notice"

/--
A character in the message of a command. What would end the line is written by its code.
-/
def escapedInMessage (c : Char) : String :=
  match c with
  | '%' => "%25"
  | '\r' => "%0D"
  | '\n' => "%0A"
  | c => c.toString

/--
A character in a property of a command. What would end the property is written by its code too.
-/
def escapedInProperty (c : Char) : String :=
  match c with
  | ':' => "%3A"
  | ',' => "%2C"
  | c => escapedInMessage c

/--
The message of a command.
-/
def messageText (message : String) : String :=
  String.join (message.toList.map escapedInMessage)

/--
The value of a property of a command.
-/
def propertyText (value : String) : String :=
  String.join (value.toList.map escapedInProperty)

/--
The command for a finding.
-/
def findingCommand (finding : Finding) : String :=
  let span := finding.span
  let properties :=
    ["file=" ++ propertyText finding.path,
     "line=" ++ toString span.startAt.line,
     "col=" ++ toString span.startAt.column,
     "endLine=" ++ toString span.stopAt.line,
     "endColumn=" ++ toString span.stopAt.column,
     "title=" ++ propertyText finding.rule]
  "::" ++ annotationLevel finding.severity ++ " " ++ ",".intercalate properties ++ "::" ++
    messageText finding.message

/--
The command for a file that was never begun.
-/
def cancelledCommand (path : String) : String :=
  "::warning file=" ++ propertyText path ++ "::Not analysed: run cancelled"

/--
The commands for all findings, and behind them those for files that were never begun.
-/
def annotations (report : Report) : String :=
  let cancelled := report.filter FileReport.isCancelled
  "\n".intercalate ((findings report).map findingCommand ++
    cancelled.map fun file => cancelledCommand file.path)

end ThreadLint.Report
