import ThreadLint.Json
import ThreadLint.OutputFormat
import ThreadLint.Report
import ThreadLint.Report.Annotation
import ThreadLint.Report.Human

/-!
This module contains the report for other programs, which has one JSON record for each finding, and
how a report is written in each of its forms.
-/

namespace ThreadLint.Report

/-! ### Records -/

/--
The record of a finding.
-/
def record (finding : Finding) : Json :=
  .record
    [("file", .text finding.path),
     ("ruleId", .text finding.rule),
     ("category", match finding.category with
       | some category => .text category.name
       | none => .null),
     ("severity", .text finding.severity.name),
     ("startLine", .int finding.span.startAt.line),
     ("startCol", .int finding.span.startAt.column),
     ("endLine", .int finding.span.stopAt.line),
     ("endCol", .int finding.span.stopAt.column),
     ("message", .text finding.message),
     ("fixAvailable", .bool finding.fix.isSome)]

/--
The records of all findings, as a JSON list.
-/
def records (report : Report) : String :=
  (Json.list ((findings report).map record)).tall

end ThreadLint.Report

namespace ThreadLint.OutputFormat

/-! ### The forms of a report -/

/--
The form that a word means. Records go by two words.
-/
def ofWord (word : String) : Except BadValue OutputFormat :=
  match word with
  | "human" => .ok human
  | "json" | "structured" => .ok json
  | "github" => .ok github
  | _ => .error (.reportMode word)

/--
A report in a form. The width counts only for people.
-/
def write (format : OutputFormat) (room : Nat) (report : Report) : String :=
  match format with
  | human => report.human room
  | json => report.records
  | github => report.annotations

end ThreadLint.OutputFormat
