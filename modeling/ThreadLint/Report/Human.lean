import ThreadLint.Report
import ThreadLint.Report.Panel

/-!
This module contains the report for people: a block of findings for each file, the differences that
fixes make, and a summary. The lines of a block are written in markup.
-/

namespace ThreadLint

namespace FileReport

/--
The findings that are shown as such. A file that was not analysed to the end has none about that.
-/
def shownFindings (file : FileReport) : List Finding :=
  if file.isComplete then file.findings
  else file.findings.filter fun finding =>
    finding.rule != Finding.parseErrorRule && finding.rule != Finding.accessRule

end FileReport

namespace Report

/--
The width of a report if nothing else is asked for.
-/
def defaultWidth : Nat :=
  100

/--
A number of things, with the word for them in the singular or the plural.
-/
def counted (count : Nat) (word : String) : String :=
  let text := toString count ++ " " ++ word
  if count = 1 ∨ word = "info" then text
  else if Text.endsWith word "x" then text ++ "es"
  else text ++ "s"

/--
The heading of the findings of a severity.
-/
def heading : Severity → String
  | .error => "Errors"
  | .warning => "Warnings"
  | .info => "Info"

/--
The style of what is said of a severity.
-/
def style : Severity → String
  | .error => "red bold"
  | .warning => "yellow"
  | .info => "cyan"

/--
A text with blanks in front that fill up nine characters.
-/
def inNine (text : String) : String :=
  String.ofList (List.replicate (9 - text.length) ' ') ++ text

/--
The line of a finding.
-/
def findingLine (finding : Finding) : String :=
  "    " ++ inNine finding.span.startAt.text ++ "  " ++
    Markup.styled "dim" (Markup.escape finding.rule) ++ "  " ++ Markup.escape finding.message ++
    (if finding.fix.isSome then " " ++ Markup.styled "green" "(fixable)" else "")

/--
The lines of the findings of a severity below their heading.
-/
def severityLines (findings : List Finding) (severity : Severity) : List String :=
  match findings.filter (·.severity == severity) with
  | [] => []
  | group =>
    let count := heading severity ++ " (" ++ toString group.length ++ ")"
    ("  " ++ Markup.styled (style severity) count) :: group.map findingLine

/--
The line of a fix that is not made.
-/
def skippedLine (skipped : SkippedFix) : String :=
  "  " ++ Markup.styled "yellow" "skipped fix" ++ " " ++ Markup.escape skipped.finding.rule ++
    " at line " ++ toString skipped.finding.span.startAt.line ++ ": " ++
    Markup.escape skipped.reason

/--
The line about a file that was not analysed to the end.
-/
def failureLines (file : FileReport) : List String :=
  if file.isComplete then []
  else
    let reason := match file.failure? with
      | some reason => if reason.isEmpty then "unknown error" else reason
      | none => "unknown error"
    ["  " ++ Markup.styled "red" "analysis could not complete:" ++ " " ++ Markup.escape reason]

/--
The line about fixes that were given up.
-/
def fixErrorLines (file : FileReport) : List String :=
  match file.fixError with
  | some reason =>
    ["  " ++ Markup.styled "yellow" "fixes rolled back:" ++ " " ++ Markup.escape reason]
  | none => []

/--
The lines about a file. There are none if there is nothing to say about it.
-/
def fileLines (file : FileReport) : List String :=
  let findings := file.shownFindings
  if file.isComplete && findings.isEmpty && file.fixError.isNone then []
  else
    let skipped := match file.outcome with
      | some outcome => outcome.skipped.map skippedLine
      | none => []
    Markup.styled "bold" (Markup.escape file.path) :: failureLines file ++ fixErrorLines file ++
      Severity.all.flatMap (severityLines findings) ++ skipped

/--
The panel with the difference that the fixes of a file make.
-/
def diffPanel (room : Nat) (path : String) (outcome : Outcome) : List String :=
  let verb := if outcome.written then "applied" else "would apply"
  let title := Markup.escape path ++ ": " ++ verb ++ " " ++ counted outcome.applied "fix"
  Panel.cut room title (Text.trimEnd '\n' outcome.diff)

/--
The line of the summary about fixes, if there are any.
-/
def fixLines (report : Report) : List String :=
  match (report.filter FileReport.isFixed).filterMap FileReport.outcome with
  | [] => []
  | outcomes =>
    let verb := if outcomes.all Outcome.written then "applied" else "proposed"
    let count := outcomes.foldl (fun count outcome => count + outcome.applied) 0
    [counted count "fix" ++ " " ++ verb ++ " in " ++ counted outcomes.length "file"]

/--
The line of the summary that counts findings.
-/
def countLine (report : Report) (findings : List Finding) : String :=
  let counts := Severity.all.map fun severity =>
    counted (Finding.countOf findings severity) severity.name
  ", ".intercalate counts ++ " in " ++ counted report.length "file"

/--
The panel at the end of a report.
-/
def summary (room : Nat) (report : Report) : List String :=
  let findings := report.flatMap FileReport.shownFindings
  let incomplete := report.filter fun file => !file.isComplete
  let cancelled := (incomplete.filter FileReport.isCancelled).length
  let failed := incomplete.length - cancelled
  if findings.isEmpty && incomplete.isEmpty then
    Panel.wrapped room "hostguard"
      ("\n".intercalate
        (("No issues found in " ++ counted report.length "file") :: fixLines report))
  else
    let failedLines :=
      if failed = 0 then [] else ["analysis could not complete for " ++ counted failed "file"]
    let cancelledLines :=
      if cancelled = 0 then []
      else ["run cancelled; " ++ counted cancelled "file" ++ " not analysed"]
    Panel.wrapped room "Summary"
      ("\n".intercalate
        (countLine report findings :: failedLines ++ cancelledLines ++ fixLines report))

/--
The lines on a terminal that show a line of markup.
-/
def shownLines (room : Nat) (line : String) : List String :=
  (Text.wrap room (Markup.plain line)).map (Text.trimEnd ' ')

/--
The lines of a report on a terminal of some width. On one without any width nothing is shown.
-/
def humanLines (room : Nat) (report : Report) : List String :=
  if room = 0 then [] else
  let blocks := report.flatMap fun file =>
    match fileLines file with
    | [] => []
    | lines => lines.flatMap (shownLines room) ++ [""]
  let diffs := report.flatMap fun file =>
    match file.outcome with
    | some outcome => if outcome.isChanged then diffPanel room file.path outcome else []
    | none => []
  blocks ++ diffs ++ summary room report

/--
A report for people on a terminal of some width.
-/
def human (room : Nat) (report : Report) : String :=
  "\n".intercalate (humanLines room report)

end Report

end ThreadLint
