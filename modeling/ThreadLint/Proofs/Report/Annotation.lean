import ThreadLint.CommandLine
import ThreadLint.Proofs.Text.Pieces

/-!
This module contains how the report for a build server is read back. It has one line for each finding
and one for each file that was never begun, whatever characters stand in paths, rules and messages,
and each line says exactly what it was written for.
-/

namespace ThreadLint.Report

/--
What a command says about a finding.
-/
structure Remark where
  severity : Severity
  path : String
  startAt : Position
  stopAt : Position
  rule : String
  message : String
  deriving DecidableEq, Repr

/--
What is said about a finding.
-/
def Remark.ofFinding (finding : Finding) : Remark where
  severity := finding.severity
  path := finding.path
  startAt := finding.span.startAt
  stopAt := finding.span.stopAt
  rule := finding.rule
  message := finding.message

/--
What a line of the report says: something about a finding, or that a file was never begun.
-/
inductive Notice where
  | remark (remark : Remark)
  | cancelled (path : String)
  deriving DecidableEq, Repr

/--
The characters that a written text stands for. A percent sign must begin one of the known codes.
-/
def plainOf : List Char → Option (List Char)
  | [] => some []
  | '%' :: '2' :: '5' :: rest => (plainOf rest).map ('%' :: ·)
  | '%' :: '0' :: 'D' :: rest => (plainOf rest).map ('\r' :: ·)
  | '%' :: '0' :: 'A' :: rest => (plainOf rest).map ('\n' :: ·)
  | '%' :: '3' :: 'A' :: rest => (plainOf rest).map (':' :: ·)
  | '%' :: '2' :: 'C' :: rest => (plainOf rest).map (',' :: ·)
  | c :: rest => if c = '%' then none else (plainOf rest).map (c :: ·)

/--
The text that a written text stands for.
-/
def plainText? (written : String) : Option String :=
  (plainOf written.toList).map String.ofList

/--
The severity for which a command stands.
-/
def severityOf? (level : String) : Option Severity :=
  Severity.all.find? fun severity => annotationLevel severity == level

/--
The value of a property with a name.
-/
def property? (name piece : String) : Option String :=
  Text.behindStart? (name ++ "=") piece

/--
What a command says, given its name, its properties and its message.
-/
def noticeOf? (level : String) (properties : List String) (message : String) : Option Notice := do
  match properties with
  | [file, line, column, endLine, endColumn, title] =>
    return .remark {
      severity := ← severityOf? level
      path := ← plainText? (← property? "file" file)
      startAt := ⟨← Text.number? (← property? "line" line), ← Text.number? (← property? "col" column)⟩
      stopAt := ⟨← Text.number? (← property? "endLine" endLine),
        ← Text.number? (← property? "endColumn" endColumn)⟩
      rule := ← plainText? (← property? "title" title)
      message := message
    }
  | [file] =>
    if level = annotationLevel .warning ∧ message = "Not analysed: run cancelled" then
      return .cancelled (← plainText? (← property? "file" file))
    else none
  | _ => none

/--
What a line of the report says: a command begins with two colons, behind its name and a space come
the properties with commas between them, and two more colons stand in front of the message.
-/
def notice? (line : String) : Option Notice := do
  let command ← Text.behindStart? "::" line
  let rest := Text.afterFirst ' ' command
  let message ← Text.behindStart? ":" (Text.afterFirst ':' rest)
  noticeOf? (Text.beforeFirst ' ' command) (Text.pieces ',' (Text.beforeFirst ':' rest))
    (← plainText? message)

theorem plainOf_cons_of_ne {c : Char} (h : c ≠ '%') (rest : List Char) :
    plainOf (c :: rest) = (plainOf rest).map (c :: ·) := by
  rw [plainOf, if_neg h] <;> simp [h]

theorem plainOf_escapedInMessage (c : Char) (rest : List Char) :
    plainOf ((escapedInMessage c).toList ++ rest) = (plainOf rest).map (c :: ·) := by
  unfold escapedInMessage
  split
  . rfl
  . rfl
  . rfl
  . next h _ _ =>
    rw [Char.toString, String.toList_singleton]
    exact plainOf_cons_of_ne h rest

theorem plainOf_escapedInProperty (c : Char) (rest : List Char) :
    plainOf ((escapedInProperty c).toList ++ rest) = (plainOf rest).map (c :: ·) := by
  unfold escapedInProperty
  split
  . rfl
  . rfl
  . exact plainOf_escapedInMessage c rest

/-- Characters that are read back one by one are read back together. -/
theorem plainText?_join {escaped : Char → String}
    (h : ∀ c rest, plainOf ((escaped c).toList ++ rest) = (plainOf rest).map (c :: ·))
    (text : String) : plainText? (String.join (text.toList.map escaped)) = some text := by
  have hplain (cs : List Char) : plainOf ((cs.map escaped).flatMap String.toList) = some cs := by
    induction cs with
    | nil => rfl
    | cons c cs ih => rw [List.map_cons, List.flatMap_cons, h, ih, Option.map_some]
  rw [plainText?, String.toList_join, hplain, Option.map_some, String.ofList_toList]

@[simp]
theorem plainText?_messageText (message : String) : plainText? (messageText message) = some message :=
  plainText?_join plainOf_escapedInMessage message

example : messageText "50%\r\n" = "50%25%0D%0A" := by
  decide +kernel

@[simp]
theorem plainText?_propertyText (value : String) : plainText? (propertyText value) = some value :=
  plainText?_join plainOf_escapedInProperty value

/--
The characters that would end a line.
-/
def lineEnds : List Char :=
  ['\n', '\r']

/--
The characters that would end a property or a line.
-/
def propertyEnds : List Char :=
  [',', ':', '\n', '\r']

theorem avoids_escapedInMessage (c : Char) : Text.avoids lineEnds (escapedInMessage c) = true := by
  unfold escapedInMessage
  split
  . decide
  . decide
  . decide
  . next hreturn hfeed => simpa [Text.avoids, Char.toString, lineEnds] using ⟨hfeed, hreturn⟩

theorem avoids_escapedInProperty (c : Char) :
    Text.avoids propertyEnds (escapedInProperty c) = true := by
  unfold escapedInProperty
  split
  . decide
  . decide
  . next hcolon hcomma =>
    unfold escapedInMessage
    split
    . decide
    . decide
    . decide
    . next hreturn hfeed =>
      simpa [Text.avoids, Char.toString, propertyEnds] using ⟨hcomma, hcolon, hfeed, hreturn⟩

theorem avoids_messageText (message : String) :
    Text.avoids lineEnds (messageText message) = true := by
  rw [messageText, Text.avoids_join, List.all_map, List.all_eq_true]
  intro c _
  exact avoids_escapedInMessage c

theorem avoids_propertyText (value : String) :
    Text.avoids propertyEnds (propertyText value) = true := by
  rw [propertyText, Text.avoids_join, List.all_map, List.all_eq_true]
  intro c _
  exact avoids_escapedInProperty c

theorem avoids_annotationLevel (severity : Severity) :
    Text.avoids (' ' :: lineEnds) (annotationLevel severity) = true := by
  cases severity with
  | error => decide
  | warning => decide
  | info => decide

/-- A command is taken apart into its name, its properties and its message. -/
theorem notice?_command {level message written : String} {properties : List String}
    (hlevel : Text.avoids [' '] level = true) (hne : properties ≠ [])
    (hproperties : properties.all (Text.avoids propertyEnds) = true)
    (hwritten : plainText? written = some message) :
    notice? ("::" ++ level ++ " " ++ ",".intercalate properties ++ "::" ++ written) =
      noticeOf? level properties message := by
  have hall {few : List Char} (hfew : few ⊆ propertyEnds) :
      properties.all (Text.avoids few) = true := by
    rw [List.all_eq_true] at hproperties ⊢
    intro property hmem
    exact Text.avoids_of_subset hfew (hproperties property hmem)
  have hcolon : Text.avoids [':'] (",".intercalate properties) = true :=
    Text.avoids_intercalate (by decide) (hall (by decide))
  have hpieces : Text.pieces ',' (",".intercalate properties) = properties :=
    Text.pieces_intercalate hne (hall (by decide))
  have hcolons : "::" = String.singleton ':' ++ ":" := by decide
  have hline : "::" ++ level ++ " " ++ ",".intercalate properties ++ "::" ++ written =
      "::" ++ (level ++ (String.singleton ' ' ++ (",".intercalate properties ++
        (String.singleton ':' ++ (":" ++ written))))) := by
    -- Only the colons in front of the message are taken apart: a property ends at the first of them.
    conv => lhs; arg 1; arg 2; rw [hcolons]
    simp only [String.append_assoc]
    rfl
  rw [notice?, hline, Text.behindStart?_append]
  simp only [Option.bind_eq_bind, Option.bind_some]
  rw [Text.beforeFirst_append hlevel, Text.afterFirst_append hlevel,
    Text.beforeFirst_append hcolon, Text.afterFirst_append hcolon,
    Text.behindStart?_append, Option.bind_some, hwritten, Option.bind_some, hpieces]

/--
The properties of the command for a finding.
-/
def propertiesOf (finding : Finding) : List String :=
  ["file=" ++ propertyText finding.path,
   "line=" ++ toString finding.span.startAt.line,
   "col=" ++ toString finding.span.startAt.column,
   "endLine=" ++ toString finding.span.stopAt.line,
   "endColumn=" ++ toString finding.span.stopAt.column,
   "title=" ++ propertyText finding.rule]

theorem findingCommand_eq (finding : Finding) :
    findingCommand finding = "::" ++ annotationLevel finding.severity ++ " " ++
      ",".intercalate (propertiesOf finding) ++ "::" ++ messageText finding.message :=
  rfl

theorem avoids_propertiesOf (finding : Finding) :
    (propertiesOf finding).all (Text.avoids propertyEnds) = true := by
  have hnumber (n : Nat) : Text.avoids propertyEnds (toString n) = true :=
    Text.avoids_toString (by decide) n
  simp only [propertiesOf, List.all_cons, List.all_nil, Text.avoids_append, avoids_propertyText,
    hnumber]
  decide

theorem severityOf?_annotationLevel (severity : Severity) :
    severityOf? (annotationLevel severity) = some severity := by
  cases severity with
  | error => decide
  | warning => decide
  | info => decide

theorem notice?_findingCommand (finding : Finding) :
    notice? (findingCommand finding) = some (.remark (.ofFinding finding)) := by
  have hlevel : Text.avoids [' '] (annotationLevel finding.severity) = true :=
    Text.avoids_of_subset (by decide) (avoids_annotationLevel finding.severity)
  have hne : propertiesOf finding ≠ [] := List.cons_ne_nil _ _
  rw [findingCommand_eq, notice?_command hlevel hne (avoids_propertiesOf finding)
    (plainText?_messageText finding.message)]
  simp [noticeOf?, propertiesOf, property?, severityOf?_annotationLevel, Remark.ofFinding]

theorem cancelledCommand_eq (path : String) :
    cancelledCommand path = "::" ++ annotationLevel .warning ++ " " ++
      ",".intercalate ["file=" ++ propertyText path] ++ "::" ++ "Not analysed: run cancelled" := by
  have hhead : "::warning file=" = "::" ++ annotationLevel .warning ++ " " ++ "file=" := by decide
  have htail : "::Not analysed: run cancelled" = "::" ++ "Not analysed: run cancelled" := by decide
  show "::warning file=" ++ propertyText path ++ "::Not analysed: run cancelled" = _
  rw [String.intercalate_singleton, hhead, htail]
  simp only [String.append_assoc]

theorem notice?_cancelledCommand (path : String) :
    notice? (cancelledCommand path) = some (.cancelled path) := by
  have hproperties : ["file=" ++ propertyText path].all (Text.avoids propertyEnds) = true := by
    simp only [List.all_cons, List.all_nil, Text.avoids_append, avoids_propertyText]
    decide
  have hmessage : plainText? "Not analysed: run cancelled" = some "Not analysed: run cancelled" := by
    decide
  rw [cancelledCommand_eq,
    notice?_command (by decide) (List.cons_ne_nil _ _) hproperties hmessage]
  simp [noticeOf?, property?]

theorem findingCommand_staysOnLine (finding : Finding) :
    Text.avoids lineEnds (findingCommand finding) = true := by
  have hproperties : Text.avoids lineEnds (",".intercalate (propertiesOf finding)) = true := by
    refine Text.avoids_intercalate (by decide) ?_
    rw [List.all_eq_true]
    intro property hmem
    exact Text.avoids_of_subset (by decide)
      (List.all_eq_true.mp (avoids_propertiesOf finding) property hmem)
  have hlevel : Text.avoids lineEnds (annotationLevel finding.severity) = true :=
    Text.avoids_of_subset (by decide) (avoids_annotationLevel finding.severity)
  rw [findingCommand_eq]
  simp only [Text.avoids_append, hproperties, hlevel, avoids_messageText]
  decide

theorem cancelledCommand_staysOnLine (path : String) :
    Text.avoids lineEnds (cancelledCommand path) = true := by
  have hpath : Text.avoids lineEnds (propertyText path) = true :=
    Text.avoids_of_subset (by decide) (avoids_propertyText path)
  rw [cancelledCommand_eq, String.intercalate_singleton]
  simp only [Text.avoids_append, hpath]
  decide

/-- A text of lines that are not empty has these lines. -/
theorem linesOf_intercalate {lines : List String} (h : lines.all (Text.avoids ['\n']) = true)
    (hne : ∀ line ∈ lines, line ≠ "") :
    CommandLine.linesOf ("\n".intercalate lines) = lines := by
  cases lines with
  | nil => rfl
  | cons line lines =>
    have hempty : ("\n".intercalate (line :: lines)).isEmpty = false := by
      have hline : line ≠ "" := hne line List.mem_cons_self
      rw [String.isEmpty_eq_false_iff, ← @String.append_empty line,
        String.intercalate_cons_append]
      simp [String.append_eq_empty_iff, hline]
    rw [CommandLine.linesOf, hempty]
    exact Text.pieces_intercalate (List.cons_ne_nil _ _) h

/--
The lines of the report, as they are put together.
-/
def annotationLines (report : Report) : List String :=
  report.findings.map findingCommand ++
    (report.filter FileReport.isCancelled).map fun file => cancelledCommand file.path

theorem annotationLines_stayOnLines (report : Report) {unwanted : List Char}
    (h : unwanted ⊆ lineEnds) : report.annotationLines.all (Text.avoids unwanted) = true := by
  rw [annotationLines, List.all_append, List.all_map, List.all_map, Bool.and_eq_true,
    List.all_eq_true, List.all_eq_true]
  constructor
  . intro finding _
    exact Text.avoids_of_subset h (findingCommand_staysOnLine finding)
  . intro file _
    exact Text.avoids_of_subset h (cancelledCommand_staysOnLine file.path)

theorem ne_empty_of_notice? {line : String} {notice : Notice} (h : notice? line = some notice) :
    line ≠ "" := by
  rintro rfl
  cases h

theorem linesOf_annotations (report : Report) :
    CommandLine.linesOf report.annotations = report.annotationLines := by
  have hne : ∀ line ∈ report.annotationLines, line ≠ "" := by
    intro line hline
    rw [annotationLines, List.mem_append, List.mem_map, List.mem_map] at hline
    cases hline with
    | inl hline =>
      obtain ⟨finding, _, rfl⟩ := hline
      exact ne_empty_of_notice? (notice?_findingCommand finding)
    | inr hline =>
      obtain ⟨file, _, rfl⟩ := hline
      exact ne_empty_of_notice? (notice?_cancelledCommand file.path)
  exact linesOf_intercalate (annotationLines_stayOnLines report (by decide)) hne

/-- Findings have one line exactly if the same is said about them. -/
theorem findingCommand_eq_iff (finding other : Finding) :
    findingCommand finding = findingCommand other ↔ Remark.ofFinding finding = .ofFinding other := by
  constructor
  . intro h
    have hnotice := notice?_findingCommand finding
    rw [h, notice?_findingCommand other] at hnotice
    injection hnotice with hnotice
    injection hnotice with hnotice
    exact hnotice.symm
  . intro h
    obtain ⟨hseverity, hpath, hstart, hstop, hrule, hmessage⟩ := Remark.mk.injEq .. ▸ h
    rw [findingCommand_eq, findingCommand_eq, propertiesOf, hseverity, hpath, hstart, hstop, hrule, hmessage]
    rfl

/--
The report for a build server has one line for each finding in the order of the findings, and behind
them one for each file that was never begun. No text in it adds or breaks a line, and from each line
what it says is read back: findings differ in their lines as soon as anything differs that is said
about them.
-/
theorem annotations_readBack (report : Report) :
    let cancelled := report.filter FileReport.isCancelled
    let lines := CommandLine.linesOf report.annotations
    lines = report.findings.map findingCommand ++ cancelled.map (fun file => cancelledCommand file.path) ∧
      '\r' ∉ report.annotations.toList ∧
      lines.map notice? = (report.findings.map fun finding => some (.remark (.ofFinding finding))) ++
        cancelled.map (fun file => some (.cancelled file.path)) ∧
      ∀ finding other : Finding, findingCommand finding = findingCommand other ↔
        Remark.ofFinding finding = .ofFinding other := by
  intro cancelled lines
  have hlines : lines = report.annotationLines := linesOf_annotations report
  have hreturns : Text.avoids ['\r'] report.annotations = true :=
    Text.avoids_intercalate (by decide) (annotationLines_stayOnLines report (by decide))
  refine ⟨hlines, Text.avoids_iff.mp hreturns '\r' List.mem_cons_self, ?_, findingCommand_eq_iff⟩
  rw [hlines, annotationLines, List.map_append, List.map_map, List.map_map]
  congr 1
  . exact List.map_congr_left fun finding _ => notice?_findingCommand finding
  . exact List.map_congr_left fun file _ => notice?_cancelledCommand file.path

end ThreadLint.Report
