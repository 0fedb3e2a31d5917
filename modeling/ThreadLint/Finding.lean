import ThreadLint.Fault
import ThreadLint.Span
import ThreadLint.Text.Segment

/-!
This module contains edits of a text, the fixes that are made of them, how edits change a text, and the
findings of a run with the order in which they are reported. The edits of one fix never conflict with
each other. The last edit of a text is made first, so that the offsets of the others stay right.
-/

namespace ThreadLint

/-! ### Edits and fixes -/

/--
The replacement of what stands between two offsets. Between equal offsets it is an insertion.
-/
structure Edit where
  start : Int
  stop : Int
  replacement : String
  deriving DecidableEq, Repr, Inhabited

namespace Edit

/--
Whether two edits have no well-defined result together: they touch the same characters, or they
begin at the same offset and one of them is an insertion.
-/
def conflictsWith (edit other : Edit) : Bool :=
  (decide (edit.start < other.stop) && decide (other.start < edit.stop)) ||
    (edit.start == other.start && (edit.start == edit.stop || other.start == other.stop))

end Edit

/--
A fix for one finding: edits that do not conflict with each other, and what they do.
-/
structure Fix where
  description : String
  edits : List Edit
  edits_ne_nil : edits ≠ []
  compatible : edits.Pairwise fun edit other => edit.conflictsWith other = false
  deriving DecidableEq, Repr

namespace Fix

/--
The fix that makes some edits, unless there are none or two of them conflict.
-/
def ofEdits (description : String) (edits : List Edit) : Except Fault Fix :=
  if hne : edits ≠ [] then
    if hpair : edits.Pairwise fun edit other => edit.conflictsWith other = false then
      .ok ⟨description, edits, hne, hpair⟩
    else .error (.promise (.overlappingEdits description) none)
  else .error (.promise .noEdits none)

/--
The offset at which the first edit begins.
-/
def start (fix : Fix) : Int :=
  match fix.edits with
  | [] => 0
  | edit :: rest => rest.foldl (fun least other => min least other.start) edit.start

end Fix

end ThreadLint

namespace ThreadLint.Edit

/-! ### Edited texts -/

/--
A text after an edit.
-/
def apply (edit : Edit) (text : List Char) : List Char :=
  Text.before text edit.start ++ edit.replacement.toList ++ Text.behind text edit.stop

/--
Whether an edit is made before another: the one that begins later is, and of two that begin together
the one that ends later.
-/
def isMadeBefore (edit other : Edit) : Bool :=
  if edit.start ≠ other.start then decide (other.start < edit.start)
  else decide (other.stop ≤ edit.stop)

/--
A text after some edits.
-/
def splice (text : List Char) (edits : List Edit) : List Char :=
  (edits.mergeSort isMadeBefore).foldl (fun text edit => edit.apply text) text

end ThreadLint.Edit

namespace ThreadLint

/-! ### Findings -/

/--
One finding. Findings about the syntax of a file or about access to it belong to no category.
-/
structure Finding where
  path : String
  rule : String
  category : Option Category
  severity : Severity
  span : Span
  message : String
  fix : Option Fix := none
  deriving DecidableEq, Repr

namespace Finding

/--
The name under which a file without a syntax tree is reported.
-/
def parseErrorRule : String :=
  "parse-error"

/--
The name under which delimiters that are never closed are reported.
-/
def recoveredRule : String :=
  "recoverable-syntax-error"

/--
The name under which a file that cannot be read or written is reported.
-/
def accessRule : String :=
  "file-access-error"

/--
The order of findings: by where they start, the worse ones first, then by rule and by where they
end.
-/
def precedes (finding other : Finding) : Bool :=
  if finding.span.start ≠ other.span.start then decide (finding.span.start < other.span.start)
  else if finding.severity.rank ≠ other.severity.rank then
    decide (other.severity.rank < finding.severity.rank)
  else if finding.rule ≠ other.rule then decide (finding.rule < other.rule)
  else decide (finding.span.stop ≤ other.span.stop)

/--
Findings in their order. Those that are equal in it keep the order in which they come.
-/
def sorted (findings : List Finding) : List Finding :=
  findings.mergeSort precedes

/--
The number of findings of a severity.
-/
def countOf (findings : List Finding) (severity : Severity) : Nat :=
  findings.countP (·.severity == severity)

end Finding

end ThreadLint
