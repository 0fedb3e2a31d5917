import ThreadLint.Diff
import ThreadLint.Finding
import ThreadLint.Grammar

/-!
This module contains what comes of the fixes of a file: which of them are made, which are skipped
and why, and the fixed text.
-/

namespace ThreadLint

/--
A fix that is not made, as it conflicts with an edit of a fix that is.
-/
structure SkippedFix where
  finding : Finding
  reason : String
  deriving DecidableEq, Repr

/--
The fixes that are made so far: their edits, their number, and those that are skipped.
-/
structure Selection where
  accepted : List Edit
  applied : Nat
  skipped : List SkippedFix
  deriving DecidableEq, Repr

namespace Selection

/--
No fixes.
-/
def empty : Selection :=
  ⟨[], 0, []⟩

/--
The accepted edit with which an edit of a fix conflicts, for the first edit that has one.
-/
def clash? (accepted : List Edit) (fix : Fix) : Option Edit :=
  fix.edits.findSome? fun edit => accepted.find? edit.conflictsWith

/--
The reason for which a fix is skipped that conflicts with an accepted edit.
-/
def clashReason (edit : Edit) : String :=
  "overlaps an earlier fix at offset " ++ toString edit.start

/--
The selection with one more fix, which is made as a whole or skipped as a whole.
-/
def consider (selection : Selection) (finding : Finding) (fix : Fix) : Selection :=
  match clash? selection.accepted fix with
  | some edit => { selection with skipped := selection.skipped ++ [⟨finding, clashReason edit⟩] }
  | none =>
    { selection with
      accepted := selection.accepted ++ fix.edits
      applied := selection.applied + 1 }

/--
The first edit of a fix that reaches outside a text of some length.
-/
def strayEdit? (length : Nat) (fix : Fix) : Option Edit :=
  fix.edits.find? fun edit => decide (edit.start < 0) || decide ((length : Int) < edit.stop)

/--
The selection with the fix of one more finding, if the finding has one.
-/
def step (length : Nat) (path : String) (selection : Selection) (finding : Finding) :
    Except Fault Selection :=
  match finding.fix with
  | none => .ok selection
  | some fix =>
    match strayEdit? length fix with
    | some edit =>
      .error (.promise (.editOutsideText finding.rule edit.start edit.stop) (some path))
    | none => .ok (selection.consider finding fix)

/--
The selection among the fixes of some findings, which are considered in their order.
-/
def ofFindings (length : Nat) (path : String) (findings : List Finding) :
    Except Fault Selection :=
  (Finding.sorted findings).foldlM (step length path) empty

end Selection

/--
What comes of the fixes of a file.
-/
structure Outcome where
  before : String
  text : String
  applied : Nat := 0
  skipped : List SkippedFix := []
  written : Bool := false
  diff : String := ""
  deriving DecidableEq, Repr, Inhabited

namespace Outcome

/--
Whether the fixes change the text.
-/
def isChanged (outcome : Outcome) : Bool :=
  outcome.text != outcome.before

/--
Checks that a fixed text has a syntax tree.
-/
def verify (text : String) (label : String) (path : Option String) : Except Fault Unit :=
  match parse text path with
  | .ok _ => .ok ()
  | .error (.syntaxError fault) => .error (.fixConflict fault label)
  | .error fault => .error fault

/--
What comes of the fixes of some findings on a text. If it is to be verified, a fixed text without a
syntax tree is a fault.
-/
def ofFindings (text : String) (findings : List Finding) (path : Option String)
    (verified : Bool) : Except Fault Outcome := do
  let label := (Source.ofString "" path).path
  let selection ← Selection.ofFindings text.length label findings
  let fixed := String.ofList (Edit.splice text.toList selection.accepted)
  if verified && fixed != text then verify fixed label path
  return {
    before := text
    text := fixed
    applied := selection.applied
    skipped := selection.skipped
    diff := Diff.unified label text fixed Diff.defaultContext
  }

end Outcome

end ThreadLint
