import ThreadLint.Grammar
import ThreadLint.Rule.Set

/-!
This module contains the findings of rules on a file. Every rule is asked about every node of a kind
that it inspects, and what it reports has to lie inside the text.
-/

namespace ThreadLint

/--
What rules report at some places, in the order of the places and, at each of them, of the rules.
-/
def reportedAt (ruleSet : RuleSet) (file : BoundFile) (places : List Place) :
    Except Fault (List Finding) := do
  let reports ← places.mapM fun place =>
    (ruleSet.rulesFor place.node.kind).mapM fun rule => rule.check file place
  return reports.flatten.filterMap id

/--
Whether an edit lies inside a text of some length.
-/
def Edit.isWithin (edit : Edit) (length : Nat) : Bool :=
  decide (edit.stop ≤ length) && decide (edit.start ≤ edit.stop)

/--
Checks that a finding and its fix lie inside the text of its file.
-/
def Finding.checkBounds (finding : Finding) (length : Nat) (path : String) : Except Fault Unit := do
  if length < finding.span.stop then
    throw (.promise (.spanOutside finding.rule finding.span.start finding.span.stop length)
      (some path))
  match finding.fix with
  | none => return
  | some fix =>
    match fix.edits.find? fun edit => !edit.isWithin length with
    | none => return
    | some edit =>
      throw (.promise (.editOutsideSource finding.rule edit.start edit.stop length) (some path))

/--
The findings of rules on a file, in their order.
-/
def evaluate (parsed : Parsed) (table : SymbolTable) (ruleSet : RuleSet) :
    Except Fault (List Finding) := do
  let file : BoundFile := ⟨parsed.source, Binding.ofRoot parsed.root table⟩
  let findings ← reportedAt ruleSet file (Place.all parsed.root)
  findings.forM fun finding => finding.checkBounds parsed.source.length parsed.source.path
  return Finding.sorted findings

/--
The findings about brackets that nothing closes.
-/
def Parsed.recoveryFindings (parsed : Parsed) : List Finding :=
  parsed.recoveries.map fun recovery => {
    path := parsed.source.path
    rule := Finding.recoveredRule
    category := none
    severity := .warning
    span := recovery.span
    message := "Recovered from truncated input: " ++ recovery.message
  }

end ThreadLint
