import Mathlib.Order.Basic
import ThreadLint.Proofs.Disk
import ThreadLint.Run

/-!
This module contains what a run may do to a file: it leaves the file alone, or the file holds exactly
the fixed text that the result tells of.
-/

namespace ThreadLint

namespace Run

variable {α β : Type} {scene after : Scene}

theorem pure_eq_ok {a b : α} :
    (Pure.pure a : Run α).run scene = (.ok b, after) ↔ a = b ∧ scene = after := by
  show (Except.ok a, scene) = (.ok b, after) ↔ _
  simp

theorem throw_ne_ok {fault : Fault} {b : α} :
    (throw fault : Run α).run scene ≠ (.ok b, after) := by
  show (Except.error fault, scene) ≠ (.ok b, after)
  simp

theorem get_eq_ok {b : Scene} :
    (get : Run Scene).run scene = (.ok b, after) ↔ scene = b ∧ scene = after := by
  show (Except.ok scene, scene) = (.ok b, after) ↔ _
  simp

theorem modify_eq_ok {f : Scene → Scene} {b : Unit} :
    (modify f : Run Unit).run scene = (.ok b, after) ↔ f scene = after := by
  show (Except.ok (), f scene) = (.ok b, after) ↔ _
  simp

theorem lift_eq_ok {result : Except Fault α} {b : α} :
    (liftM result : Run α).run scene = (.ok b, after) ↔ result = .ok b ∧ scene = after := by
  show (result, scene) = (.ok b, after) ↔ _
  simp

theorem bind_eq_ok {first : Run α} {next : α → Run β} {b : β} :
    (first >>= next).run scene = (.ok b, after) ↔
      ∃ a between, first.run scene = (.ok a, between) ∧ (next a).run between = (.ok b, after) := by
  have hbind : (first >>= next).run scene =
      ExceptT.bindCont next (first.run scene).1 (first.run scene).2 := rfl
  rw [hbind]
  rcases first.run scene with ⟨fault | a, between⟩
  . constructor
    . intro h
      cases h
    . rintro ⟨a, between', hfirst, _⟩
      cases hfirst
  . constructor
    . intro h
      exact ⟨a, between, rfl, h⟩
    . rintro ⟨a', between', hfirst, h⟩
      cases hfirst
      exact h

end Run

namespace Analyzer

/--
The text of a file that is analysed, unless the file cannot be read.
-/
def analyzedText? (analyzer : Analyzer) (path : String) (scene : Scene) : Option String := do
  let limit ← analyzer.settings.maxFileBytes.toOption
  (scene.disk.readText (Path.ofString path) (some limit)).toOption

/--
The scene in which the fixes of a file may be written. What others do to the file while its text is
analysed has happened.
-/
def beforeWriting (analyzer : Analyzer) (path : String) (scene : Scene) : Scene :=
  if (analyzer.analyzedText? path scene).isSome then scene.meanwhile path else scene

/--
What becomes of the fixes for what the analysis of a text has found.
-/
def outcomeOf (result : FileResult) (text path : String) : Except Fault Outcome :=
  Outcome.ofFindings text (result.findings.filter fun finding => finding.fix.isSome) (some path) true

variable {analyzer : Analyzer} {path text : String} {before after : Scene}
  {found result : FileResult} {made outcome : Outcome}

theorem analyzeText_eq_ok (h : analyzer.analyzeText text path = .ok found) :
    found.path = path ∧ found.outcome = none ∧
      ∀ fault, parse text (some path) = .error (.syntaxError fault) →
        found.syntaxFault = some fault := by
  unfold analyzeText at h
  split at h
  . next fault hfault =>
    rw [ThreadLint.bind_eq_ok] at h
    obtain ⟨finding, _, h⟩ := h
    cases h
    refine ⟨rfl, rfl, ?_⟩
    intro fault' hfault'
    rw [hfault] at hfault'
    cases hfault'
    rfl
  . cases h
  . next parsed hparsed =>
    rw [ThreadLint.bind_eq_ok] at h
    obtain ⟨findings, _, h⟩ := h
    cases h
    refine ⟨rfl, rfl, ?_⟩
    intro fault hfault
    rw [hparsed] at hfault
    cases hfault

theorem written_ofFindings {findings : List Finding} {label : Option String} {verified : Bool}
    (h : Outcome.ofFindings text findings label verified = .ok outcome) :
    outcome.written = false := by
  unfold Outcome.ofFindings at h
  rw [ThreadLint.bind_eq_ok] at h
  obtain ⟨selection, _, h⟩ := h
  extract_lets fixed next at h
  split at h
  . rw [ThreadLint.bind_eq_ok] at h
    obtain ⟨_, _, h⟩ := h
    cases h
    rfl
  . cases h
    rfl

end Analyzer

end ThreadLint
