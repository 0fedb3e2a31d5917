import ThreadLint.Outcome
import ThreadLint.Proofs.Outcome
import ThreadLint.Proofs.Settled.Carry

/-!
This module contains which fixes are made and which are skipped: each fix is one or the other, and the
edits of all fixes that are made go together.
-/

namespace ThreadLint

/--
The edits of the fix of a finding, if it has one.
-/
def Finding.edits (finding : Finding) : List Edit :=
  match finding.fix with
  | some fix => fix.edits
  | none => []

namespace Selection

/--
What it means that a selection comes about from another one by making the fixes of some findings and
skipping those of others.
-/
structure Grows (before after : Selection) (made : List Finding) (left : List SkippedFix) : Prop where
  accepted_eq : after.accepted = before.accepted ++ made.flatMap Finding.edits
  skipped_eq : after.skipped = before.skipped ++ left
  compatible : before.accepted.Pairwise (fun edit other => edit.conflictsWith other = false) →
    after.accepted.Pairwise fun edit other => edit.conflictsWith other = false

variable {length : Nat} {path : String} {before after : Selection} {finding : Finding}

theorem not_conflictsWith_of_clash? {accepted : List Edit} {fix : Fix}
    (h : clash? accepted fix = none) :
    ∀ edit ∈ accepted, ∀ other ∈ fix.edits, edit.conflictsWith other = false := by
  unfold clash? at h
  rw [List.findSome?_eq_none_iff] at h
  intro edit hedit other hother
  have hnone := h other hother
  rw [List.find?_eq_none] at hnone
  rw [Edit.conflictsWith_comm]
  simpa using hnone edit hedit

theorem step_eq_ok (h : step length path before finding = .ok after) :
    ∃ made left, before.Grows after made left ∧
      made ++ left.map SkippedFix.finding = [finding].filter fun finding => finding.fix.isSome := by
  unfold step at h
  split at h
  . next hnone =>
    cases h
    refine ⟨[], [], ⟨by simp, by simp, id⟩, ?_⟩
    simp [hnone]
  . next fix hfix =>
    split at h
    . cases h
    . cases h
      unfold consider
      split
      . next edit _ =>
        refine ⟨[], [⟨finding, clashReason edit⟩], ⟨by simp, rfl, id⟩, ?_⟩
        simp [hfix]
      . next hclash =>
        have hedits : finding.edits = fix.edits := by rw [Finding.edits, hfix]
        refine ⟨[finding], [], ⟨by simp [hedits], by simp, ?_⟩, by simp [hfix]⟩
        intro hbefore
        rw [List.pairwise_append]
        exact ⟨hbefore, fix.compatible, not_conflictsWith_of_clash? hclash⟩

theorem foldlM_step_eq_ok {findings : List Finding}
    (h : findings.foldlM (step length path) before = .ok after) :
    ∃ made left, before.Grows after made left ∧
      (made ++ left.map SkippedFix.finding).Perm
        (findings.filter fun finding => finding.fix.isSome) := by
  induction findings generalizing before with
  | nil =>
    cases h
    exact ⟨[], [], ⟨by simp, by simp, id⟩, .nil⟩
  | cons finding rest ih =>
    rw [List.foldlM_cons, bind_eq_ok] at h
    obtain ⟨between, hstep, h⟩ := h
    obtain ⟨made, left, hfirst, hboth⟩ := step_eq_ok hstep
    obtain ⟨made', left', hrest, hperm⟩ := ih h
    refine ⟨made ++ made', left ++ left', ⟨?_, ?_, ?_⟩, ?_⟩
    . rw [hrest.accepted_eq, hfirst.accepted_eq, List.flatMap_append, List.append_assoc]
    . rw [hrest.skipped_eq, hfirst.skipped_eq, List.append_assoc]
    . exact hrest.compatible ∘ hfirst.compatible
    . rw [← List.singleton_append, List.filter_append, ← hboth, List.map_append]
      refine List.Perm.trans ?_ (hperm.append_left _)
      rw [List.append_assoc, List.append_assoc]
      apply List.Perm.append_left
      rw [← List.append_assoc, ← List.append_assoc]
      exact List.perm_append_comm.append_right _

end Selection

/--
What it means that an outcome comes of the fixes of some findings: they are made together, and all
others are skipped.
-/
structure Outcome.Makes (outcome : Outcome) (text : String) (findings made : List Finding) : Prop where
  text_eq : outcome.text.toList = Edit.splice text.toList (made.flatMap Finding.edits)
  compatible : (made.flatMap Finding.edits).Pairwise fun edit other => edit.conflictsWith other = false
  perm : (made ++ outcome.skipped.map SkippedFix.finding).Perm
    (findings.filter fun finding => finding.fix.isSome)

namespace Outcome

variable {outcome : Outcome} {text : String} {findings made : List Finding} {finding : Finding}

theorem exists_makes {label : Option String} {verified : Bool}
    (h : ofFindings text findings label verified = .ok outcome) :
    ∃ made, outcome.Makes text findings made := by
  unfold ofFindings at h
  obtain ⟨selection, hselection, h⟩ := bind_eq_ok.1 h
  obtain ⟨made, left, hgrows, hperm⟩ := Selection.foldlM_step_eq_ok hselection
  have haccepted : selection.accepted = made.flatMap Finding.edits := by
    rw [hgrows.accepted_eq, Selection.empty, List.nil_append]
  have hskipped : selection.skipped = left := by
    rw [hgrows.skipped_eq, Selection.empty, List.nil_append]
  have hmakes {outcome : Outcome} (htext : outcome.text = String.ofList
      (Edit.splice text.toList selection.accepted)) (hleft : outcome.skipped = selection.skipped) :
      outcome.Makes text findings made := by
    constructor
    case text_eq => rw [htext, String.toList_ofList, haccepted]
    case compatible =>
      rw [← haccepted]
      exact hgrows.compatible .nil
    case perm =>
      rw [hleft, hskipped]
      exact hperm.trans ((List.mergeSort_perm _ _).filter _)
  refine ⟨made, ?_⟩
  extract_lets fixed next at h
  split at h
  . obtain ⟨_, _, h⟩ := bind_eq_ok.1 h
    cases h
    exact hmakes rfl rfl
  . cases h
    exact hmakes rfl rfl

/-- A fix that is considered alone is made. -/
theorem text_eq_of_singleton {fix : Fix} {label : Option String} {verified : Bool}
    (hfix : finding.fix = some fix) (h : ofFindings text [finding] label verified = .ok outcome) :
    outcome.text.toList = Edit.splice text.toList fix.edits := by
  unfold ofFindings at h
  obtain ⟨selection, hselection, h⟩ := bind_eq_ok.1 h
  have haccepted : selection.accepted = fix.edits := by
    rw [Selection.ofFindings, Finding.sorted, List.mergeSort_singleton, List.foldlM_cons,
      bind_eq_ok] at hselection
    obtain ⟨only, hstep, hselection⟩ := hselection
    cases hselection
    unfold Selection.step at hstep
    rw [hfix] at hstep
    dsimp only at hstep
    split at hstep
    . cases hstep
    . cases hstep
      have hclash : Selection.clash? Selection.empty.accepted fix = none := by
        rw [Selection.clash?, List.findSome?_eq_none_iff]
        exact fun _ _ => rfl
      rw [Selection.consider, hclash]
      rfl
  rw [← haccepted]
  extract_lets fixed next at h
  split at h
  . obtain ⟨_, _, h⟩ := bind_eq_ok.1 h
    cases h
    rw [String.toList_ofList]
  . cases h
    rw [String.toList_ofList]

variable (h : outcome.Makes text findings made)

include h

theorem Makes.mem_findings (hmade : finding ∈ made) : finding ∈ findings ∧ finding.fix.isSome = true := by
  have hmem := h.perm.mem_iff.1 (List.mem_append_left _ hmade)
  rw [List.mem_filter] at hmem
  exact hmem

/-- Where findings are told apart, those are made that are not skipped. -/
theorem Makes.mem_iff (hapart : findings.Pairwise Finding.IsApart) (hmem : finding ∈ findings)
    (hfix : finding.fix.isSome = true) :
    finding ∈ made ↔ ∀ skipped ∈ outcome.skipped, skipped.finding ≠ finding := by
  have hnodup : (findings.filter fun finding => finding.fix.isSome).Nodup := by
    rw [List.Nodup, List.pairwise_filter]
    apply hapart.imp
    intro first second hapart hfirst hsecond heq
    exact hapart hfirst hsecond (by rw [heq])
  rw [← h.perm.nodup_iff, List.nodup_append] at hnodup
  have hboth : finding ∈ made ++ outcome.skipped.map SkippedFix.finding :=
    h.perm.mem_iff.2 (List.mem_filter.2 ⟨hmem, hfix⟩)
  rw [List.mem_append, List.mem_map] at hboth
  constructor
  . intro hmade skipped hskipped heq
    exact hnodup.2.2 finding hmade finding (List.mem_map.2 ⟨skipped, hskipped, heq⟩) rfl
  . intro hnot
    apply hboth.resolve_right
    rintro ⟨skipped, hskipped, heq⟩
    exact hnot skipped hskipped heq

end Outcome

end ThreadLint
