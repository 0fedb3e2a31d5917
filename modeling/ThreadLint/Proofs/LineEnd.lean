import ThreadLint.Proofs.Builtin
import ThreadLint.Proofs.LineEnd.Rule
import ThreadLint.Proofs.Selection

/-!
This module contains when the fixes of a file keep its line ends: exactly if no fix of the two rules
is made that insert a statement on a line of its own.
-/

namespace ThreadLint

open ThreadLint.Text

/--
The names of the rules that insert a statement on a line of its own.
-/
def RuleDefinition.insertingRules : List String :=
  [CommandHandler.rule.id, ServiceLookup.rule.id]

theorem RuleDefinition.catalogue_feeds : ∀ definition ∈ catalogue, definition.offer = .offered →
    ∀ matcher ∈ definition.matcher,
      if definition.id ∈ insertingRules then matcher.BreaksFeeds
      else matcher.KeepsFeeds definition.kinds := by
  simp only [catalogue, List.forall_mem_cons]
  refine ⟨?_, ?_, ?_, ?_, ?_, ?_, ?_, ?_, ?_, ?_, by simp⟩
  . rintro _ _ ⟨⟩
    rw [if_neg (by decide)]
    exact BlockingWait.keepsFeeds
  . rintro _ _ ⟨⟩
    rw [if_pos (by decide)]
    exact CommandHandler.breaksFeeds
  . rintro _ _ ⟨⟩
    rw [if_neg (by decide)]
    exact UnobservedResult.keepsFeeds
  . rintro _ _ ⟨⟩
    rw [if_neg (by decide)]
    exact AsyncVoid.keepsFeeds
  . rintro _ _ ⟨⟩
    rw [if_pos (by decide)]
    exact ServiceLookup.breaksFeeds
  . rintro _ _ ⟨⟩
    rw [if_neg (by decide)]
    exact PackageBase.keepsFeeds
  . rintro _ _ ⟨⟩
    rw [if_neg (by decide)]
    exact BackgroundLoad.keepsFeeds
  . rintro ⟨⟩
  . rintro _ _ ⟨⟩
    rw [if_neg (by decide)]
    exact AsyncNaming.keepsFeeds
  . rintro ⟨⟩

namespace Analyzer

variable {settings : Settings} {analyzer : Analyzer} {text path : String} {result : FileResult}

theorem feeds_of_mem_findings (h : ofSettings settings = .ok analyzer)
    (hresult : analyzer.analyzeText text path = .ok result)
    (hpaired : feedsPaired false text.toList = true) {finding : Finding}
    (hmem : finding ∈ result.findings) :
    if finding.rule ∈ RuleDefinition.insertingRules then
      ∀ edit ∈ finding.edits, edit.BreaksFeeds text.toList
    else ∀ edit ∈ finding.edits, edit.KeepsFeeds text.toList := by
  cases hfix : finding.fix with
  | none => simp [Finding.edits, hfix]
  | some fix =>
    obtain ⟨parsed, tokens, hparsed, hsource, htokens, hsited, definition, hdefinition, place, hplace,
      hcomes⟩ := exists_comesOf h hresult hmem hfix
    have hplace := Place.within_of_mem_all hplace
    obtain ⟨matcher, hmatcher, hit, hhit, _, hmade⟩ := hcomes.hit
    have hchars : parsed.source.chars = text.toList := by
      rw [hsource]
      rfl
    have hfeeds := RuleDefinition.catalogue_feeds definition hdefinition hcomes.offered matcher hmatcher
    have hedits : finding.edits = fix.edits := by
      rw [Finding.edits, hfix]
    rw [hcomes.rule_eq, hedits, ← hchars]
    rw [← hchars] at hpaired
    split
    . next hinserting =>
      rw [if_pos hinserting] at hfeeds
      exact hfeeds hsited hplace hhit hmade
    . next hinserting =>
      rw [if_neg hinserting] at hfeeds
      have hknows : BoundFile.KnowsSettings ⟨parsed.source,
          Binding.ofRoot parsed.root (SymbolTable.builtin settings.symbolEntries)⟩ settings := rfl
      exact hfeeds hsited hplace hcomes.kind_mem hknows hpaired hhit hmade

/--
A file whose line feeds stand behind carriage returns is left so by the fixes for it exactly if all
fixes are skipped that insert a statement on a line of its own.
-/
theorem fixes_keepFeeds_iff (h : ofSettings settings = .ok analyzer)
    (hresult : analyzer.analyzeText text path = .ok result)
    (hpaired : feedsPaired false text.toList = true) {label : Option String} {verified : Bool}
    {outcome : Outcome}
    (houtcome : Outcome.ofFindings text result.findings label verified = .ok outcome) :
    feedsPaired false outcome.text.toList = true ↔
      ∀ finding ∈ result.findings, finding.fix.isSome = true →
        finding.rule ∈ RuleDefinition.insertingRules →
          ∃ skipped ∈ outcome.skipped, skipped.finding = finding := by
  obtain ⟨made, hmakes⟩ := Outcome.exists_makes houtcome
  have hpromises := keepsPromises h text path
  have hapart : result.findings.Pairwise Finding.IsApart := by
    unfold ofSettings at h
    obtain ⟨ruleSet, hselected, h⟩ := bind_eq_ok.1 h
    rw [mapError_eq_ok] at hselected
    cases h
    exact analyzeText_apart (RuleSet.tellsApart_of_select hselected) hresult
  have hfeeds {finding : Finding} (hmem : finding ∈ result.findings) :=
    feeds_of_mem_findings h hresult hpaired hmem
  have hinside : ∀ edit ∈ made.flatMap Finding.edits, edit.Inside text.toList.length := by
    intro edit hedit
    obtain ⟨finding, hmade, hedit⟩ := List.mem_flatMap.1 hedit
    obtain ⟨hmem, hfix⟩ := hmakes.mem_findings hmade
    obtain ⟨fix, hfix⟩ := Option.isSome_iff_exists.1 hfix
    rw [Finding.edits, hfix] at hedit
    obtain ⟨hstart, hle, hstop⟩ := (hpromises.edits result hresult finding hmem fix hfix).2.2 edit hedit
    rw [String.length_toList]
    exact ⟨hstart, hle, hstop⟩
  rw [hmakes.text_eq, Edit.feedsPaired_splice_iff hinside hmakes.compatible hpaired]
  . constructor
    . intro hkeeps finding hmem hfix hinserting
      by_contra hskipped
      have hmade : finding ∈ made := by
        rw [hmakes.mem_iff hapart hmem hfix]
        intro skipped hleft heq
        exact hskipped ⟨skipped, hleft, heq⟩
      have hbreaks := hfeeds hmem
      rw [if_pos hinserting] at hbreaks
      obtain ⟨fix, hfix⟩ := Option.isSome_iff_exists.1 hfix
      obtain ⟨edit, hedit⟩ := List.exists_mem_of_ne_nil _ fix.edits_ne_nil
      have hedit : edit ∈ finding.edits := by
        rw [Finding.edits, hfix]
        exact hedit
      have hkeeps := hkeeps edit (List.mem_flatMap.2 ⟨finding, hmade, hedit⟩)
      exact hkeeps.not_breaksFeeds (hbreaks edit hedit)
    . intro hskips edit hedit
      obtain ⟨finding, hmade, hedit⟩ := List.mem_flatMap.1 hedit
      obtain ⟨hmem, hfix⟩ := hmakes.mem_findings hmade
      have hkeeps := hfeeds hmem
      rw [if_neg] at hkeeps
      . exact hkeeps edit hedit
      . intro hinserting
        obtain ⟨skipped, hskipped, heq⟩ := hskips finding hmem hfix hinserting
        exact (hmakes.mem_iff hapart hmem hfix).1 hmade skipped hskipped heq
  . intro edit hedit
    obtain ⟨finding, hmade, hedit⟩ := List.mem_flatMap.1 hedit
    have heither := hfeeds (hmakes.mem_findings hmade).1
    split at heither
    . exact .inr (heither edit hedit)
    . exact .inl (heither edit hedit)

/-- A feed that is written into a text with carriage returns has none of them in front. -/
example : feedsPaired false (Edit.splice "a\r\nb".toList [⟨1, 1, "\n"⟩]) = false := by
  decide +kernel

/-- A handler whose return type is fixed, on lines that end with carriage returns. -/
theorem fixes_keepFeeds_handler :
    ∃ analyzer result outcome, ofSettings { (default : Settings) with
        rulesets := Category.all.map fun category => ⟨category.name, category⟩ } = .ok analyzer ∧
      let text := "class C \x7b\r\nasync void M(object o, EventArgs e)\r\n\x7b \x7d \x7d"
      analyzer.analyzeText text "C.cs" = .ok result ∧
        Outcome.ofFindings text result.findings none true = .ok outcome ∧
        outcome.applied = 1 ∧ feedsPaired false outcome.text.toList = true := by
  have hrun :
      let text := "class C \x7b\r\nasync void M(object o, EventArgs e)\r\n\x7b \x7d \x7d"
      ((unrestricted.analyzeText text "C.cs").toOption.bind fun result =>
        (Outcome.ofFindings text result.findings none true).toOption.bind fun outcome =>
          some (decide (feedsPaired false text.toList = true ∧ outcome.applied = 1 ∧
            ∀ finding ∈ result.findings, finding.rule ∉ RuleDefinition.insertingRules)))
        = some true := by
    decide +kernel
  extract_lets text at hrun
  obtain ⟨result, hresult, hrun⟩ := Option.bind_eq_some_iff.mp hrun
  obtain ⟨outcome, houtcome, hrun⟩ := Option.bind_eq_some_iff.mp hrun
  obtain ⟨hpaired, happlied, hothers⟩ := of_decide_eq_true (Option.some.inj hrun)
  have hresult := eq_ok_of_toOption hresult
  have houtcome := eq_ok_of_toOption houtcome
  refine ⟨_, result, outcome, ofSettings_unrestricted, hresult, houtcome, happlied, ?_⟩
  apply (fixes_keepFeeds_iff ofSettings_unrestricted hresult hpaired houtcome).2
  intro finding hmem _ hinserting
  exact absurd hinserting (hothers finding hmem)

/-- An assertion that is put on a line behind a line feed alone. -/
theorem fixes_breakFeeds_assertion :
    ∃ analyzer result outcome, ofSettings { (default : Settings) with
        rulesets := Category.all.map fun category => ⟨category.name, category⟩ } = .ok analyzer ∧
      let text := "class C \x7b\r\nobject o = new " ++
        "System.ComponentModel.Design.MenuCommand(M);\r\nvoid M() \x7b \x7d \x7d"
      analyzer.analyzeText text "C.cs" = .ok result ∧
        Outcome.ofFindings text result.findings none true = .ok outcome ∧
        feedsPaired false text.toList = true ∧ feedsPaired false outcome.text.toList = false := by
  have hrun :
      let text := "class C \x7b\r\nobject o = new " ++
        "System.ComponentModel.Design.MenuCommand(M);\r\nvoid M() \x7b \x7d \x7d"
      ((unrestricted.analyzeText text "C.cs").toOption.bind fun result =>
        (Outcome.ofFindings text result.findings none true).toOption.bind fun outcome =>
          some (decide (feedsPaired false text.toList = true ∧
            feedsPaired false outcome.text.toList = false))) = some true := by
    decide +kernel
  extract_lets text at hrun
  obtain ⟨result, hresult, hrun⟩ := Option.bind_eq_some_iff.mp hrun
  obtain ⟨outcome, houtcome, hrun⟩ := Option.bind_eq_some_iff.mp hrun
  obtain ⟨hpaired, hbroken⟩ := of_decide_eq_true (Option.some.inj hrun)
  exact ⟨_, result, outcome, ofSettings_unrestricted, eq_ok_of_toOption hresult,
    eq_ok_of_toOption houtcome, hpaired, hbroken⟩

end Analyzer

end ThreadLint
