import ThreadLint.Proofs.Builtin
import ThreadLint.Proofs.Kept.Rule
import ThreadLint.Proofs.Selection

/-!
This module contains which tokens of a text are kept by a fix: all that are outside of its edits, if
these fit in. Edits are put in without a look at what is around them, so not all of them do.
-/

namespace ThreadLint

open ThreadLint.Token

instance (text : List Char) (tokens : List Token) (edit : Edit) :
    Decidable (edit.FitsIn text tokens) :=
  decidable_of_iff (Edit.IsEdge tokens edit.start ∧ Edit.IsEdge tokens edit.stop ∧
    Parted (text.take edit.start.toNat) edit.replacement.toList ∧
    Parted edit.replacement.toList (text.drop edit.stop.toNat) ∧
    beginsWithDirective (text.drop edit.stop.toNat) = false)
    ⟨fun ⟨hstart, hstop, hfront, hback, hplain⟩ => ⟨hstart, hstop, hfront, hback, hplain⟩,
      fun ⟨hstart, hstop, hfront, hback, hplain⟩ => ⟨hstart, hstop, hfront, hback, hplain⟩⟩

namespace Analyzer

variable {settings : Settings} {analyzer : Analyzer} {text path : String} {result : FileResult}
  {finding : Finding} {fix : Fix}

theorem writesAlone (h : ofSettings settings = .ok analyzer)
    (hresult : analyzer.analyzeText text path = .ok result) (hmem : finding ∈ result.findings)
    (hfix : finding.fix = some fix) : fix.WritesAlone text.toList := by
  obtain ⟨parsed, tokens, _, hsource, htokens, hsited, definition, hdefinition, place, hplace,
    hcomes⟩ := exists_comesOf h hresult hmem hfix
  have hplace := Place.within_of_mem_all hplace
  obtain ⟨matcher, hmatcher, hit, hhit, _, hmade⟩ := hcomes.hit
  have hknows : BoundFile.KnowsSettings ⟨parsed.source,
      Binding.ofRoot parsed.root (SymbolTable.builtin settings.symbolEntries)⟩ settings := rfl
  have hwrites := RuleDefinition.catalogue_writesAlone definition hdefinition hcomes.offered matcher
    hmatcher htokens hsited hplace hcomes.kind_mem hknows hhit hmade
  rw [hsource] at hwrites
  exact hwrites

theorem edits_inside (h : ofSettings settings = .ok analyzer)
    (hresult : analyzer.analyzeText text path = .ok result) (hmem : finding ∈ result.findings)
    (hfix : finding.fix = some fix) : ∀ edit ∈ fix.edits, edit.Inside text.toList.length := by
  intro edit hedit
  obtain ⟨hstart, hle, hstop⟩ :=
    ((keepsPromises h text path).edits result hresult finding hmem fix hfix).2.2 edit hedit
  rw [String.length_toList]
  exact ⟨hstart, hle, hstop⟩

/-- The tokens of a text after a fix are those outside of its edits and those of the edits. -/
theorem exists_tokens_of_fix (h : ofSettings settings = .ok analyzer)
    (hresult : analyzer.analyzeText text path = .ok result) (hmem : finding ∈ result.findings)
    (hfix : finding.fix = some fix) {tokens : List Token}
    (htokens : tokenize (Source.ofString text none) = .ok tokens)
    (hfits : ∀ edit ∈ fix.edits, edit.FitsIn text.toList tokens) {label : Option String}
    {verified : Bool} {outcome : Outcome}
    (houtcome : Outcome.ofFindings text [finding] label verified = .ok outcome) :
    ∃ others, tokenize (Source.ofString outcome.text none) = .ok others ∧
      Edit.KeepTokens fix.edits tokens others ∧ Edit.MakeTokens fix.edits tokens others := by
  obtain ⟨halone, hapart⟩ := writesAlone h hresult hmem hfix
  have hinside := edits_inside h hresult hmem hfix
  unfold tokenize at htokens ⊢
  rw [mapError_eq_ok] at htokens
  obtain ⟨others, hothers, hkept⟩ := Edit.exists_tokens htokens hinside fix.compatible
    (hapart fun edit hedit => (hfits edit hedit).front) hfits halone
  refine ⟨others, ?_, hkept⟩
  rw [mapError_eq_ok, ← hothers]
  exact congrArg (tokensFrom 0 true) (Outcome.text_eq_of_singleton hfix houtcome)

/--
A fix is made without a change to the tokens outside of its edits if each edit begins and ends where
tokens do, with a seam at both of its ends and no preprocessor line behind it.
-/
theorem fix_keepsTokens (h : ofSettings settings = .ok analyzer)
    (hresult : analyzer.analyzeText text path = .ok result) (hmem : finding ∈ result.findings)
    (hfix : finding.fix = some fix) {tokens : List Token}
    (htokens : tokenize (Source.ofString text none) = .ok tokens)
    (hfits : ∀ edit ∈ fix.edits, edit.FitsIn text.toList tokens) {label : Option String}
    {verified : Bool} {outcome : Outcome}
    (houtcome : Outcome.ofFindings text [finding] label verified = .ok outcome) :
    ∃ others, tokenize (Source.ofString outcome.text none) = .ok others ∧
      Edit.KeepTokens fix.edits tokens others := by
  obtain ⟨others, hothers, hkept, _⟩ :=
    exists_tokens_of_fix h hresult hmem hfix htokens hfits houtcome
  exact ⟨others, hothers, hkept⟩

/-- A call that is awaited behind a word and a blank. -/
theorem fix_keepsTokens_else :
    ∃ analyzer result finding fix tokens outcome others,
      ofSettings { (default : Settings) with
        rulesets := Category.all.map fun category => ⟨category.name, category⟩ } = .ok analyzer ∧
      let text := "class C \x7b async Task MAsync() \x7b if (a) \x7b \x7d else NAsync(); \x7d " ++
        "async Task NAsync() \x7b \x7d \x7d"
      analyzer.analyzeText text "C.cs" = .ok result ∧ finding ∈ result.findings ∧
        finding.fix = some fix ∧ tokenize (Source.ofString text none) = .ok tokens ∧
        Outcome.ofFindings text [finding] none true = .ok outcome ∧
        tokenize (Source.ofString outcome.text none) = .ok others ∧
        Edit.KeepTokens fix.edits tokens others := by
  have hrun :
      let text := "class C \x7b async Task MAsync() \x7b if (a) \x7b \x7d else NAsync(); \x7d " ++
        "async Task NAsync() \x7b \x7d \x7d"
      ((unrestricted.analyzeText text "C.cs").toOption.bind fun result =>
        result.findings.head?.bind fun finding =>
          finding.fix.bind fun fix =>
            (tokenize (Source.ofString text none)).toOption.bind fun tokens =>
              (Outcome.ofFindings text [finding] none true).toOption.bind fun _ =>
                some (decide (∀ edit ∈ fix.edits, edit.FitsIn text.toList tokens))) = some true := by
    decide +kernel
  extract_lets text at hrun
  obtain ⟨result, hresult, hrun⟩ := Option.bind_eq_some_iff.mp hrun
  obtain ⟨finding, hfinding, hrun⟩ := Option.bind_eq_some_iff.mp hrun
  obtain ⟨fix, hfix, hrun⟩ := Option.bind_eq_some_iff.mp hrun
  obtain ⟨tokens, htokens, hrun⟩ := Option.bind_eq_some_iff.mp hrun
  obtain ⟨outcome, houtcome, hrun⟩ := Option.bind_eq_some_iff.mp hrun
  have hfits := of_decide_eq_true (Option.some.inj hrun)
  have hresult := eq_ok_of_toOption hresult
  have htokens := eq_ok_of_toOption htokens
  have houtcome := eq_ok_of_toOption houtcome
  obtain ⟨others, hothers, hkept⟩ := fix_keepsTokens ofSettings_unrestricted hresult
    (List.mem_of_head? hfinding) hfix htokens hfits houtcome
  exact ⟨_, result, finding, fix, tokens, outcome, others, ofSettings_unrestricted, hresult,
    List.mem_of_head? hfinding, hfix, htokens, houtcome, hothers, hkept⟩

/-- A call that is awaited directly behind a word, which takes in the `await`. -/
theorem fix_fuses_else :
    ∃ analyzer result finding fix tokens outcome others,
      ofSettings { (default : Settings) with
        rulesets := Category.all.map fun category => ⟨category.name, category⟩ } = .ok analyzer ∧
      let text := "class C \x7b async Task MAsync() \x7b if (a) \x7b \x7d else@NAsync(); \x7d " ++
        "async Task NAsync() \x7b \x7d \x7d"
      analyzer.analyzeText text "C.cs" = .ok result ∧ finding ∈ result.findings ∧
        finding.fix = some fix ∧ tokenize (Source.ofString text none) = .ok tokens ∧
        Outcome.ofFindings text [finding] none true = .ok outcome ∧
        tokenize (Source.ofString outcome.text none) = .ok others ∧
        ¬ Edit.KeepTokens fix.edits tokens others := by
  have hrun :
      let text := "class C \x7b async Task MAsync() \x7b if (a) \x7b \x7d else@NAsync(); \x7d " ++
        "async Task NAsync() \x7b \x7d \x7d"
      ((unrestricted.analyzeText text "C.cs").toOption.bind fun result =>
        result.findings.head?.bind fun finding =>
          finding.fix.bind fun fix =>
            (tokenize (Source.ofString text none)).toOption.bind fun tokens =>
              (Outcome.ofFindings text [finding] none true).toOption.bind fun outcome =>
                (tokenize (Source.ofString outcome.text none)).toOption.bind fun others =>
                  some (decide (Edit.KeepTokens fix.edits tokens others))) = some false := by
    decide +kernel
  extract_lets text at hrun
  obtain ⟨result, hresult, hrun⟩ := Option.bind_eq_some_iff.mp hrun
  obtain ⟨finding, hfinding, hrun⟩ := Option.bind_eq_some_iff.mp hrun
  obtain ⟨fix, hfix, hrun⟩ := Option.bind_eq_some_iff.mp hrun
  obtain ⟨tokens, htokens, hrun⟩ := Option.bind_eq_some_iff.mp hrun
  obtain ⟨outcome, houtcome, hrun⟩ := Option.bind_eq_some_iff.mp hrun
  obtain ⟨others, hothers, hrun⟩ := Option.bind_eq_some_iff.mp hrun
  exact ⟨_, result, finding, fix, tokens, outcome, others, ofSettings_unrestricted,
    eq_ok_of_toOption hresult, List.mem_of_head? hfinding, hfix, eq_ok_of_toOption htokens,
    eq_ok_of_toOption houtcome, eq_ok_of_toOption hothers,
    of_decide_eq_false (Option.some.inj hrun)⟩

end Analyzer

end ThreadLint
