import ThreadLint.Proofs.Kept
import ThreadLint.Proofs.Outcome
import ThreadLint.Proofs.Rule.Rename

/-!
This module contains when the fix for the name of a method renames all that is called by it: exactly
if its type says the name only where the method is declared and where it is mentioned without a mark.
The fix edits one declaration and all mentions, so an overload loses its mentions.
-/

namespace ThreadLint

open ThreadLint.Token

theorem Token.tokenize_eq_ok_iff {source : Source} {tokens : List Token} :
    tokenize source = .ok tokens ↔ tokensFrom 0 true source.chars = .ok tokens := by
  unfold tokenize
  rw [mapError_eq_ok]

/-- A fixed text that is verified has a syntax tree. -/
theorem Outcome.exists_parse {text : String} {findings : List Finding} {label : Option String}
    {outcome : Outcome} (h : ofFindings text findings label true = .ok outcome)
    (hne : outcome.text ≠ text) : ∃ parsed, parse outcome.text label = .ok parsed := by
  unfold ofFindings at h
  obtain ⟨selection, _, h⟩ := bind_eq_ok.1 h
  extract_lets fixed next at h
  split at h
  . obtain ⟨_, hverify, h⟩ := bind_eq_ok.1 h
    cases h
    unfold verify at hverify
    split at hverify
    . next parsed hparsed => exact ⟨parsed, hparsed⟩
    . cases hverify
    . cases hverify
  . next hsame =>
    cases h
    rw [Bool.true_and, bne_iff_ne, ne_eq, Decidable.not_not] at hsame
    exact absurd hsame hne

namespace Analyzer

variable {settings : Settings} {analyzer : Analyzer} {text path : String} {result : FileResult}
  {finding : Finding} {fix : Fix}

/-- A fix for a finding of a built-in rule is made by that rule for some place of the tree. -/
theorem exists_hit (h : ofSettings settings = .ok analyzer)
    (hresult : analyzer.analyzeText text path = .ok result) (hmem : finding ∈ result.findings)
    {definition : RuleDefinition} (hdefinition : definition ∈ RuleDefinition.catalogue)
    (hrule : finding.rule = definition.id) (hfix : finding.fix = some fix) :
    ∃ parsed, parse text (some path) = .ok parsed ∧ ∃ place ∈ Place.all parsed.root,
      ∃ matcher ∈ definition.matcher, ∃ hit,
        matcher ⟨parsed.source, Binding.ofRoot parsed.root
          (SymbolTable.builtin settings.symbolEntries)⟩ place = .ok (some hit) ∧
        finding.span = hit.span ∧ hit.fix = .ok (some fix) := by
  obtain ⟨parsed, _, hparsed, _, _, _, other, hother, place, hplace, hcomes⟩ :=
    exists_comesOf h hresult hmem hfix
  have hsame : other = definition :=
    List.inj_on_of_nodup_map RuleDefinition.catalogue_ids hother hdefinition
      (hcomes.rule_eq.symm.trans hrule)
  rw [hsame] at hcomes
  exact ⟨parsed, hparsed, place, hplace, hcomes.hit⟩

/-- The fix for the name of a method is made for some method of the tree. -/
theorem exists_method (h : ofSettings settings = .ok analyzer)
    (hresult : analyzer.analyzeText text path = .ok result) (hmem : finding ∈ result.findings)
    (hrule : finding.rule = AsyncNaming.rule.id) (hfix : finding.fix = some fix) :
    ∃ parsed, parse text (some path) = .ok parsed ∧ ∃ place ∈ Place.all parsed.root,
      ∃ head, place.node.form = .methodDecl head ∧ finding.span.extent = head.nameExtent ∧
        ∃ file : BoundFile, file.source = parsed.source ∧
          fix.edits = AsyncNaming.distinctEdits
            (⟨head.nameExtent.start, head.nameExtent.stop, head.name ++ AsyncNaming.ending⟩ ::
              AsyncNaming.mentionEdits file head.name (AsyncNaming.scopeOf place)) := by
  have hnaming : AsyncNaming.rule ∈ RuleDefinition.catalogue := by simp [RuleDefinition.catalogue]
  obtain ⟨parsed, hparsed, place, hplace, matcher, hmatcher, hit, hhit, hspan, hmade⟩ :=
    exists_hit h hresult hmem hnaming hrule hfix
  cases hmatcher
  obtain ⟨head, hform, hextent, hedits⟩ := AsyncNaming.exists_head hhit hmade
  exact ⟨parsed, hparsed, place, hplace, head, hform, (congrArg Span.extent hspan).trans hextent,
    _, rfl, hedits⟩

/-- A fix whose edits lengthen the text in some extent makes another text. -/
theorem text_ne_of_lengthens (h : ofSettings settings = .ok analyzer)
    (hresult : analyzer.analyzeText text path = .ok result) (hmem : finding ∈ result.findings)
    (hfix : finding.fix = some fix) {extent : Extent}
    (hlengthens : ∀ edit ∈ fix.edits, edit.Lengthens extent) {label : Option String}
    {verified : Bool} {outcome : Outcome}
    (houtcome : Outcome.ofFindings text [finding] label verified = .ok outcome) :
    outcome.text ≠ text := by
  intro heq
  have hlength := Edit.length_splice (edits_inside h hresult hmem hfix) fix.compatible
  rw [← Outcome.text_eq_of_singleton hfix houtcome, heq] at hlength
  have := Edit.growthOf_pos hlengthens fix.edits_ne_nil
  omega

/--
The fix for the name of a method renames all that is called by it if the name is not said in its type
but where the method is declared and where it is mentioned without a mark: once the fixed text is
read again, no method of the type has the name and nothing mentions it. In all other cases the name
is left in the type, as it is where the type has an overload of the method.
-/
theorem rename_isComplete_iff (h : ofSettings settings = .ok analyzer)
    (hresult : analyzer.analyzeText text path = .ok result) (hmem : finding ∈ result.findings)
    (hrule : finding.rule = AsyncNaming.rule.id) (hfix : finding.fix = some fix)
    {tokens : List Token} (htokens : tokenize (Source.ofString text none) = .ok tokens)
    (hfits : ∀ edit ∈ fix.edits, edit.FitsIn text.toList tokens) {label : Option String}
    {outcome : Outcome} (houtcome : Outcome.ofFindings text [finding] label true = .ok outcome) :
    ∃ parsed, parse text (some path) = .ok parsed ∧ ∃ place ∈ Place.all parsed.root,
      ∃ head, place.node.form = .methodDecl head ∧ finding.span.extent = head.nameExtent ∧
        ∃ after others, parse outcome.text label = .ok after ∧
          tokenize after.source = .ok others ∧
          let scope := AsyncNaming.scopeOf place
          let renamed := Edit.carried fix.edits scope.extent
          let isLeft := ∃ token ∈ tokens, AsyncNaming.IsLeft scope head token
          (isLeft ↔ ∃ other ∈ others, other.identifierName = head.name ∧
            other.extent.IsInside renamed) ∧
          (∀ node ∈ scope.preorder, node ≠ place.node → AsyncNaming.Involves head.name node →
            (∀ start, AsyncNaming.mention? head.name node = some start →
              parsed.source.slice ⟨start, start + head.name.length⟩ ≠ head.name) → isLeft) ∧
          (¬ isLeft → ∀ node ∈ after.root.preorder, node.extent.IsInside renamed →
            ¬ AsyncNaming.Involves head.name node) := by
  obtain ⟨parsed, hparsed, place, hplace, head, hform, hspan, file, hfile, hedits⟩ :=
    exists_method h hresult hmem hrule hfix
  obtain ⟨hsource, _, htokenized, hsited⟩ := parse_sited hparsed
  rw [← hfile] at hsited
  rw [hsource, tokenize_eq_ok_iff] at htokenized
  obtain rfl := Except.ok.inj (htokenized.symm.trans (tokenize_eq_ok_iff.1 htokens))
  have hwithin := Place.within_of_mem_all hplace
  have hmethod := AsyncNaming.mem_preorder_scopeOf hplace
  have hlengthens : ∀ edit ∈ fix.edits, edit.Lengthens (AsyncNaming.scopeOf place).extent :=
    fun edit hedit =>
      AsyncNaming.lengthens_of_mem_edits hsited hwithin hform hedits hmethod hedit
  -- the new text is another one, so it was parsed to verify it
  have hne := text_ne_of_lengthens h hresult hmem hfix hlengthens houtcome
  obtain ⟨after, hafter⟩ := Outcome.exists_parse houtcome hne
  obtain ⟨hafterSource, others, hothers, hafterSited⟩ := parse_sited hafter
  obtain ⟨_, hmoved, hkept, hmade⟩ :=
    exists_tokens_of_fix h hresult hmem hfix htokens hfits houtcome
  have hmoved := tokenize_eq_ok_iff.1 hmoved
  have hread := hothers
  rw [hafterSource, tokenize_eq_ok_iff] at hread
  obtain rfl := Except.ok.inj (hread.symm.trans hmoved)
  have hiff := AsyncNaming.exists_named_iff hsited hwithin hform hedits hmethod hkept hmade
  refine ⟨parsed, hparsed, place, hplace, head, hform, hspan, after, others, hafter, hothers, hiff,
    ?_, ?_⟩
  . intro node hnode hother hinvolves hmarked
    rw [← hfile] at hmarked
    exact AsyncNaming.exists_isLeft hsited hwithin hform hnode hother hinvolves hmarked
  . intro hnone node hnode hinside hinvolves
    have hword := AsyncNaming.isWord_name hsited hwithin hform
    exact hnone (hiff.2 (AsyncNaming.exists_named_of_involves hafterSited hnode hword hinvolves
      hinside))

/-- A method that nothing else in its type is called like. -/
theorem rename_isComplete_iff_single :
    ∃ analyzer result finding fix tokens outcome parsed scope after,
      ofSettings { (default : Settings) with
        rulesets := Category.all.map fun category => ⟨category.name, category⟩ } = .ok analyzer ∧
      let text := "class C \x7b async Task M() \x7b \x7d \x7d"
      analyzer.analyzeText text "C.cs" = .ok result ∧ finding ∈ result.findings ∧
        finding.rule = AsyncNaming.rule.id ∧ finding.fix = some fix ∧
        tokenize (Source.ofString text none) = .ok tokens ∧
        (∀ edit ∈ fix.edits, edit.FitsIn text.toList tokens) ∧
        Outcome.ofFindings text [finding] none true = .ok outcome ∧
        parse text (some "C.cs") = .ok parsed ∧ scope ∈ parsed.root.preorder ∧
        parse outcome.text none = .ok after ∧
        ∀ node ∈ after.root.preorder, node.extent.IsInside (Edit.carried fix.edits scope.extent) →
          ¬ AsyncNaming.Involves "M" node := by
  have hrun :
      let text := "class C \x7b async Task M() \x7b \x7d \x7d"
      ((unrestricted.analyzeText text "C.cs").toOption.bind fun result =>
        result.findings.head?.bind fun finding =>
          finding.fix.bind fun fix =>
            (tokenize (Source.ofString text none)).toOption.bind fun tokens =>
              (Outcome.ofFindings text [finding] none true).toOption.bind fun outcome =>
                (parse text (some "C.cs")).toOption.bind fun parsed =>
                  some (decide (finding.rule = AsyncNaming.rule.id ∧
                    (∀ edit ∈ fix.edits, edit.FitsIn text.toList tokens) ∧
                    (∀ token ∈ tokens, token.identifierName = "M" →
                      token.start = finding.span.extent.start) ∧
                    ∀ place ∈ Place.all parsed.root, place.node.kind = .methodDecl →
                      AsyncNaming.declares "M" place.node = true))) = some true := by
    decide +kernel
  extract_lets text at hrun
  obtain ⟨result, hresult, hrun⟩ := Option.bind_eq_some_iff.mp hrun
  obtain ⟨finding, hfinding, hrun⟩ := Option.bind_eq_some_iff.mp hrun
  obtain ⟨fix, hfix, hrun⟩ := Option.bind_eq_some_iff.mp hrun
  obtain ⟨tokens, htokens, hrun⟩ := Option.bind_eq_some_iff.mp hrun
  obtain ⟨outcome, houtcome, hrun⟩ := Option.bind_eq_some_iff.mp hrun
  obtain ⟨parsed, hparsed, hrun⟩ := Option.bind_eq_some_iff.mp hrun
  obtain ⟨hrule, hfits, honce, hdeclares⟩ := of_decide_eq_true (Option.some.inj hrun)
  have hmem := List.mem_of_head? hfinding
  have hresult := eq_ok_of_toOption hresult
  have htokens := eq_ok_of_toOption htokens
  have houtcome := eq_ok_of_toOption houtcome
  have hparsed := eq_ok_of_toOption hparsed
  obtain ⟨other, hother, place, hplace, head, hform, hspan, after, _, hafter, _, _, _, hnone⟩ :=
    rename_isComplete_iff ofSettings_unrestricted hresult hmem hrule hfix htokens hfits houtcome
  obtain rfl := Except.ok.inj (hparsed.symm.trans hother)
  have hname : head.name = "M" := by
    have := hdeclares place hplace (by simp [Node.kind, hform, Form.kind])
    simpa [AsyncNaming.declares, hform] using this
  refine ⟨_, result, finding, fix, tokens, outcome, parsed, AsyncNaming.scopeOf place, after,
    ofSettings_unrestricted, hresult, hmem, hrule, hfix, htokens, hfits, houtcome, hparsed,
    AsyncNaming.scopeOf_mem (Place.within_of_mem_all hplace), hafter, ?_⟩
  rw [← hname]
  apply hnone
  rintro ⟨token, htoken, hleft⟩
  apply hleft.not_renamed
  have hstart := honce token htoken (hleft.name_eq.trans hname)
  exact .inl (hstart.trans (congrArg Extent.start hspan))

/-- A method that is renamed without its overload and without a mention that has a mark. -/
theorem rename_leaves_overload :
    ∃ analyzer result finding fix outcome after type,
      ofSettings { (default : Settings) with
        rulesets := Category.all.map fun category => ⟨category.name, category⟩ } = .ok analyzer ∧
      let text := "class C \x7b async Task M() \x7b \x7d " ++
        "int M(int x) \x7b return @M(x); \x7d \x7d"
      analyzer.analyzeText text "C.cs" = .ok result ∧ finding ∈ result.findings ∧
        finding.rule = AsyncNaming.rule.id ∧ finding.fix = some fix ∧
        Outcome.ofFindings text [finding] none true = .ok outcome ∧
        parse outcome.text none = .ok after ∧ type ∈ after.root.preorder ∧
        type.kind = .classDecl ∧
        (∃ node ∈ type.preorder, AsyncNaming.declares "MAsync" node = true) ∧
        (∃ node ∈ type.preorder, AsyncNaming.declares "M" node = true) ∧
        ∃ node ∈ type.preorder, (AsyncNaming.mention? "M" node).isSome = true := by
  have hrun :
      let text := "class C \x7b async Task M() \x7b \x7d " ++
        "int M(int x) \x7b return @M(x); \x7d \x7d"
      ((unrestricted.analyzeText text "C.cs").toOption.bind fun result =>
        result.findings.head?.bind fun finding =>
          finding.fix.bind fun _ =>
            (Outcome.ofFindings text [finding] none true).toOption.bind fun outcome =>
              (parse outcome.text none).toOption.bind fun after =>
                (after.root.preorder.find? fun node => node.kind == .classDecl).bind fun type =>
                  some (decide (finding.rule = AsyncNaming.rule.id ∧ type.kind = .classDecl ∧
                    (∃ node ∈ type.preorder, AsyncNaming.declares "MAsync" node = true) ∧
                    (∃ node ∈ type.preorder, AsyncNaming.declares "M" node = true) ∧
                    ∃ node ∈ type.preorder, (AsyncNaming.mention? "M" node).isSome = true)))
        = some true := by
    decide +kernel
  extract_lets text at hrun
  obtain ⟨result, hresult, hrun⟩ := Option.bind_eq_some_iff.mp hrun
  obtain ⟨finding, hfinding, hrun⟩ := Option.bind_eq_some_iff.mp hrun
  obtain ⟨fix, hfix, hrun⟩ := Option.bind_eq_some_iff.mp hrun
  obtain ⟨outcome, houtcome, hrun⟩ := Option.bind_eq_some_iff.mp hrun
  obtain ⟨after, hafter, hrun⟩ := Option.bind_eq_some_iff.mp hrun
  obtain ⟨type, htype, hrun⟩ := Option.bind_eq_some_iff.mp hrun
  obtain ⟨hrule, hkind, hnew, hold, hmention⟩ := of_decide_eq_true (Option.some.inj hrun)
  exact ⟨_, result, finding, fix, outcome, after, type, ofSettings_unrestricted,
    eq_ok_of_toOption hresult, List.mem_of_head? hfinding, hrule, hfix,
    eq_ok_of_toOption houtcome, eq_ok_of_toOption hafter, List.mem_of_find?_eq_some htype, hkind,
    hnew, hold, hmention⟩

end Analyzer

end ThreadLint
