import ThreadLint.Proofs.Builtin
import ThreadLint.Proofs.Settled.Assertion
import ThreadLint.Proofs.Settled.Replacement

/-!
This module contains that no fix has to be made twice: a rule does not find again what its fix is for,
as long as what the fix writes is read as it is meant. A name that is written without its mark is not.
-/

namespace ThreadLint

/-- What is not found again however it is read is not found again either if it is read as meant. -/
theorem Matcher.Settles.mono {matcher : Matcher} {kinds : List NodeKind}
    {IsRead IsMeant : Extent → List Edit → BoundFile → Node → Prop} (h : matcher.Settles kinds IsRead)
    (himp : ∀ extent edits file root, IsMeant extent edits file root → IsRead extent edits file root) :
    matcher.Settles kinds IsMeant := by
  intro root root' tokens tokens' file file' place other hit found fix hfile hplace hkind hhit hfix
    hfile' hchars hmeant
  exact h hfile hplace hkind hhit hfix hfile' hchars (himp _ _ _ _ hmeant)

/--
Whether what a fix of a rule writes is read as it is meant in the fixed text, where the extent is that
of the finding carried over. Nothing is asked of the rules that are not mentioned.
-/
structure Fix.IsReadAsMeant (rule : String) (extent : Extent) (edits : List Edit) (file : BoundFile)
    (root : Node) : Prop where
  wait : rule = BlockingWait.rule.id → BlockingWait.IsRead extent edits file root
  handler : rule = CommandHandler.rule.id → CommandHandler.IsRead extent edits file root
  service : rule = ServiceLookup.rule.id → ServiceLookup.IsRead extent edits file root
  base : rule = PackageBase.rule.id → PackageBase.IsRead extent edits file root
  registration : rule = BackgroundLoad.rule.id → BackgroundLoad.IsRead extent edits file root

/-- No rule that offers fixes finds again what it has fixed. -/
theorem RuleDefinition.settles {definition : RuleDefinition} (h : definition ∈ catalogue)
    (hoffered : definition.offer = .offered) {matcher : Matcher}
    (hmatcher : matcher ∈ definition.matcher) :
    matcher.Settles definition.kinds (Fix.IsReadAsMeant definition.id) := by
  simp only [catalogue, List.mem_cons, List.not_mem_nil, or_false] at h
  rcases h with rfl | rfl | rfl | rfl | rfl | rfl | rfl | rfl | rfl | rfl
  . cases hmatcher
    exact BlockingWait.settles.mono fun _ _ _ _ h => h.wait rfl
  . cases hmatcher
    exact CommandHandler.settles.mono fun _ _ _ _ h => h.handler rfl
  . cases hmatcher
    exact UnobservedResult.settles.mono fun _ _ _ _ _ => trivial
  . cases hmatcher
    exact AsyncVoid.settles.mono fun _ _ _ _ _ => trivial
  . cases hmatcher
    exact ServiceLookup.settles.mono fun _ _ _ _ h => h.service rfl
  . cases hmatcher
    exact PackageBase.settles.mono fun _ _ _ _ h => h.base rfl
  . cases hmatcher
    exact BackgroundLoad.settles.mono fun _ _ _ _ h => h.registration rfl
  . cases hoffered
  . cases hmatcher
    exact AsyncNaming.settles.mono fun _ _ _ _ _ => trivial
  . cases hoffered

namespace Analyzer

/--
Once the fix for a finding is made, no finding of its rule lies where the fix has carried the finding,
if what the fix writes is read as it is meant: parentheses around an `await` as such, an assertion as the
statement that it is, with a name that needs no mark, the name of a base as the one that is looked up,
and the word `true` as the value that is given. Nothing has to be known of the other fixes.
-/
theorem fix_settles {settings : Settings} {analyzer : Analyzer}
    (h : ofSettings settings = .ok analyzer) (hplain : settings.extraSymbols = [])
    {text path : String} {result : FileResult} (hresult : analyzer.analyzeText text path = .ok result)
    {finding : Finding} (hmem : finding ∈ result.findings) {fix : Fix} (hfix : finding.fix = some fix)
    {label : Option String} {verified : Bool} {outcome : Outcome}
    (houtcome : Outcome.ofFindings text [finding] label verified = .ok outcome) {again : FileResult}
    (hagain : analyzer.analyzeText outcome.text path = .ok again)
    (hread : ∀ parsed, parse outcome.text (some path) = .ok parsed →
      Fix.IsReadAsMeant finding.rule (Edit.carried fix.edits finding.span.extent) fix.edits
        ⟨parsed.source, Binding.ofRoot parsed.root (.builtin [])⟩ parsed.root) :
    ∀ found ∈ again.findings, found.rule = finding.rule →
      found.span.extent ≠ Edit.carried fix.edits finding.span.extent := by
  intro found hfound hrule
  have hnone := Settings.symbolEntries_eq_nil hplain
  obtain ⟨parsed, tokens, _, hsource, htokens, hsited, definition, hdefinition, place, hplace, hcomes⟩ :=
    exists_comesOf h hresult hmem hfix
  obtain ⟨matcher, hmatcher, hit, hhit, hspan, hmade⟩ := hcomes.hit
  obtain ⟨parsed', tokens', hparsed', hsource', htokens', hsited', other, hother, hkind', matcher',
    hmatcher', hit', hhit', hspan'⟩ :=
    exists_hit_of_rule h hagain hfound hdefinition (hrule.trans hcomes.rule_eq)
  obtain rfl := Option.some.inj (hmatcher'.symm.trans hmatcher)
  rw [hnone] at hhit hhit'
  have hchars : parsed'.source.chars = Edit.splice parsed.source.chars fix.edits := by
    rw [hsource', hsource]
    exact Outcome.text_eq_of_singleton hfix houtcome
  have hmeant := hread parsed' hparsed'
  rw [hcomes.rule_eq, hspan] at hmeant
  rw [hspan, hspan']
  exact RuleDefinition.settles hdefinition hcomes.offered hmatcher ⟨htokens, hsited, rfl⟩
    (Place.within_of_mem_all hplace) hcomes.kind_mem hhit hmade ⟨htokens', hsited', rfl⟩ hchars hmeant
    hother hkind' hhit'

/-- A service whose presence is asserted by its name is not found again. -/
theorem fix_settles_service :
    ∃ analyzer result finding fix outcome again,
      ofSettings { (default : Settings) with
        rulesets := Category.all.map fun category => ⟨category.name, category⟩ } = .ok analyzer ∧
      let text := "class C \x7b void M() \x7b var a = GetService(b); a.F(); \x7d \x7d"
      analyzer.analyzeText text "C.cs" = .ok result ∧ finding ∈ result.findings ∧
        finding.rule = ServiceLookup.rule.id ∧ finding.fix = some fix ∧
        Outcome.ofFindings text [finding] none true = .ok outcome ∧
        analyzer.analyzeText outcome.text "C.cs" = .ok again ∧
        ∀ found ∈ again.findings, found.rule = finding.rule →
          found.span.extent ≠ Edit.carried fix.edits finding.span.extent := by
  have hrun :
      let text := "class C \x7b void M() \x7b var a = GetService(b); a.F(); \x7d \x7d"
      ((unrestricted.analyzeText text "C.cs").toOption.bind fun result =>
        result.findings.head?.bind fun finding =>
          finding.fix.bind fun fix =>
            (Outcome.ofFindings text [finding] none true).toOption.bind fun outcome =>
              (unrestricted.analyzeText outcome.text "C.cs").toOption.bind fun _ =>
                (parse outcome.text (some "C.cs")).toOption.bind fun parsed =>
                  some (decide (finding.rule = ServiceLookup.rule.id ∧
                    ∃ place ∈ Place.all parsed.root,
                      place.node.form = .variableDeclarator "a" ⟨25, 26⟩ ∧
                      place.node.extent = Edit.carried fix.edits finding.span.extent ∧
                      ∃ parent ∈ place.parent?, ∃ statement ∈ parent.followingSiblings.head?,
                        ∃ edit ∈ fix.edits, statement.extent.start = edit.beginning))) = some true := by
    decide +kernel
  extract_lets text at hrun
  obtain ⟨result, hresult, hrun⟩ := Option.bind_eq_some_iff.mp hrun
  obtain ⟨finding, hfinding, hrun⟩ := Option.bind_eq_some_iff.mp hrun
  obtain ⟨fix, hfix, hrun⟩ := Option.bind_eq_some_iff.mp hrun
  obtain ⟨outcome, houtcome, hrun⟩ := Option.bind_eq_some_iff.mp hrun
  obtain ⟨again, hagain, hrun⟩ := Option.bind_eq_some_iff.mp hrun
  obtain ⟨parsed, hparsed, hrun⟩ := Option.bind_eq_some_iff.mp hrun
  obtain ⟨hrule, place, hplace, hform, hextent, hbehind⟩ :=
    of_decide_eq_true (Option.some.inj hrun)
  have hmem := List.mem_of_head? hfinding
  have hresult := eq_ok_of_toOption hresult
  have houtcome := eq_ok_of_toOption houtcome
  have hagain := eq_ok_of_toOption hagain
  refine ⟨_, result, finding, fix, outcome, again, ofSettings_unrestricted, hresult, hmem, hrule, hfix,
    houtcome, hagain, ?_⟩
  apply fix_settles ofSettings_unrestricted rfl hresult hmem hfix houtcome hagain
  intro other hother
  obtain rfl := Except.ok.inj ((eq_ok_of_toOption hparsed).symm.trans hother)
  rw [hrule]
  constructor
  case service =>
    intro _
    exact ⟨place, hplace, "a", _, hform, hextent, by decide, hbehind⟩
  all_goals
    intro heq
    exact absurd heq (by decide)

/-- A service whose name is written without its mark is found again where it was. -/
theorem fix_repeats_service :
    ∃ analyzer result finding fix outcome again,
      ofSettings { (default : Settings) with
        rulesets := Category.all.map fun category => ⟨category.name, category⟩ } = .ok analyzer ∧
      let text := "class C \x7b void M() \x7b var @if = GetService(b); @if.F(); \x7d \x7d"
      analyzer.analyzeText text "C.cs" = .ok result ∧ finding ∈ result.findings ∧
        finding.rule = ServiceLookup.rule.id ∧ finding.fix = some fix ∧
        Outcome.ofFindings text [finding] none true = .ok outcome ∧
        analyzer.analyzeText outcome.text "C.cs" = .ok again ∧
        ∃ found ∈ again.findings, found.rule = finding.rule ∧
          found.span.extent = Edit.carried fix.edits finding.span.extent := by
  have hrun :
      let text := "class C \x7b void M() \x7b var @if = GetService(b); @if.F(); \x7d \x7d"
      ((unrestricted.analyzeText text "C.cs").toOption.bind fun result =>
        result.findings.head?.bind fun finding =>
          finding.fix.bind fun fix =>
            (Outcome.ofFindings text [finding] none true).toOption.bind fun outcome =>
              (unrestricted.analyzeText outcome.text "C.cs").toOption.bind fun again =>
                some (decide (finding.rule = ServiceLookup.rule.id ∧
                  ∃ found ∈ again.findings, found.rule = finding.rule ∧
                    found.span.extent = Edit.carried fix.edits finding.span.extent)))
        = some true := by
    decide +kernel
  extract_lets text at hrun
  obtain ⟨result, hresult, hrun⟩ := Option.bind_eq_some_iff.mp hrun
  obtain ⟨finding, hfinding, hrun⟩ := Option.bind_eq_some_iff.mp hrun
  obtain ⟨fix, hfix, hrun⟩ := Option.bind_eq_some_iff.mp hrun
  obtain ⟨outcome, houtcome, hrun⟩ := Option.bind_eq_some_iff.mp hrun
  obtain ⟨again, hagain, hrun⟩ := Option.bind_eq_some_iff.mp hrun
  obtain ⟨hrule, hfound⟩ := of_decide_eq_true (Option.some.inj hrun)
  exact ⟨_, result, finding, fix, outcome, again, ofSettings_unrestricted, eq_ok_of_toOption hresult,
    List.mem_of_head? hfinding, hrule, hfix, eq_ok_of_toOption houtcome, eq_ok_of_toOption hagain,
    hfound⟩

end Analyzer

end ThreadLint
