import ThreadLint.Proofs.Builtin
import ThreadLint.Proofs.Outcome
import ThreadLint.Proofs.Stable

/-!
This module contains that rules are independent of each other: to leave some of them out is to leave
out what they report.
-/

namespace ThreadLint

/-- Steps that give something for wanted items only give just that if the others are left out. -/
theorem exists_mapM_filter {ε α β : Type} {f : α → Except ε (Option β)} {items : List α}
    {results : List (Option β)} {wanted : α → Bool} {kept : β → Bool}
    (h : items.mapM f = .ok results)
    (hkept : ∀ a ∈ items, ∀ b, f a = .ok (some b) → kept b = wanted a) :
    ∃ others, (items.filter wanted).mapM f = .ok others ∧
      others.filterMap id = (results.filterMap id).filter kept := by
  induction items generalizing results with
  | nil =>
    cases h
    exact ⟨[], rfl, rfl⟩
  | cons a items ih =>
    rw [List.mapM_cons] at h
    obtain ⟨first, hfirst, h⟩ := bind_eq_ok.1 h
    obtain ⟨rest, hrest, h⟩ := bind_eq_ok.1 h
    cases h
    rw [List.forall_mem_cons] at hkept
    obtain ⟨others, hothers, heq⟩ := ih hrest hkept.2
    cases hwanted : wanted a with
    | true =>
      refine ⟨first :: others, ?_, ?_⟩
      . rw [List.filter_cons_of_pos hwanted, List.mapM_cons, hfirst, hothers]
        rfl
      . cases first with
        | none => exact heq
        | some b =>
          have hb : kept b = true := (hkept.1 b hfirst).trans hwanted
          show b :: others.filterMap id = (b :: rest.filterMap id).filter kept
          rw [List.filter_cons_of_pos hb, heq]
    | false =>
      refine ⟨others, ?_, ?_⟩
      . rw [List.filter_cons_of_neg (by simp [hwanted]), hothers]
      . cases first with
        | none => exact heq
        | some b =>
          have hb : ¬ kept b = true := by rw [hkept.1 b hfirst, hwanted]; decide
          show others.filterMap id = (b :: rest.filterMap id).filter kept
          rw [List.filter_cons_of_neg hb, heq]

/-! ### Findings of rules -/

/--
Whether findings tell apart which of some rules they come from, as far as one test of rules and one
test of findings go.
-/
def RuleSet.Marked (rules : List Rule) (wanted : Rule → Bool) (kept : Finding → Bool) : Prop :=
  ∀ rule ∈ rules, ∀ file place finding, rule.check file place = .ok (some finding) →
    kept finding = wanted rule

theorem reportedAt_cons (ruleSet : RuleSet) (file : BoundFile) (place : Place)
    (places : List Place) :
    reportedAt ruleSet file (place :: places) = (do
      let reported ← (ruleSet.rulesFor place.node.kind).mapM fun rule => rule.check file place
      let others ← reportedAt ruleSet file places
      return reported.filterMap id ++ others) := by
  unfold reportedAt
  rw [List.mapM_cons]
  cases (ruleSet.rulesFor place.node.kind).mapM fun rule => rule.check file place with
  | error fault => rfl
  | ok reported =>
    cases places.mapM fun place =>
        (ruleSet.rulesFor place.node.kind).mapM fun rule => rule.check file place with
    | error fault => rfl
    | ok reports => simp [bind, Except.bind, pure, Except.pure]

section

variable {rules : List Rule} {wanted : Rule → Bool} {kept : Finding → Bool}
  (h : RuleSet.Marked rules wanted kept)

include h

theorem reportedAt_filter {file : BoundFile} {places : List Place} {findings : List Finding}
    (hfindings : reportedAt (.ofRules rules) file places = .ok findings) :
    reportedAt (.ofRules (rules.filter wanted)) file places = .ok (findings.filter kept) := by
  induction places generalizing findings with
  | nil =>
    cases hfindings
    rfl
  | cons place places ih =>
    rw [reportedAt_cons, RuleSet.rulesFor_ofRules] at hfindings ⊢
    obtain ⟨reported, hreported, hfindings⟩ := bind_eq_ok.1 hfindings
    obtain ⟨others, hothers, hfindings⟩ := bind_eq_ok.1 hfindings
    cases hfindings
    obtain ⟨reported', hreported', heq⟩ := exists_mapM_filter hreported
      fun rule hrule finding hcheck => h rule (List.mem_filter.1 hrule).1 file place finding hcheck
    rw [List.filter_comm, hreported', ih hothers, List.filter_append, ← heq]
    rfl

theorem evaluate_filter {parsed : Parsed} {table : SymbolTable} {findings : List Finding}
    (hfindings : evaluate parsed table (.ofRules rules) = .ok findings) :
    evaluate parsed table (.ofRules (rules.filter wanted)) = .ok (findings.filter kept) := by
  unfold evaluate at hfindings ⊢
  dsimp only at hfindings ⊢
  obtain ⟨reported, hreported, hfindings⟩ := bind_eq_ok.1 hfindings
  obtain ⟨_, hbounds, hfindings⟩ := bind_eq_ok.1 hfindings
  cases hfindings
  -- Findings are checked one by one, so those that are left pass the check as well.
  have hbounds' : ((reported.filter kept).forM fun finding =>
      finding.checkBounds parsed.source.length parsed.source.path) = .ok () := by
    rw [forM_eq_ok]
    exact fun finding hmem => forM_eq_ok.1 hbounds finding (List.mem_filter.1 hmem).1
  rw [reportedAt_filter h hreported]
  show (((reported.filter kept).forM fun finding =>
      finding.checkBounds parsed.source.length parsed.source.path) >>= _) = _
  rw [hbounds']
  exact congrArg Except.ok
    (filter_mergeSort Finding.precedes_trans Finding.precedes_total kept reported).symm

end

/-! ### Rules of the catalogue -/

/--
Whether a definition belongs to one of some categories and is not disabled.
-/
def RuleDefinition.isActive (categories : List Category) (disabled : List String)
    (definition : RuleDefinition) : Bool :=
  definition.category.any categories.contains && !disabled.contains definition.id

/--
Whether a finding is about a bracket that nothing closes, or comes from a built-in rule of some
categories that is not disabled.
-/
def Finding.isKept (categories : List Category) (disabled : List String) (finding : Finding) : Bool :=
  finding.rule == recoveredRule ||
    RuleDefinition.catalogue.any fun definition =>
      definition.id == finding.rule && definition.isActive categories disabled

theorem RuleDefinition.catalogue_categories :
    ∀ definition ∈ catalogue, definition.category = some definition.asRule.category := by
  simp only [catalogue, List.forall_mem_cons]
  decide

theorem RuleDefinition.catalogue_not_recovered :
    ∀ definition ∈ catalogue, definition.id ≠ Finding.recoveredRule := by
  decide

/-- A finding has the name of its rule, which no other rule has and no recovery. -/
theorem RuleSet.marked_catalogue (categories : List Category) (disabled : List String) :
    Marked (RuleDefinition.catalogue.map RuleDefinition.asRule)
      (fun rule => categories.contains rule.category && !disabled.contains rule.id)
      (Finding.isKept categories disabled) := by
  intro rule hrule file place finding hcheck
  obtain ⟨definition, hdefinition, rfl⟩ := List.mem_map.1 hrule
  have hid : finding.rule = definition.id := (Rule.check_eq_ok hcheck).1
  have hactive : definition.isActive categories disabled =
      (categories.contains definition.asRule.category && !disabled.contains definition.id) := by
    rw [RuleDefinition.isActive, RuleDefinition.catalogue_categories definition hdefinition]
    rfl
  have hrecovered : (finding.rule == Finding.recoveredRule) = false := by
    rw [hid, beq_eq_false_iff_ne]
    exact RuleDefinition.catalogue_not_recovered definition hdefinition
  have honly : (RuleDefinition.catalogue.any fun other =>
      other.id == definition.id && other.isActive categories disabled) =
        definition.isActive categories disabled := by
    rw [Bool.eq_iff_iff, List.any_eq_true]
    constructor
    . rintro ⟨other, hother, h⟩
      rw [Bool.and_eq_true, beq_iff_eq] at h
      rw [← List.inj_on_of_nodup_map RuleDefinition.catalogue_ids hother hdefinition h.1]
      exact h.2
    . intro h
      exact ⟨definition, hdefinition, by simp [h]⟩
  rw [Finding.isKept, hrecovered, Bool.false_or, hid, honly, hactive]
  rfl

/--
Settings with all built-in rules and nothing else changed.
-/
def Settings.withAllRules (settings : Settings) : Settings :=
  { settings with
    rulesets := Category.all.map fun category => ⟨category.name, category⟩
    disabledRules := [] }

namespace Analyzer

theorem ofSettings_eq_ok {settings : Settings}
    (hknown : ∀ id ∈ settings.disabledRules, id ∈ RuleDefinition.catalogue.map (·.id)) :
    ofSettings settings = .ok ⟨settings,
      .ofRules ((RuleDefinition.catalogue.map RuleDefinition.asRule).filter fun rule =>
        settings.categories.contains rule.category && !settings.disabledRules.contains rule.id),
      SymbolTable.builtin settings.symbolEntries⟩ := by
  unfold ofSettings
  rw [RuleSet.select_eq RuleDefinition.catalogue_sound RuleDefinition.catalogue_repeated hknown]
  rfl

theorem ofSettings_withAllRules (settings : Settings) :
    ofSettings settings.withAllRules = .ok ⟨settings.withAllRules,
      .ofRules (RuleDefinition.catalogue.map RuleDefinition.asRule),
      SymbolTable.builtin settings.symbolEntries⟩ := by
  have hcategories : settings.withAllRules.categories = Category.all := rfl
  have hdisabled : settings.withAllRules.disabledRules = [] := rfl
  have hsymbols : settings.withAllRules.symbolEntries = settings.symbolEntries := rfl
  unfold ofSettings
  rw [hcategories, hdisabled, hsymbols,
    RuleSet.select_all RuleDefinition.catalogue_sound RuleDefinition.catalogue_repeated]
  rfl

theorem analyzeText_of_evaluate {analyzer : Analyzer} {text path : String} {parsed : Parsed}
    (hparsed : parse text (some path) = .ok parsed) {found : List Finding}
    (hfound : evaluate parsed analyzer.table analyzer.ruleSet = .ok found) :
    analyzer.analyzeText text path =
      .ok { path := path, findings := Finding.sorted (parsed.recoveryFindings ++ found) } := by
  unfold analyzeText
  rw [hparsed]
  dsimp only
  rw [hfound]
  rfl

/--
On a text on which all rules together find something without a fault, some of them find what is left
of that without the findings of the others.
-/
theorem analyzeText_restricted {settings : Settings}
    (hknown : ∀ id ∈ settings.disabledRules, id ∈ RuleDefinition.catalogue.map (·.id))
    {full : Analyzer} (hfull : ofSettings settings.withAllRules = .ok full) {text path : String}
    {parsed : Parsed} (hparsed : parse text (some path) = .ok parsed) {found : List Finding}
    (hfound : evaluate parsed full.table full.ruleSet = .ok found) :
    ∃ restricted result, ofSettings settings = .ok restricted ∧
      full.analyzeText text path = .ok result ∧
      restricted.analyzeText text path = .ok { result with
        findings := result.findings.filter
          (Finding.isKept settings.categories settings.disabledRules) } := by
  rw [ofSettings_withAllRules] at hfull
  cases hfull
  have hrestricted := evaluate_filter
    (RuleSet.marked_catalogue settings.categories settings.disabledRules) hfound
  have hrecoveries : parsed.recoveryFindings.filter
      (Finding.isKept settings.categories settings.disabledRules) = parsed.recoveryFindings := by
    rw [List.filter_eq_self]
    intro finding hmem
    obtain ⟨recovery, _, rfl⟩ := List.mem_map.1 hmem
    rfl
  refine ⟨_, _, ofSettings_eq_ok hknown, analyzeText_of_evaluate hparsed hfound, ?_⟩
  rw [analyzeText_of_evaluate hparsed hrestricted, Finding.sorted, Finding.sorted,
    filter_mergeSort Finding.precedes_trans Finding.precedes_total, List.filter_append, hrecoveries]

/-- A text with a bracket that nothing closes and findings of two categories, of which one is wanted. -/
theorem analyzeText_restricted_threading :
    ∃ full parsed found restricted result,
      let settings : Settings := { (default : Settings) with
        rulesets := [⟨"Threading", .threading⟩]
        disabledRules := ["command-handler-thread-assert"] }
      let text := "class C \x7b async Task Run(Task t) \x7b t.Wait(); \x7d"
      ofSettings settings.withAllRules = .ok full ∧ parse text (some "C.cs") = .ok parsed ∧
        parsed.recoveries.length = 1 ∧
        evaluate parsed full.table full.ruleSet = .ok found ∧
        (found.map Finding.rule).Perm
          ["async-method-naming", "blocking-call-on-affinity-thread"] ∧
        ofSettings settings = .ok restricted ∧ full.analyzeText text "C.cs" = .ok result ∧
        restricted.analyzeText text "C.cs" = .ok { result with
          findings := result.findings.filter
            (Finding.isKept [.threading] ["command-handler-thread-assert"]) } := by
  let settings : Settings := { (default : Settings) with
    rulesets := [⟨"Threading", .threading⟩]
    disabledRules := ["command-handler-thread-assert"] }
  have hfull : ofSettings settings.withAllRules =
      .ok ⟨settings.withAllRules, unrestricted.ruleSet, unrestricted.table⟩ := by
    have hsymbols : settings.symbolEntries = [] := by
      rw [Settings.symbolEntries, show settings.extraSymbols = [] from rfl, List.mergeSort_nil,
        List.map_nil]
    rw [ofSettings_withAllRules, hsymbols, SymbolTable.builtin_eq]
    rfl
  -- The findings are counted before they are sorted, as sorting does not evaluate.
  have hrun :
      let text := "class C \x7b async Task Run(Task t) \x7b t.Wait(); \x7d"
      ((parse text (some "C.cs")).toOption.bind fun parsed =>
        (evaluate parsed unrestricted.table unrestricted.ruleSet).toOption.bind fun _ =>
          let file : BoundFile := ⟨parsed.source, Binding.ofRoot parsed.root unrestricted.table⟩
          (reportedAt unrestricted.ruleSet file (Place.all parsed.root)).toOption.map fun reported =>
            (parsed.recoveries.length, reported.map Finding.rule)) =
        some (1, ["async-method-naming", "blocking-call-on-affinity-thread"]) := by
    decide +kernel
  obtain ⟨parsed, hparsed, hrun⟩ := Option.bind_eq_some_iff.mp hrun
  obtain ⟨found, hfound, hrun⟩ := Option.bind_eq_some_iff.mp hrun
  obtain ⟨reported, hreported, hrun⟩ := Option.map_eq_some_iff.mp hrun
  obtain ⟨hrecoveries, hrules⟩ := Prod.mk.inj hrun
  have hparsed := eq_ok_of_toOption hparsed
  have hfound := eq_ok_of_toOption hfound
  obtain ⟨reported', hreported', hperm⟩ := evaluate_perm hfound
  rw [eq_ok_of_toOption hreported] at hreported'
  cases hreported'
  have hknown : ∀ id ∈ settings.disabledRules, id ∈ RuleDefinition.catalogue.map (·.id) := by
    decide
  obtain ⟨restricted, result, h⟩ := analyzeText_restricted hknown hfull hparsed hfound
  exact ⟨_, parsed, found, restricted, result, hfull, hparsed, hrecoveries, hfound,
    hrules ▸ hperm.map Finding.rule, h⟩

end Analyzer

end ThreadLint
