import ThreadLint.Proofs.Analysis
import ThreadLint.Proofs.Outcome
import ThreadLint.Proofs.Symbol

/-!
This module contains the analyzer for settings that leave out no built-in rule and add no symbols, in
a form that is cheap to evaluate: a message is only read once a finding needs it, and the symbols are
in order. It also contains where the fixes of findings come from: each of them is what a rule of the
catalogue proposes at a place of the tree of the text.
-/

namespace ThreadLint

/-! ### The built-in analyzer -/

namespace RuleDefinition

/-- Definitions that make sense stand for the rules that are read off them. -/
theorem mapM_rule {definitions : List RuleDefinition}
    (h : ∀ definition ∈ definitions, definition.Sound) :
    definitions.mapM rule = .ok (definitions.map asRule) := by
  induction definitions with
  | nil => rfl
  | cons definition rest ih =>
    rw [List.forall_mem_cons] at h
    obtain ⟨first, hfirst, _⟩ := h.1
    rw [List.mapM_cons, hfirst, ih h.2, (eq_asRule_of_rule hfirst).1]
    rfl

end RuleDefinition

/-- A set has the rules of the definitions that are neither of another category nor disabled. -/
theorem RuleSet.select_eq {definitions : List RuleDefinition}
    (hdefinitions : ∀ definition ∈ definitions, definition.Sound)
    (hrepeated : repeated (definitions.map (·.id)) = []) {disabled : List String}
    (hknown : ∀ id ∈ disabled, id ∈ definitions.map (·.id)) (categories : List Category) :
    select (some categories) disabled definitions
      = .ok (ofRules ((definitions.map RuleDefinition.asRule).filter fun rule =>
        categories.contains rule.category && !disabled.contains rule.id)) := by
  have hids : (definitions.map RuleDefinition.asRule).map Rule.id = definitions.map (·.id) := by
    rw [List.map_map]
    rfl
  unfold select
  rw [RuleDefinition.mapM_rule hdefinitions]
  simp only [bind, Except.bind, hids, hrepeated, unknown_eq_nil_iff.2 hknown]
  rfl

/-- A set from which neither a category nor a name is left out has a rule for each definition. -/
theorem RuleSet.select_all {definitions : List RuleDefinition}
    (hdefinitions : ∀ definition ∈ definitions, definition.Sound)
    (hrepeated : repeated (definitions.map (·.id)) = []) :
    select (some Category.all) [] definitions
      = .ok (ofRules (definitions.map RuleDefinition.asRule)) := by
  have hwanted (rule : Rule) : Category.all.contains rule.category = true := by
    cases rule.category <;> rfl
  rw [select_eq hdefinitions hrepeated (by simp)]
  simp only [hwanted, List.contains_nil, Bool.not_false, Bool.and_true, List.filter_true]

/-! ### The analyzer -/

/--
Settings that switch on all categories and change nothing else.
-/
def Settings.unrestricted : Settings where
  __ := (default : Settings)
  rulesets := Category.all.map fun category => ⟨category.name, category⟩

theorem Settings.symbolEntries_eq_nil {settings : Settings} (h : settings.extraSymbols = []) :
    settings.symbolEntries = [] := by
  rw [symbolEntries, h, List.mergeSort_nil, List.map_nil]

/--
The analyzer with all built-in rules and no symbols but the built-in ones.
-/
def Analyzer.unrestricted : Analyzer where
  settings := Settings.unrestricted
  ruleSet := .ofRules (RuleDefinition.catalogue.map RuleDefinition.asRule)
  table := {
    exact := (Symbol.builtin.filter fun entry => !entry.isSuffix).foldl SymbolTable.insertExact []
    suffixes := (Symbol.builtin.filter (·.isSuffix)).insertionSort fun entry other =>
      SymbolTable.precedes entry other = true
  }

theorem Analyzer.ofSettings_unrestricted :
    ofSettings Settings.unrestricted = .ok unrestricted := by
  have hcategories : Settings.unrestricted.categories = Category.all := rfl
  have hdisabled : Settings.unrestricted.disabledRules = [] := rfl
  have hsymbols : Settings.unrestricted.symbolEntries = [] := Settings.symbolEntries_eq_nil rfl
  unfold ofSettings
  rw [hcategories, hdisabled, hsymbols, SymbolTable.builtin_eq,
    RuleSet.select_all RuleDefinition.catalogue_sound RuleDefinition.catalogue_repeated]
  rfl

/-! ### Where fixes come from -/

/--
Whether a finding and its fix are what a definition of a rule gives at a place.
-/
structure Finding.ComesOf (finding : Finding) (fix : Fix) (definition : RuleDefinition)
    (file : BoundFile) (place : Place) : Prop where
  rule_eq : finding.rule = definition.id
  offered : definition.offer = .offered
  kind_mem : place.node.kind ∈ definition.kinds
  hit : ∃ matcher ∈ definition.matcher, ∃ hit, matcher file place = .ok (some hit) ∧
    finding.span = hit.span ∧ hit.fix = .ok (some fix)

theorem RuleSet.exists_of_mem_rulesFor {categories : Option (List Category)}
    {disabled : List String} {definitions : List RuleDefinition} {ruleSet : RuleSet}
    (h : select categories disabled definitions = .ok ruleSet) {kind : NodeKind} {rule : Rule}
    (hrule : rule ∈ ruleSet.rulesFor kind) :
    kind ∈ rule.kinds ∧ ∃ definition ∈ definitions, definition.rule = .ok rule := by
  obtain ⟨rules, wanted, hrules, rfl⟩ := select_eq_ok h
  rw [rulesFor_ofRules, List.mem_filter, List.mem_filter] at hrule
  exact ⟨of_decide_eq_true hrule.2, exists_of_mem_mapM hrules rule hrule.1.1⟩

/-- A finding is what some rule reports at some place. -/
theorem RuleSet.exists_check_of_mem_reportedAt {ruleSet : RuleSet} {file : BoundFile}
    {places : List Place} {findings : List Finding}
    (hfindings : reportedAt ruleSet file places = .ok findings) {finding : Finding}
    (hmem : finding ∈ findings) :
    ∃ place ∈ places, ∃ rule ∈ ruleSet.rulesFor place.node.kind,
      rule.check file place = .ok (some finding) := by
  unfold reportedAt at hfindings
  obtain ⟨reports, hreports, hfindings⟩ := bind_eq_ok.1 hfindings
  cases hfindings
  obtain ⟨report, hreport, heq⟩ := List.mem_filterMap.1 hmem
  obtain ⟨group, hgroup, hreport⟩ := List.mem_flatten.1 hreport
  obtain ⟨place, hplace, hgroup⟩ := exists_of_mem_mapM hreports group hgroup
  obtain ⟨rule, hrule, hcheck⟩ := exists_of_mem_mapM hgroup report hreport
  have heq : report = some finding := heq
  rw [heq] at hcheck
  exact ⟨place, hplace, rule, hrule, hcheck⟩

/--
Whether a rule that stands for a definition reports a finding at a place.
-/
structure Finding.ReportedBy (finding : Finding) (definition : RuleDefinition) (file : BoundFile)
    (place : Place) (rule : Rule) : Prop where
  made : definition.rule = .ok rule
  kind_mem : place.node.kind ∈ definition.kinds
  check : rule.check file place = .ok (some finding)

theorem Finding.ReportedBy.rule_eq {finding : Finding} {definition : RuleDefinition}
    {file : BoundFile} {place : Place} {rule : Rule}
    (h : finding.ReportedBy definition file place rule) : finding.rule = definition.id := by
  rw [(Rule.check_eq_ok h.check).1, (RuleDefinition.of_rule_eq_ok h.made).1]

theorem RuleSet.reportedBy_of_mem_reportedAt {categories : Option (List Category)}
    {disabled : List String} {definitions : List RuleDefinition} {ruleSet : RuleSet}
    (h : select categories disabled definitions = .ok ruleSet) {file : BoundFile}
    {places : List Place} {findings : List Finding}
    (hfindings : reportedAt ruleSet file places = .ok findings) {finding : Finding}
    (hmem : finding ∈ findings) :
    ∃ definition ∈ definitions, ∃ place ∈ places, ∃ rule,
      finding.ReportedBy definition file place rule := by
  obtain ⟨place, hplace, rule, hrule, hcheck⟩ := exists_check_of_mem_reportedAt hfindings hmem
  obtain ⟨hkind, definition, hdefinition, hmade⟩ := exists_of_mem_rulesFor h hrule
  refine ⟨definition, hdefinition, place, hplace, rule, hmade, ?_, hcheck⟩
  rw [← (RuleDefinition.of_rule_eq_ok hmade).2.1]
  exact hkind

/-- A finding says that a text is not read as it stands, or a rule reports it at a place. -/
theorem Analyzer.reportedBy_or {settings : Settings} {analyzer : Analyzer}
    (h : ofSettings settings = .ok analyzer) {text path : String} {result : FileResult}
    (hresult : analyzer.analyzeText text path = .ok result) {finding : Finding}
    (hmem : finding ∈ result.findings) :
    (finding.fix = none ∧ finding.rule ∈ [Finding.parseErrorRule, Finding.recoveredRule]) ∨
    ∃ parsed tokens, parse text (some path) = .ok parsed ∧
      parsed.source = Source.ofString text (some path) ∧
      Token.tokenize parsed.source = .ok tokens ∧ Sited parsed.source tokens parsed.root ∧
      ∃ definition ∈ RuleDefinition.catalogue, ∃ place ∈ Place.all parsed.root, ∃ rule,
        finding.ReportedBy definition ⟨parsed.source,
          Binding.ofRoot parsed.root (SymbolTable.builtin settings.symbolEntries)⟩ place rule := by
  unfold ofSettings at h
  obtain ⟨ruleSet, hselected, h⟩ := bind_eq_ok.1 h
  rw [mapError_eq_ok] at hselected
  cases h
  have hanalyzed := hresult
  unfold analyzeText at hresult
  split at hresult
  . next fault _ =>
    obtain ⟨other, hother, hresult⟩ := bind_eq_ok.1 hresult
    cases hresult
    rw [List.mem_singleton] at hmem
    unfold SyntaxFault.finding at hother
    obtain ⟨_, _, hother⟩ := bind_eq_ok.1 hother
    cases hother
    rw [hmem]
    exact .inl ⟨rfl, List.mem_cons_self ..⟩
  . cases hresult
  . next parsed hparsed =>
    obtain ⟨hsource, tokens, htokens, hsited⟩ := parse_sited hparsed
    obtain ⟨reported, hreported, hperm⟩ := analyzeText_perm hanalyzed hparsed
    rw [hperm.mem_iff, List.mem_append] at hmem
    cases hmem with
    | inl hrecovery =>
      obtain ⟨recovery, _, rfl⟩ := List.mem_map.1 hrecovery
      exact .inl ⟨rfl, by simp⟩
    | inr hmem =>
      right
      obtain ⟨definition, hdefinition, place, hplace, rule, hreportedBy⟩ :=
        RuleSet.reportedBy_of_mem_reportedAt hselected hreported hmem
      exact ⟨parsed, tokens, hparsed, hsource, htokens, hsited, definition, hdefinition, place,
        hplace, rule, hreportedBy⟩

/-- Where a fix comes from. -/
theorem Analyzer.exists_comesOf {settings : Settings} {analyzer : Analyzer}
    (h : ofSettings settings = .ok analyzer) {text path : String} {result : FileResult}
    (hresult : analyzer.analyzeText text path = .ok result) {finding : Finding}
    (hmem : finding ∈ result.findings) {fix : Fix} (hfix : finding.fix = some fix) :
    ∃ parsed tokens, parse text (some path) = .ok parsed ∧
      parsed.source = Source.ofString text (some path) ∧
      Token.tokenize parsed.source = .ok tokens ∧ Sited parsed.source tokens parsed.root ∧
      ∃ definition ∈ RuleDefinition.catalogue, ∃ place ∈ Place.all parsed.root,
        finding.ComesOf fix definition ⟨parsed.source,
          Binding.ofRoot parsed.root (SymbolTable.builtin settings.symbolEntries)⟩ place := by
  obtain ⟨hnone, _⟩ | ⟨parsed, tokens, hparsed, hsource, htokens, hsited, definition, hdefinition,
    place, hplace, rule, hreported⟩ := reportedBy_or h hresult hmem
  . rw [hnone] at hfix
    cases hfix
  . obtain ⟨_, _, hmatcher, hoffer⟩ := RuleDefinition.of_rule_eq_ok hreported.made
    obtain ⟨_, hit, hhit, hspan, hfixes⟩ := Rule.check_eq_ok hreported.check
    obtain ⟨hoffers, hfix⟩ := hfixes fix hfix
    refine ⟨parsed, tokens, hparsed, hsource, htokens, hsited, definition, hdefinition, place,
      hplace, ?_⟩
    constructor
    case rule_eq => exact hreported.rule_eq
    case offered => exact hoffer hoffers
    case kind_mem => exact hreported.kind_mem
    case hit => exact ⟨rule.matcher, hmatcher, hit, hhit, hspan, hfix⟩

/-- Findings of a rule of the catalogue are its hits at places of the tree. -/
theorem Analyzer.exists_hit_of_rule {settings : Settings} {analyzer : Analyzer}
    (h : ofSettings settings = .ok analyzer) {text path : String} {result : FileResult}
    (hresult : analyzer.analyzeText text path = .ok result) {finding : Finding}
    (hmem : finding ∈ result.findings) {definition : RuleDefinition}
    (hdefinition : definition ∈ RuleDefinition.catalogue) (hrule : finding.rule = definition.id) :
    ∃ parsed tokens, parse text (some path) = .ok parsed ∧
      parsed.source = Source.ofString text (some path) ∧
      Token.tokenize parsed.source = .ok tokens ∧ Sited parsed.source tokens parsed.root ∧
      ∃ place ∈ Place.all parsed.root, place.node.kind ∈ definition.kinds ∧
        ∃ matcher ∈ definition.matcher, ∃ hit,
          matcher ⟨parsed.source, Binding.ofRoot parsed.root
            (SymbolTable.builtin settings.symbolEntries)⟩ place = .ok (some hit) ∧
          finding.span = hit.span := by
  obtain ⟨_, hother⟩ | ⟨parsed, tokens, hparsed, hsource, htokens, hsited, other, hother, place,
    hplace, rule, hreported⟩ := reportedBy_or h hresult hmem
  . have hids : ∀ definition ∈ RuleDefinition.catalogue,
        definition.id ∉ [Finding.parseErrorRule, Finding.recoveredRule] := by decide
    rw [hrule] at hother
    exact absurd hother (hids definition hdefinition)
  . obtain rfl := List.inj_on_of_nodup_map RuleDefinition.catalogue_ids hother hdefinition
      (hreported.rule_eq.symm.trans hrule)
    obtain ⟨_, _, hmatcher, _⟩ := RuleDefinition.of_rule_eq_ok hreported.made
    obtain ⟨_, hit, hhit, hspan, _⟩ := Rule.check_eq_ok hreported.check
    exact ⟨parsed, tokens, hparsed, hsource, htokens, hsited, place, hplace, hreported.kind_mem,
      rule.matcher, hmatcher, hit, hhit, hspan⟩

end ThreadLint
