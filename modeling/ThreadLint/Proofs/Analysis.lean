import ThreadLint.Analysis
import ThreadLint.Outcome
import ThreadLint.Proofs.Rule.Catalogue

/-!
This module contains that an analysis keeps the promises about findings, whatever the text, the
settings and the known symbols are: it reports nothing outside the text, and the fixes of what it
reports can be made.
-/

namespace ThreadLint

/-! ### Recoveries -/

theorem Token.unclosed_go_subset {source : Source} {opened tokens openers : List Token}
    (h : unclosed.go source opened tokens = .ok openers) :
    ∀ token ∈ openers, token ∈ opened ∨ token ∈ tokens := by
  intro token hmem
  fun_induction unclosed.go source opened tokens with
  | case1 opened =>
    cases h
    exact .inl (List.mem_reverse.1 hmem)
  | case2 opened first rest _ ih =>
    cases ih h with
    | inl hopened =>
      rw [List.mem_cons] at hopened ⊢
      exact hopened.elim (fun heq => .inr (.inl heq)) .inl
    | inr hrest => exact .inr (List.mem_cons_of_mem _ hrest)
  | case3 => cases h
  | case4 first rest _ _ opener outer _ ih =>
    cases ih h with
    | inl houter => exact .inl (List.mem_cons_of_mem _ houter)
    | inr hrest => exact .inr (List.mem_cons_of_mem _ hrest)
  | case5 => cases h
  | case6 opened first rest _ _ ih => exact (ih h).imp_right (List.mem_cons_of_mem _)

theorem Token.unclosed_subset {source : Source} {tokens openers : List Token}
    (h : unclosed source tokens = .ok openers) : ∀ token ∈ openers, token ∈ tokens := by
  intro token hmem
  simpa using unclosed_go_subset h token hmem

theorem parse_keeps (text : String) (path : Option String) :
    Keeps (fun _ => True) (parse text path) := by
  have hsource : Keeps (fun _ => True) (Parsed.ofSource (Source.ofString text path)) := by
    unfold Parsed.ofSource
    apply (Keeps.mapError (P := fun _ => True) (fun _ _ => trivial) (fun _ _ => rfl)).bind
    intro tokens _
    apply (Keeps.mapError (P := fun _ => True) (fun _ _ => trivial) (fun _ _ => rfl)).bind
    intro unclosed _
    refine (Keeps.mapM (Q := fun _ => True) ?_).bind ?_
    . intro opener _
      obtain ⟨span, hspan, _⟩ := Parsed.recovery_eq_ok (Source.ofString text path) opener
      rw [hspan]
      trivial
    . intro recoveries _
      apply (Keeps.mapError (P := fun _ => True) (fun _ _ => trivial) (fun _ _ => rfl)).bind
      intro members _
      exact Keeps.pure trivial
  unfold parse
  split
  . rfl
  . exact hsource

theorem recoveryFindings_inside {text : String} {path : Option String} {parsed : Parsed}
    (h : parse text path = .ok parsed) :
    ∀ finding ∈ parsed.recoveryFindings, finding.Inside parsed.source.length := by
  obtain ⟨tokens, unclosed, _, htokens, hunclosed, hrecoveries, _, hsource, _⟩ :=
    Parsed.ofSource_eq_ok (parse_eq_ok h)
  intro finding hmem
  unfold Parsed.recoveryFindings at hmem
  obtain ⟨recovery, hrecovery, rfl⟩ := List.mem_map.1 hmem
  obtain ⟨opener, hopener, heq⟩ := exists_of_mem_mapM hrecoveries recovery hrecovery
  obtain ⟨span, hspan, hextent⟩ := Parsed.recovery_eq_ok (Source.ofString text path) opener
  rw [hspan] at heq
  cases heq
  have hstop : span.stop = opener.stop := congrArg Extent.stop hextent
  constructor
  case span =>
    dsimp only
    rw [hstop, hsource]
    exact ((Token.Tiles.of_tokenize htokens).text_eq (Token.unclosed_subset hunclosed _ hopener)).1
  case fix => simp

/-! ### Findings of rules -/

theorem Rule.Sound.check {rule : Rule} (h : rule.Sound) {root : Node} {tokens : List Token}
    {file : BoundFile} {place : Place} (hsited : Sited file.source tokens root)
    (hplace : place.Within root) :
    Keeps (fun finding => ∀ found ∈ finding, found.Inside file.source.length)
      (rule.check file place) := by
  obtain ⟨names, hmatcher, hmessage⟩ := h
  unfold Rule.check
  apply (hmatcher hsited hplace).bind
  intro hit hhit
  split
  . next hit =>
    have hsound := hhit hit rfl
    obtain ⟨message, hfill⟩ := Template.fill_eq_ok hmessage hsound.values
    rw [hfill]
    apply (Keeps.pure trivial : Keeps (fun _ => True) (.ok message)).bind
    intro message _
    extract_lets tail
    have htail : ∀ fix, (∀ made ∈ fix, Fix.Inside made file.source.length) →
        Keeps (fun finding => ∀ found ∈ finding, Finding.Inside found file.source.length)
          (tail fix) := by
      intro fix hfix
      apply Keeps.pure
      intro found hfound
      cases hfound
      exact ⟨hsound.span, hfix⟩
    clear_value tail
    apply Keeps.ite
    . intro _
      exact hsound.fix.bind htail
    . intro _
      exact htail none (by simp)
  . exact keeps_none

theorem reportedAt_keeps {ruleSet : RuleSet}
    (hrules : ∀ kind, ∀ rule ∈ ruleSet.rulesFor kind, rule.Sound)
    {root : Node} {tokens : List Token} {file : BoundFile} (hsited : Sited file.source tokens root)
    {places : List Place} (hplaces : ∀ place ∈ places, place.Within root) :
    Keeps (fun findings => ∀ finding ∈ findings, finding.Inside file.source.length)
      (reportedAt ruleSet file places) := by
  unfold reportedAt
  refine (Keeps.mapM (Q := fun reports => ∀ report ∈ reports, ∀ found ∈ report,
    Finding.Inside found file.source.length) ?_).bind ?_
  . intro place hplace
    apply Keeps.mapM
    intro rule hrule
    exact (hrules place.node.kind rule hrule).check hsited (hplaces place hplace)
  . intro reports hreports
    apply Keeps.pure
    intro finding hfinding
    obtain ⟨report, hreport, heq⟩ := List.mem_filterMap.1 hfinding
    obtain ⟨group, hgroup, hmem⟩ := List.mem_flatten.1 hreport
    exact hreports group hgroup report hmem finding heq

theorem Finding.Inside.find?_eq_none {finding : Finding} {length : Nat} (h : finding.Inside length)
    {fix : Fix} (hfix : finding.fix = some fix) :
    (fix.edits.find? fun edit => !edit.isWithin length) = none := by
  rw [List.find?_eq_none]
  intro edit hedit
  have := h.fix fix hfix edit hedit
  simp [Edit.isWithin, this.start_le_stop, this.stop_le]

theorem Finding.Inside.checkBounds {finding : Finding} {length : Nat} (h : finding.Inside length)
    (path : String) : Keeps (fun _ => True) (finding.checkBounds length path) := by
  have hspan : ¬ length < finding.span.stop := by
    have := h.span
    omega
  unfold Finding.checkBounds
  rw [if_neg hspan]
  dsimp only
  split
  . exact Keeps.pure trivial
  . next fix hfix =>
    rw [h.find?_eq_none hfix]
    exact Keeps.pure trivial

theorem Finding.mem_sorted {finding : Finding} {findings : List Finding} :
    finding ∈ sorted findings ↔ finding ∈ findings := by
  unfold sorted
  apply List.mem_mergeSort

theorem evaluate_keeps {ruleSet : RuleSet}
    (hrules : ∀ kind, ∀ rule ∈ ruleSet.rulesFor kind, rule.Sound) {parsed : Parsed}
    {tokens : List Token} (hsited : Sited parsed.source tokens parsed.root) (table : SymbolTable) :
    Keeps (fun findings => ∀ finding ∈ findings, finding.Inside parsed.source.length)
      (evaluate parsed table ruleSet) := by
  have hplaces : ∀ place ∈ Place.all parsed.root, place.Within parsed.root :=
    fun _ => Place.within_of_mem_all
  unfold evaluate
  extract_lets file
  apply (reportedAt_keeps hrules hsited hplaces).bind
  intro findings hfindings
  refine (Keeps.forM fun finding hmem => (hfindings finding hmem).checkBounds _).bind ?_
  intro _ _
  apply Keeps.pure
  intro finding hmem
  exact hfindings finding (Finding.mem_sorted.1 hmem)

/-! ### The findings of a text -/

theorem Analyzer.exists_ofSettings {settings : Settings}
    (h : RuleSet.unknown (RuleDefinition.catalogue.map (·.id)) settings.disabledRules = []) :
    ∃ analyzer, ofSettings settings = .ok analyzer := by
  obtain ⟨ruleSet, hselected⟩ : ∃ ruleSet, RuleSet.select (some settings.categories)
      settings.disabledRules RuleDefinition.catalogue = .ok ruleSet :=
    RuleSet.exists_select RuleDefinition.catalogue_sound RuleDefinition.catalogue_repeated h
  refine ⟨⟨settings, ruleSet, SymbolTable.builtin settings.symbolEntries⟩, ?_⟩
  unfold ofSettings
  rw [hselected]
  rfl

theorem Analyzer.rulesFor_sound {settings : Settings} {analyzer : Analyzer}
    (h : ofSettings settings = .ok analyzer) (kind : NodeKind) :
    ∀ rule ∈ analyzer.ruleSet.rulesFor kind, rule.Sound := by
  unfold ofSettings at h
  obtain ⟨ruleSet, hselected, h⟩ := bind_eq_ok.1 h
  rw [mapError_eq_ok] at hselected
  cases h
  exact RuleSet.rulesFor_sound RuleDefinition.catalogue_sound hselected kind

theorem SyntaxFault.finding_keeps (fault : SyntaxFault) (text path : String) :
    Keeps (fun finding => finding.Inside text.length) (fault.finding text path) := by
  unfold SyntaxFault.finding
  extract_lets source offset
  have hlength : source.length = text.length := String.length_toList
  have hoffset : offset ≤ source.length := Nat.min_le_right _ _
  apply (Source.span_keeps (Nat.le_refl offset) hoffset).bind
  intro span hspan
  apply Keeps.pure
  constructor
  case span =>
    dsimp only
    omega
  case fix => simp

theorem Analyzer.analyzeText_keeps {analyzer : Analyzer}
    (hrules : ∀ kind, ∀ rule ∈ analyzer.ruleSet.rulesFor kind, rule.Sound) (text path : String) :
    Keeps (fun result => ∀ finding ∈ result.findings, finding.Inside text.length)
      (analyzer.analyzeText text path) := by
  have hparse := parse_keeps text (some path)
  unfold analyzeText
  split
  . next fault _ =>
    apply (fault.finding_keeps text path).bind
    intro finding hfinding
    apply Keeps.pure
    simpa using hfinding
  . next fault _ herror => exact hparse.isPromise_eq_false herror
  . next parsed hparsed =>
    obtain ⟨hsource, tokens, _, hsited⟩ := parse_sited hparsed
    have hlength : parsed.source.length = text.length := by
      rw [hsource]
      exact String.length_toList
    have hrecoveries := recoveryFindings_inside hparsed
    rw [← hlength]
    apply (evaluate_keeps hrules hsited analyzer.table).bind
    intro findings hfindings
    apply Keeps.pure
    intro finding hmem
    dsimp only at hmem
    rw [Finding.mem_sorted, List.mem_append] at hmem
    cases hmem with
    | inl hmem => exact hrecoveries finding hmem
    | inr hmem => exact hfindings finding hmem

/-! ### The fixes of findings -/

theorem Selection.step_keeps {finding : Finding} {length : Nat} (h : finding.Inside length)
    (path : String) (selection : Selection) :
    Keeps (fun _ => True) (step length path selection finding) := by
  unfold step
  split
  . trivial
  . next fix hfix =>
    have hstray : strayEdit? length fix = none := by
      unfold strayEdit?
      rw [List.find?_eq_none]
      intro edit hedit
      have hinside := h.fix fix hfix edit hedit
      have := hinside.start_nonneg
      have := hinside.stop_le
      simp
      omega
    rw [hstray]
    trivial

theorem Outcome.ofFindings_keeps {text : String} {findings : List Finding}
    (h : ∀ finding ∈ findings, finding.Inside text.length) (path : Option String)
    (verified : Bool) : Keeps (fun _ => True) (ofFindings text findings path verified) := by
  have hselection (label : String) :
      Keeps (fun _ => True) (Selection.ofFindings text.length label findings) := by
    apply Keeps.foldlM trivial
    intro selection finding hmem _
    exact Selection.step_keeps (h finding (Finding.mem_sorted.1 hmem)) label selection
  have hverify (fixed label : String) : Keeps (fun _ => True) (verify fixed label path) := by
    have hparse := parse_keeps fixed path
    unfold verify
    split
    . trivial
    . rfl
    . next herror => exact hparse.isPromise_eq_false herror
  unfold ofFindings
  extract_lets label
  apply (hselection label).bind
  intro selection _
  extract_lets fixed made
  apply Keeps.ite
  . intro _
    apply (hverify fixed label).bind
    intro _ _
    exact Keeps.pure trivial
  . intro _
    exact Keeps.pure trivial

/-! ### Promises -/

/--
What is promised of the analysis of a text and of the fixes for what it finds.
-/
structure Analyzer.KeepsPromises (analyzer : Analyzer) (text path : String) : Prop where
  analysis : ∀ fault, analyzer.analyzeText text path = .error fault → fault.isPromise = false
  fixes : ∀ result, analyzer.analyzeText text path = .ok result → ∀ label verified fault,
    Outcome.ofFindings text result.findings label verified = .error fault → fault.isPromise = false
  spans : ∀ result, analyzer.analyzeText text path = .ok result → ∀ finding ∈ result.findings,
    finding.span.start ≤ finding.span.stop ∧ finding.span.stop ≤ text.length
  edits : ∀ result, analyzer.analyzeText text path = .ok result → ∀ finding ∈ result.findings,
    ∀ fix ∈ finding.fix, fix.edits ≠ [] ∧
      (fix.edits.Pairwise fun edit other => edit.conflictsWith other = false) ∧
      ∀ edit ∈ fix.edits, 0 ≤ edit.start ∧ edit.start ≤ edit.stop ∧ edit.stop ≤ text.length
  messages : ∀ parsed, parse text (some path) = .ok parsed → ∀ place ∈ Place.all parsed.root,
    ∀ rule ∈ analyzer.ruleSet.rulesFor place.node.kind, ∀ hit,
      rule.matcher ⟨parsed.source, Binding.ofRoot parsed.root analyzer.table⟩ place
        = .ok (some hit) →
        ∃ message, rule.message.fill hit.values = .ok message

theorem Analyzer.keepsPromises {settings : Settings} {analyzer : Analyzer}
    (h : ofSettings settings = .ok analyzer) (text path : String) :
    analyzer.KeepsPromises text path := by
  have hrules := rulesFor_sound h
  have hkeeps := analyzeText_keeps hrules text path
  constructor
  case analysis =>
    intro fault herror
    exact hkeeps.isPromise_eq_false herror
  case fixes =>
    intro result hresult label verified fault herror
    exact (Outcome.ofFindings_keeps (hkeeps.of_eq_ok hresult) label verified).isPromise_eq_false herror
  case spans =>
    intro result hresult finding hmem
    exact ⟨finding.span.start_le_stop, (hkeeps.of_eq_ok hresult finding hmem).span⟩
  case edits =>
    intro result hresult finding hmem fix hfix
    refine ⟨fix.edits_ne_nil, fix.compatible, ?_⟩
    intro edit hedit
    have hinside := (hkeeps.of_eq_ok hresult finding hmem).fix fix hfix edit hedit
    exact ⟨hinside.start_nonneg, hinside.start_le_stop, hinside.stop_le⟩
  case messages =>
    intro parsed hparsed place hplace rule hrule hit hhit
    obtain ⟨names, hmatcher, hmessage⟩ := hrules _ rule hrule
    obtain ⟨_, tokens, _, hsited⟩ := parse_sited hparsed
    have hsound := (hmatcher hsited (Place.within_of_mem_all hplace)).of_eq_ok hhit hit rfl
    exact Template.fill_eq_ok hmessage hsound.values

/-- A method that is to be renamed, with all its mentions, by some of the rules. -/
theorem Analyzer.keepsPromises_rename :
    ∃ analyzer, ofSettings { (default : Settings) with
        rulesets := Category.all.map fun category => ⟨category.name, category⟩
        disabledRules := ["async-void-entry"] } = .ok analyzer ∧
      analyzer.KeepsPromises "class C \x7b async Task Run() \x7b await Run(); \x7d \x7d" "C.cs" := by
  have hknown :
      RuleSet.unknown (RuleDefinition.catalogue.map (·.id)) ["async-void-entry"] = [] := by
    decide +kernel
  obtain ⟨analyzer, h⟩ : ∃ analyzer, ofSettings { (default : Settings) with
      rulesets := Category.all.map fun category => ⟨category.name, category⟩
      disabledRules := ["async-void-entry"] } = .ok analyzer := exists_ofSettings hknown
  exact ⟨analyzer, h, keepsPromises h _ _⟩

end ThreadLint
