import Mathlib.Data.List.Nodup
import Mathlib.Data.List.Pairwise
import Mathlib.Data.String.Basic
import ThreadLint.Proofs.Analysis
import ThreadLint.Proofs.Rule.Mark

/-!
This module contains the order of findings: two of them are equal in it only if they share their key,
and findings with different keys have one order whatever the order is in which they come. It also
contains the theorem that the order in which the findings of a text come does not matter for what
becomes of their fixes, as no two findings with a fix share their key.
-/

namespace ThreadLint

/-! ### The order of findings -/

theorem Severity.rank_inj {severity other : Severity} (h : severity.rank = other.rank) :
    severity = other := by
  cases severity
  all_goals
    cases other
    all_goals simp_all [Severity.rank]

namespace Finding

/--
What the order of findings looks at.
-/
def key (finding : Finding) : Nat × Severity × String × Nat :=
  (finding.span.start, finding.severity, finding.rule, finding.span.stop)

/--
Whether two findings do not share their key if both have a fix.
-/
def IsApart (finding other : Finding) : Prop :=
  finding.fix.isSome = true → other.fix.isSome = true → finding.key ≠ other.key

instance : Std.Symm IsApart :=
  ⟨fun _ _ h hother hfinding heq => h hfinding hother heq.symm⟩

theorem precedes_iff {finding other : Finding} :
    finding.precedes other = true ↔
      finding.span.start < other.span.start ∨ finding.span.start = other.span.start ∧
        (other.severity.rank < finding.severity.rank ∨
          finding.severity.rank = other.severity.rank ∧
            (finding.rule < other.rule ∨
              finding.rule = other.rule ∧ finding.span.stop ≤ other.span.stop)) := by
  unfold precedes
  split
  . next hstart =>
    rw [decide_eq_true_eq]
    simp [show finding.span.start ≠ other.span.start from hstart]
  . next hstart =>
    have hstart : finding.span.start = other.span.start := by simpa using hstart
    split
    . next hrank =>
      rw [decide_eq_true_eq]
      simp [hstart, show finding.severity.rank ≠ other.severity.rank from hrank]
    . next hrank =>
      have hrank : finding.severity.rank = other.severity.rank := by simpa using hrank
      split
      . next hrule =>
        rw [decide_eq_true_eq]
        simp [hstart, hrank, show finding.rule ≠ other.rule from hrule]
      . next hrule =>
        have hrule : finding.rule = other.rule := by simpa using hrule
        rw [decide_eq_true_eq]
        simp [hstart, hrank, hrule]

theorem precedes_trans (first second third : Finding) (h : first.precedes second = true)
    (h' : second.precedes third = true) : first.precedes third = true := by
  rw [precedes_iff] at *
  rcases h with h | ⟨hstart, h⟩
  . left
    omega
  rcases h' with h' | ⟨hstart', h'⟩
  . left
    omega
  refine .inr ⟨hstart.trans hstart', ?_⟩
  rcases h with h | ⟨hrank, h⟩
  . left
    omega
  rcases h' with h' | ⟨hrank', h'⟩
  . left
    omega
  refine .inr ⟨hrank.trans hrank', ?_⟩
  rcases h with h | ⟨hrule, h⟩
  . rcases h' with h' | ⟨hrule', _⟩
    . exact .inl (lt_trans h h')
    . exact .inl (hrule' ▸ h)
  rcases h' with h' | ⟨hrule', h'⟩
  . exact .inl (hrule ▸ h')
  . exact .inr ⟨hrule.trans hrule', Nat.le_trans h h'⟩

theorem precedes_total (finding other : Finding) :
    (finding.precedes other || other.precedes finding) = true := by
  rw [Bool.or_eq_true, precedes_iff, precedes_iff]
  rcases lt_trichotomy finding.span.start other.span.start with h | hstart | h
  . exact .inl (.inl h)
  . rcases lt_trichotomy finding.severity.rank other.severity.rank with h | hrank | h
    . exact .inr (.inr ⟨hstart.symm, .inl h⟩)
    . rcases lt_trichotomy finding.rule other.rule with h | hrule | h
      . exact .inl (.inr ⟨hstart, .inr ⟨hrank, .inl h⟩⟩)
      . rcases Nat.le_total finding.span.stop other.span.stop with h | h
        . exact .inl (.inr ⟨hstart, .inr ⟨hrank, .inr ⟨hrule, h⟩⟩⟩)
        . exact .inr (.inr ⟨hstart.symm, .inr ⟨hrank.symm, .inr ⟨hrule.symm, h⟩⟩⟩)
      . exact .inr (.inr ⟨hstart.symm, .inr ⟨hrank.symm, .inl h⟩⟩)
    . exact .inl (.inr ⟨hstart, .inl h⟩)
  . exact .inr (.inl h)

theorem key_eq_of_precedes {finding other : Finding} (h : finding.precedes other = true)
    (h' : other.precedes finding = true) : finding.key = other.key := by
  rw [precedes_iff] at *
  have hstart : finding.span.start = other.span.start := by omega
  have h := (h.resolve_left (by omega)).2
  have h' := (h'.resolve_left (by omega)).2
  have hrank : finding.severity.rank = other.severity.rank := by omega
  have h := (h.resolve_left (by omega)).2
  have h' := (h'.resolve_left (by omega)).2
  have hrule : finding.rule = other.rule := by
    rcases h with h | h
    . rcases h' with h' | h'
      . exact absurd h (lt_asymm h')
      . exact h'.1.symm
    . exact h.1
  have hstop : finding.span.stop = other.span.stop := by
    have h := (h.resolve_left (by rw [hrule]; exact lt_irrefl _)).2
    have h' := (h'.resolve_left (by rw [hrule]; exact lt_irrefl _)).2
    omega
  simp only [key, hstart, Severity.rank_inj hrank, hrule, hstop]

/-- The findings with a fix have one order if no two of them share their key. -/
theorem filter_sorted_of_perm {findings others : List Finding} (hperm : others.Perm findings)
    (hapart : findings.Pairwise IsApart) :
    (sorted others).filter (fun finding => finding.fix.isSome) =
      (sorted findings).filter fun finding => finding.fix.isSome := by
  have hsorted (findings : List Finding) : ((sorted findings).filter fun finding =>
      finding.fix.isSome).Pairwise fun finding other => finding.precedes other = true :=
    (List.pairwise_mergeSort precedes_trans precedes_total findings).filter _
  have hmem {findings : List Finding} {finding : Finding} (h : finding ∈ (sorted findings).filter
      fun finding => finding.fix.isSome) : finding ∈ findings ∧ finding.fix.isSome = true := by
    rw [List.mem_filter] at h
    exact ⟨(List.mergeSort_perm findings precedes).mem_iff.1 h.1, h.2⟩
  refine List.Perm.eq_of_pairwise ?_ (hsorted others) (hsorted findings) ?_
  . intro finding other hfinding hother h h'
    obtain ⟨hfinding, hfix⟩ := hmem hfinding
    obtain ⟨hother, hfix'⟩ := hmem hother
    by_contra hne
    have hfinding := hperm.mem_iff.1 hfinding
    exact hapart.forall hfinding hother hne hfix hfix' (key_eq_of_precedes h h')
  . apply List.Perm.filter
    have hsort := List.mergeSort_perm findings precedes
    exact ((List.mergeSort_perm others precedes).trans hperm).trans hsort.symm

end Finding

/-! ### The order of findings and the outcome -/

theorem Selection.step_of_no_fix {finding : Finding} (length : Nat) (path : String)
    (selection : Selection) (h : finding.fix.isSome = false) :
    step length path selection finding = .ok selection := by
  unfold step
  have hnone : finding.fix = none := by simpa using h
  rw [hnone]

theorem Selection.foldlM_step_filter (length : Nat) (path : String) (findings : List Finding)
    (selection : Selection) :
    (findings.filter fun finding => finding.fix.isSome).foldlM (step length path) selection =
      findings.foldlM (step length path) selection := by
  induction findings generalizing selection with
  | nil => rfl
  | cons finding rest ih =>
    cases hfix : finding.fix.isSome with
    | true =>
      rw [List.filter_cons_of_pos (by simpa using hfix), List.foldlM_cons, List.foldlM_cons]
      congr
      funext selection
      exact ih selection
    | false =>
      rw [List.filter_cons_of_neg (by simp [hfix]), List.foldlM_cons,
        step_of_no_fix length path selection hfix, ih]
      rfl

theorem Selection.ofFindings_perm {findings others : List Finding} (hperm : others.Perm findings)
    (hapart : findings.Pairwise Finding.IsApart) (length : Nat) (path : String) :
    ofFindings length path others = ofFindings length path findings := by
  unfold ofFindings
  rw [← foldlM_step_filter, Finding.filter_sorted_of_perm hperm hapart, foldlM_step_filter]

theorem Outcome.ofFindings_perm {findings others : List Finding} (hperm : others.Perm findings)
    (hapart : findings.Pairwise Finding.IsApart) (text : String) (path : Option String)
    (verified : Bool) :
    ofFindings text others path verified = ofFindings text findings path verified := by
  unfold ofFindings
  simp only [Selection.ofFindings_perm hperm hapart]

/-- Where nothing is found, the text stays as it is. -/
example : (Outcome.ofFindings "a" [] none true).toOption.map (·.text) = some "a" := by
  decide +kernel

/-! ### Rules that tell their findings apart -/

theorem RuleDefinition.of_rule_eq_ok {definition : RuleDefinition} {rule : Rule}
    (h : definition.rule = .ok rule) :
    rule.id = definition.id ∧ rule.kinds = definition.kinds ∧
      definition.matcher = some rule.matcher ∧
      (rule.offersFixes = true → definition.offer = .offered) := by
  have h := rule_eq_ok_iff.1 h
  refine ⟨h.id_eq, h.kinds_eq, h.matcher_eq, ?_⟩
  rw [h.offersFixes_eq]
  exact of_decide_eq_true

/--
Whether no two fixable findings of the rules of a set lie between the same ends: rules with the same
name are the same rule, and each of them tells its findings apart.
-/
structure RuleSet.TellsApart (ruleSet : RuleSet) : Prop where
  ids : ∀ kind, (ruleSet.rulesFor kind).Pairwise fun rule other => rule.id ≠ other.id
  kinds : ∀ kind, ∀ rule ∈ ruleSet.rulesFor kind, kind ≠ .otherStmt ∧ kind ∈ rule.kinds
  matchers : ∀ kind, ∀ rule ∈ ruleSet.rulesFor kind, rule.offersFixes = true →
    rule.matcher.TellsApart rule.kinds
  same : ∀ kind, ∀ rule ∈ ruleSet.rulesFor kind, ∀ kind', ∀ other ∈ ruleSet.rulesFor kind',
    rule.id = other.id → rule.matcher = other.matcher ∧ rule.kinds = other.kinds

theorem RuleDefinition.catalogue_ids : (catalogue.map (·.id)).Nodup := by
  decide

theorem RuleDefinition.catalogue_kinds :
    ∀ definition ∈ catalogue, NodeKind.otherStmt ∉ definition.kinds := by
  simp only [catalogue, List.forall_mem_cons]
  decide

theorem RuleSet.tellsApart_of_select {categories : Option (List Category)}
    {disabled : List String} {ruleSet : RuleSet}
    (h : select categories disabled RuleDefinition.catalogue = .ok ruleSet) :
    ruleSet.TellsApart := by
  obtain ⟨rules, wanted, hrules, rfl⟩ := select_eq_ok h
  have hids : rules.Pairwise fun rule other => rule.id ≠ other.id := by
    have hcatalogue := List.pairwise_map.1 RuleDefinition.catalogue_ids
    apply pairwise_of_mapM hrules hcatalogue
    intro definition _ definition' _ hne rule rule' hrule hrule'
    rw [(RuleDefinition.of_rule_eq_ok hrule).1, (RuleDefinition.of_rule_eq_ok hrule').1]
    exact hne
  have hmem {kind : NodeKind} {rule : Rule}
      (h : rule ∈ (ofRules (rules.filter wanted)).rulesFor kind) :
      kind ∈ rule.kinds ∧ ∃ definition ∈ RuleDefinition.catalogue, definition.rule = .ok rule := by
    rw [rulesFor_ofRules, List.mem_filter, List.mem_filter] at h
    exact ⟨of_decide_eq_true h.2, exists_of_mem_mapM hrules rule h.1.1⟩
  constructor
  case ids =>
    intro kind
    rw [rulesFor_ofRules]
    exact (hids.filter _).filter _
  case kinds =>
    intro kind rule hrule
    obtain ⟨hkind, definition, hdefinition, heq⟩ := hmem hrule
    refine ⟨?_, hkind⟩
    rintro rfl
    rw [(RuleDefinition.of_rule_eq_ok heq).2.1] at hkind
    exact RuleDefinition.catalogue_kinds definition hdefinition hkind
  case matchers =>
    intro kind rule hrule hoffers
    obtain ⟨_, definition, hdefinition, heq⟩ := hmem hrule
    obtain ⟨_, hkinds, hmatcher, hoffer⟩ := RuleDefinition.of_rule_eq_ok heq
    rw [hkinds]
    exact RuleDefinition.catalogue_tellsApart definition hdefinition (hoffer hoffers) _ hmatcher
  case same =>
    intro kind rule hrule kind' other hother hid
    obtain ⟨_, definition, hdefinition, heq⟩ := hmem hrule
    obtain ⟨_, definition', hdefinition', heq'⟩ := hmem hother
    obtain ⟨hid', hkinds, hmatcher, _⟩ := RuleDefinition.of_rule_eq_ok heq
    obtain ⟨hid'', hkinds', hmatcher', _⟩ := RuleDefinition.of_rule_eq_ok heq'
    have hsame : definition.id = definition'.id := by
      rw [← hid', hid, hid'']
    have hdefinitions : definition = definition' :=
      List.inj_on_of_nodup_map RuleDefinition.catalogue_ids hdefinition hdefinition' hsame
    subst hdefinitions
    rw [hmatcher] at hmatcher'
    exact ⟨Option.some.inj hmatcher', hkinds.trans hkinds'.symm⟩

/-! ### Findings of a text -/

theorem Rule.check_eq_ok {rule : Rule} {file : BoundFile} {place : Place} {finding : Finding}
    (h : rule.check file place = .ok (some finding)) :
    finding.rule = rule.id ∧ ∃ hit, rule.matcher file place = .ok (some hit) ∧
      finding.span = hit.span ∧
      ∀ fix, finding.fix = some fix → rule.offersFixes = true ∧ hit.fix = .ok (some fix) := by
  unfold Rule.check at h
  obtain ⟨hit, hhit, h⟩ := bind_eq_ok.1 h
  split at h
  . next hit =>
    obtain ⟨message, _, h⟩ := bind_eq_ok.1 h
    split at h
    . next hoffers =>
      obtain ⟨fix, hfix, h⟩ := bind_eq_ok.1 h
      cases h
      refine ⟨rfl, hit, hhit, rfl, ?_⟩
      rintro made rfl
      exact ⟨hoffers, hfix⟩
    . cases h
      exact ⟨rfl, hit, hhit, rfl, by simp⟩
  . cases h

theorem RuleSet.TellsApart.check {ruleSet : RuleSet} (h : ruleSet.TellsApart) {root : Node}
    {tokens : List Token} {file : BoundFile} (hsited : Sited file.source tokens root)
    {place other : Place} (hplace : place.Within root) (hother : other.Within root)
    (horder : Parser.InOrder place.node other.node) {rule rule' : Rule}
    (hrule : rule ∈ ruleSet.rulesFor place.node.kind)
    (hrule' : rule' ∈ ruleSet.rulesFor other.node.kind) {finding finding' : Finding}
    (hcheck : rule.check file place = .ok (some finding))
    (hcheck' : rule'.check file other = .ok (some finding')) : finding.IsApart finding' := by
  intro hfix hfix' hkey
  obtain ⟨fix, hfix⟩ := Option.isSome_iff_exists.1 hfix
  obtain ⟨fix', hfix'⟩ := Option.isSome_iff_exists.1 hfix'
  obtain ⟨hid, hit, hhit, hspan, hfixes⟩ := Rule.check_eq_ok hcheck
  obtain ⟨hid', hit', hhit', hspan', hfixes'⟩ := Rule.check_eq_ok hcheck'
  obtain ⟨hkind, hkinds⟩ := h.kinds _ rule hrule
  obtain ⟨hkind', hkinds'⟩ := h.kinds _ rule' hrule'
  simp only [Finding.key, Prod.mk.injEq] at hkey
  have hsame : rule.id = rule'.id := by
    rw [← hid, ← hid', hkey.2.2.1]
  obtain ⟨hmatcher, hrules⟩ := h.same _ rule hrule _ rule' hrule' hsame
  rw [← hmatcher] at hhit'
  rw [← hrules] at hkinds'
  obtain ⟨hoffers, hfix⟩ := hfixes fix hfix
  apply h.matchers _ rule hrule hoffers hsited hplace hother hkinds hkinds' (horder hkind hkind')
    hhit hfix hhit' (hfixes' fix' hfix').2
  rw [← hspan, ← hspan', Span.extent, Span.extent, hkey.1, hkey.2.2.2]

theorem reportedAt_apart {ruleSet : RuleSet} (h : ruleSet.TellsApart) {root : Node}
    {tokens : List Token} {file : BoundFile} (hsited : Sited file.source tokens root)
    {findings : List Finding} (hreported : reportedAt ruleSet file (Place.all root) = .ok findings) :
    findings.Pairwise Finding.IsApart := by
  unfold reportedAt at hreported
  obtain ⟨reports, hreports, hreported⟩ := bind_eq_ok.1 hreported
  cases hreported
  rw [List.pairwise_filterMap, List.pairwise_flatten]
  constructor
  . intro report hreport
    obtain ⟨place, _, hreport⟩ := exists_of_mem_mapM hreports report hreport
    apply pairwise_of_mapM hreport (h.ids place.node.kind)
    rintro rule _ rule' _ hne _ _ hcheck hcheck' finding rfl finding' rfl _ _ hkey
    simp only [Finding.key, Prod.mk.injEq] at hkey
    apply hne
    rw [← (Rule.check_eq_ok hcheck).1, ← (Rule.check_eq_ok hcheck').1, hkey.2.2.1]
  . apply pairwise_of_mapM hreports hsited.pairwise_inOrder
    rintro place hplace other hother horder report report' hreport hreport' _ hcheck _ hcheck'
      finding rfl finding' rfl
    obtain ⟨rule, hrule, hcheck⟩ := exists_of_mem_mapM hreport _ hcheck
    obtain ⟨rule', hrule', hcheck'⟩ := exists_of_mem_mapM hreport' _ hcheck'
    exact h.check hsited (Place.within_of_mem_all hplace) (Place.within_of_mem_all hother) horder
      hrule hrule' hcheck hcheck'

theorem evaluate_perm {parsed : Parsed} {table : SymbolTable} {ruleSet : RuleSet}
    {findings : List Finding} (hfindings : evaluate parsed table ruleSet = .ok findings) :
    ∃ reported, reportedAt ruleSet ⟨parsed.source, Binding.ofRoot parsed.root table⟩
      (Place.all parsed.root) = .ok reported ∧ findings.Perm reported := by
  unfold evaluate at hfindings
  obtain ⟨reported, hreported, hfindings⟩ := bind_eq_ok.1 hfindings
  obtain ⟨_, _, hfindings⟩ := bind_eq_ok.1 hfindings
  cases hfindings
  exact ⟨reported, hreported, List.mergeSort_perm _ _⟩

theorem Analyzer.analyzeText_perm {analyzer : Analyzer} {text path : String} {result : FileResult}
    (hresult : analyzer.analyzeText text path = .ok result) {parsed : Parsed}
    (hparsed : parse text (some path) = .ok parsed) :
    ∃ reported, reportedAt analyzer.ruleSet
      ⟨parsed.source, Binding.ofRoot parsed.root analyzer.table⟩ (Place.all parsed.root) =
        .ok reported ∧ result.findings.Perm (parsed.recoveryFindings ++ reported) := by
  unfold analyzeText at hresult
  rw [hparsed] at hresult
  obtain ⟨findings, hfindings, hresult⟩ := bind_eq_ok.1 hresult
  cases hresult
  obtain ⟨reported, hreported, hperm⟩ := evaluate_perm hfindings
  exact ⟨reported, hreported, (List.mergeSort_perm _ _).trans (hperm.append_left _)⟩

theorem Parsed.fix_of_mem_recoveryFindings {parsed : Parsed} {finding : Finding}
    (h : finding ∈ parsed.recoveryFindings) : finding.fix = none := by
  obtain ⟨recovery, _, rfl⟩ := List.mem_map.1 h
  rfl

theorem Analyzer.analyzeText_apart {analyzer : Analyzer} (h : analyzer.ruleSet.TellsApart)
    {text path : String} {result : FileResult}
    (hresult : analyzer.analyzeText text path = .ok result) :
    result.findings.Pairwise Finding.IsApart := by
  have hanalyzed := hresult
  unfold analyzeText at hresult
  split at hresult
  . obtain ⟨finding, _, hresult⟩ := bind_eq_ok.1 hresult
    cases hresult
    exact List.pairwise_singleton _ _
  . cases hresult
  . next parsed hparsed =>
    obtain ⟨_, tokens, _, hsited⟩ := parse_sited hparsed
    obtain ⟨reported, hreported, hperm⟩ := analyzeText_perm hanalyzed hparsed
    have hapart (finding : Finding) (hfinding : finding ∈ parsed.recoveryFindings)
        (other : Finding) : finding.IsApart other := by
      intro hfix
      rw [Parsed.fix_of_mem_recoveryFindings hfinding] at hfix
      cases hfix
    apply (hperm.pairwise_iff (Std.Symm.symm _ _)).2
    rw [List.pairwise_append]
    refine ⟨?_, reportedAt_apart h hsited hreported, ?_⟩
    . exact List.pairwise_of_forall_mem_list fun finding hfinding other _ =>
        hapart finding hfinding other
    . exact fun finding hfinding other _ => hapart finding hfinding other

/--
Whatever order the findings of a text come in, the same becomes of their fixes, as no two findings
with a fix share their key.
-/
theorem Analyzer.fixes_orderIndependent {settings : Settings} {analyzer : Analyzer}
    (h : ofSettings settings = .ok analyzer) {text path : String} {result : FileResult}
    (hresult : analyzer.analyzeText text path = .ok result) :
    (result.findings.Pairwise fun finding other =>
      finding.fix.isSome = true → other.fix.isSome = true → finding.key ≠ other.key) ∧
    ∀ findings, findings.Perm result.findings → ∀ label verified,
      Outcome.ofFindings text findings label verified =
        Outcome.ofFindings text result.findings label verified := by
  unfold ofSettings at h
  obtain ⟨ruleSet, hselected, h⟩ := bind_eq_ok.1 h
  rw [mapError_eq_ok] at hselected
  cases h
  have hapart := analyzeText_apart (RuleSet.tellsApart_of_select hselected) hresult
  refine ⟨hapart, ?_⟩
  intro findings hperm label verified
  exact Outcome.ofFindings_perm hperm hapart text label verified

/-- A handler that is to return a task and a method that is to be renamed, told in the other order. -/
theorem Analyzer.fixes_orderIndependent_reverse :
    ∃ analyzer result, ofSettings { (default : Settings) with
        rulesets := Category.all.map fun category => ⟨category.name, category⟩ } = .ok analyzer ∧
      let text := "class C \x7b async void M(object o, EventArgs e) \x7b \x7d async Task N() \x7b \x7d \x7d"
      analyzer.analyzeText text "A.cs" = .ok result ∧
        result.findings.countP (fun finding => finding.fix.isSome) = 2 ∧
        Outcome.ofFindings text result.findings.reverse none true =
          Outcome.ofFindings text result.findings none true := by
  have hrun :
      ((ofSettings { (default : Settings) with
          rulesets := Category.all.map fun category => ⟨category.name, category⟩ }).toOption.bind
        fun analyzer =>
          let text :=
            "class C \x7b async void M(object o, EventArgs e) \x7b \x7d async Task N() \x7b \x7d \x7d"
          (analyzer.analyzeText text "A.cs").toOption.bind fun _ =>
            (parse text (some "A.cs")).toOption.bind fun parsed =>
              let file : BoundFile := ⟨parsed.source, Binding.ofRoot parsed.root analyzer.table⟩
              (reportedAt analyzer.ruleSet file (Place.all parsed.root)).toOption.map
                fun reported => (parsed.recoveryFindings ++ reported).countP
                  fun finding => finding.fix.isSome) = some 2 := by
    decide +kernel
  obtain ⟨analyzer, h, hrun⟩ := Option.bind_eq_some_iff.mp hrun
  obtain ⟨result, hresult, hrun⟩ := Option.bind_eq_some_iff.mp hrun
  obtain ⟨parsed, hparsed, hrun⟩ := Option.bind_eq_some_iff.mp hrun
  obtain ⟨reported, hreported, hcount⟩ := Option.map_eq_some_iff.mp hrun
  have h := eq_ok_of_toOption h
  have hresult := eq_ok_of_toOption hresult
  obtain ⟨reported', hreported', hperm⟩ := analyzeText_perm hresult (eq_ok_of_toOption hparsed)
  rw [eq_ok_of_toOption hreported] at hreported'
  cases hreported'
  exact ⟨analyzer, result, h, hresult, (hperm.countP_eq _).trans hcount,
    (fixes_orderIndependent h hresult).2 _ (List.reverse_perm _) none true⟩

end ThreadLint
