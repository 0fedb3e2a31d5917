import ThreadLint.Proofs.Binding.Unknown
import ThreadLint.Proofs.Bounds
import ThreadLint.Proofs.Builtin

/-!
This module contains what the built-in rules report if no symbol is known: a name that the table does
not know never leads to a finding, so only the rules that need no symbol are left.
-/

namespace ThreadLint

/-! ### Computations that have a result -/

/--
Whether a computation can go wrong only by breaking a promise.
-/
def OnlyPromises {α : Type} (result : Except Fault α) : Prop :=
  ∀ fault, result = .error fault → fault.isPromise = true

theorem Keeps.exists_eq_ok {α : Type} {P : α → Prop} {result : Except Fault α} (h : Keeps P result)
    (hpromises : OnlyPromises result) : ∃ a, result = .ok a ∧ P a := by
  cases result with
  | error fault =>
    have hnot := h.isPromise_eq_false rfl
    rw [hpromises fault rfl] at hnot
    cases hnot
  | ok a => exact ⟨a, rfl, h⟩

namespace OnlyPromises

variable {α β : Type} {result : Except Fault α}

theorem ok (a : α) : OnlyPromises (.ok a) := by
  intro fault h
  cases h

theorem bind {next : α → Except Fault β} (h : OnlyPromises result)
    (hnext : ∀ a, result = .ok a → OnlyPromises (next a)) : OnlyPromises (result >>= next) := by
  cases result with
  | error fault =>
    intro other hother
    cases hother
    exact h fault rfl
  | ok a => exact hnext a rfl

theorem mapM {f : α → Except Fault β} {items : List α} (h : ∀ a ∈ items, OnlyPromises (f a)) :
    OnlyPromises (items.mapM f) := by
  induction items with
  | nil => exact ok []
  | cons a items ih =>
    rw [List.forall_mem_cons] at h
    rw [List.mapM_cons]
    apply h.1.bind
    intro b _
    apply (ih h.2).bind
    intro results _
    exact ok _

theorem promise (kind : BrokenPromise) (path : Option String) :
    OnlyPromises (.error (.promise kind path) : Except Fault α) := by
  intro fault h
  cases h
  rfl

theorem span (source : Source) (start stop : Int) : OnlyPromises (source.span start stop) := by
  unfold Source.span Span.ofBounds
  split
  . exact ok _
  . exact promise _ _

theorem some_ofEdits (description : String) (edits : List Edit) :
    OnlyPromises (some <$> Fix.ofEdits description edits) := by
  unfold Fix.ofEdits
  split
  . split
    . exact ok _
    . exact promise _ _
  . exact promise _ _

end OnlyPromises

/-! ### Rules that need no symbol -/

/--
Whether neither what a rule finds nor the fix for it can go wrong other than by breaking a promise.
-/
def Answers (result : Except Fault (Option Hit)) : Prop :=
  OnlyPromises result ∧ ∀ hit, result = .ok (some hit) → OnlyPromises hit.fix

namespace Answers

theorem none : Answers (pure .none) := by
  refine ⟨.ok _, ?_⟩
  intro hit hhit
  cases hhit

theorem ite {c : Prop} [Decidable c] {first second : Except Fault (Option Hit)}
    (hfirst : Answers first) (hsecond : Answers second) :
    Answers (if c then first else second) := by
  split
  . exact hfirst
  . exact hsecond

theorem span {source : Source} {start stop : Int} {values : List (String × String)}
    {fix : Except Fault (Option Fix)} (h : OnlyPromises fix) :
    Answers (source.span start stop >>= fun span => pure (some ⟨span, values, fix⟩)) := by
  constructor
  . exact (OnlyPromises.span source start stop).bind fun _ _ => .ok _
  . intro hit hhit
    obtain ⟨_, _, hhit⟩ := bind_eq_ok.1 hhit
    cases hhit
    exact h

variable (file : BoundFile) (place : Place)

theorem asyncVoid : Answers (AsyncVoid.matcher file place) := by
  unfold AsyncVoid.matcher
  split
  . apply ite none
    split
    . exact ite none (span (.some_ofEdits _ _))
    . exact none
  . exact none

theorem asyncNaming : Answers (AsyncNaming.matcher file place) := by
  unfold AsyncNaming.matcher
  split
  . split
    . refine ite none (ite none (span ?_))
      unfold AsyncNaming.fix
      extract_lets renamed scope declaration
      split
      . exact .ok _
      . exact .some_ofEdits _ _
    . exact none
  . exact none

theorem unobservedResult : Answers (UnobservedResult.matcher file place) := by
  unfold UnobservedResult.matcher
  split
  . split
    . apply span
      split
      . exact .some_ofEdits _ _
      . exact .ok _
    . exact none
  . exact none

end Answers

/-! ### Rules that need a symbol -/

section

variable {root : Node} {file : BoundFile} (h : file.binding = .unknowing root) (place : Place)

include h

theorem BlockingWait.matcher_unknowing : matcher file place = .ok none := by
  have hreported (entry : Option SymbolEntry) : isReported file place entry = false := by
    unfold isReported Binding.tagsAt
    rw [h, Binding.contains_tags_unknowing (by decide)]
    rfl
  unfold matcher
  dsimp only
  rw [hreported]
  rfl

theorem CommandHandler.matcher_unknowing : matcher file place = .ok none := by
  unfold matcher
  dsimp only
  split
  . unfold Binding.tagsAt
    rw [h, Binding.contains_tags_unknowing (by decide)]
    rfl
  . rfl

theorem ServiceLookup.lookupCall?_unknowing (expression : Node) :
    lookupCall? file expression = none := by
  unfold lookupCall?
  rw [h, Option.filter_eq_none_iff]
  intro call _
  rw [Binding.isCallTagged_unknowing (by decide)]
  exact Bool.false_ne_true

theorem ServiceLookup.matcher_unknowing : matcher file place = .ok none := by
  have hservice (part : Node) : service? file part = none := by
    unfold service?
    split
    . simp only [lookupCall?_unknowing h]
      cases part.children.head? <;> rfl
    . rfl
  unfold matcher
  split
  . unfold matchDeclaration
    split
    . simp only [hservice, List.filterMap_none, List.find?_nil]
      split <;> rfl
    . rfl
  . unfold matchAccess
    split
    . split
      . rfl
      . cases place.node.children.head? with
        | none => rfl
        | some child => rw [Option.bind_some, lookupCall?_unknowing h]; rfl
    . rfl

theorem PackageBase.matcher_unknowing : matcher file place = .ok none := by
  have hbase (head : TypeHead) : oldBase? file.binding.scope head = none := by
    unfold oldBase?
    rw [List.findSome?_eq_none_iff]
    rintro ⟨⟨written, extent⟩, entry⟩ hmem
    obtain ⟨base, _, hentry⟩ := List.mem_map.1 (List.of_mem_zip hmem).2
    rw [h, Scope.lookup_eq_none Binding.table_unknowing] at hentry
    cases hentry
    rfl
  unfold matcher
  split
  . rw [hbase]
    rfl
  . rfl

theorem BackgroundLoad.matcher_unknowing : matcher file place = .ok none := by
  unfold matcher
  split
  . next head _ =>
    have hnot : (file.binding.traits head).capabilities.contains .backgroundLoad = false := by
      rw [← Bool.not_eq_true, List.contains_iff_mem, h]
      exact Binding.not_mem_capabilities_unknowing head _
    rw [hnot]
    rfl
  . rfl

theorem ConstructorLookup.matcher_unknowing : matcher file place = .ok none := by
  unfold matcher Binding.tagsAt
  dsimp only
  rw [h, Binding.contains_tags_unknowing (by decide)]
  rfl

theorem VisualResource.matcher_unknowing : matcher file place = .ok none := by
  unfold matcher Binding.tagsAt
  dsimp only
  split
  . rw [h, Binding.contains_tags_unknowing (by decide)]
    rfl
  . rfl

end

/--
The rules that need no symbol.
-/
def RuleDefinition.unknowing : List String :=
  [AsyncVoid.rule.id, AsyncNaming.rule.id, UnobservedResult.rule.id]

/-- Without symbols a rule finds nothing, unless it is one of those that need none. -/
theorem RuleDefinition.matcher_unknowing {root : Node} {file : BoundFile}
    (h : file.binding = .unknowing root) (place : Place) {definition : RuleDefinition}
    (hmem : definition ∈ catalogue) {matcher : Matcher} (hmatcher : definition.matcher = some matcher) :
    Answers (matcher file place) ∧
      (matcher file place = .ok none ∨ definition.id ∈ unknowing) := by
  have hnone {result : Except Fault (Option Hit)} (h : result = .ok none) :
      Answers result ∧ (result = .ok none ∨ definition.id ∈ unknowing) :=
    ⟨h ▸ .none, .inl h⟩
  -- one case for each rule, in the order of the catalogue
  simp only [catalogue, List.mem_cons, List.not_mem_nil, or_false] at hmem
  rcases hmem with rfl | rfl | rfl | rfl | rfl | rfl | rfl | rfl | rfl | rfl <;> cases hmatcher
  . exact hnone (BlockingWait.matcher_unknowing h place)
  . exact hnone (CommandHandler.matcher_unknowing h place)
  . exact ⟨.unobservedResult file place, .inr (by decide)⟩
  . exact ⟨.asyncVoid file place, .inr (by decide)⟩
  . exact hnone (ServiceLookup.matcher_unknowing h place)
  . exact hnone (PackageBase.matcher_unknowing h place)
  . exact hnone (BackgroundLoad.matcher_unknowing h place)
  . exact hnone (ConstructorLookup.matcher_unknowing h place)
  . exact ⟨.asyncNaming file place, .inr (by decide)⟩
  . exact hnone (VisualResource.matcher_unknowing h place)

/-! ### Findings -/

theorem Rule.exists_check {rule : Rule} (hsound : rule.Sound) {root : Node} {tokens : List Token}
    {file : BoundFile} {place : Place} (hsited : Sited file.source tokens root)
    (hplace : place.Within root) (h : Answers (rule.matcher file place)) :
    ∃ finding, rule.check file place = .ok finding := by
  obtain ⟨names, hmatcher, hmessage⟩ := hsound
  obtain ⟨found, hfound, hhits⟩ := (hmatcher hsited hplace).exists_eq_ok h.1
  unfold check
  rw [hfound]
  cases found with
  | none => exact ⟨none, rfl⟩
  | some hit =>
    obtain ⟨message, hfill⟩ := Template.fill_eq_ok hmessage (hhits hit rfl).values
    obtain ⟨fix, hfix, _⟩ := (hhits hit rfl).fix.exists_eq_ok (h.2 hit hfound)
    simp only [bind, Except.bind, hfill, mapError_ok, hfix]
    split <;> exact ⟨_, rfl⟩

theorem reportedAt_unknowing {categories : Option (List Category)} {disabled : List String}
    {ruleSet : RuleSet}
    (hselected : RuleSet.select categories disabled RuleDefinition.catalogue = .ok ruleSet)
    {root : Node} {tokens : List Token} {file : BoundFile} (hsited : Sited file.source tokens root)
    (h : file.binding = .unknowing root) {places : List Place}
    (hplaces : ∀ place ∈ places, place.Within root) :
    ∃ findings, reportedAt ruleSet file places = .ok findings ∧
      (∀ finding ∈ findings, finding.Inside file.source.length) ∧
      ∀ finding ∈ findings, finding.rule ∈ RuleDefinition.unknowing := by
  have hsound := RuleSet.rulesFor_sound RuleDefinition.catalogue_sound hselected
  have hpromises : OnlyPromises (reportedAt ruleSet file places) := by
    unfold reportedAt
    refine OnlyPromises.bind (.mapM fun place hplace => .mapM fun rule hrule => ?_) fun _ _ => .ok _
    obtain ⟨_, definition, hdefinition, hmade⟩ := RuleSet.exists_of_mem_rulesFor hselected hrule
    obtain ⟨_, _, hmatcher, _⟩ := RuleDefinition.of_rule_eq_ok hmade
    obtain ⟨finding, hfinding⟩ := Rule.exists_check (hsound _ rule hrule) hsited
      (hplaces place hplace) (RuleDefinition.matcher_unknowing h place hdefinition hmatcher).1
    rw [hfinding]
    exact .ok _
  obtain ⟨findings, hfindings, hinside⟩ :=
    (reportedAt_keeps hsound hsited hplaces).exists_eq_ok hpromises
  refine ⟨findings, hfindings, hinside, ?_⟩
  intro finding hmem
  obtain ⟨place, _, rule, hrule, hcheck⟩ := RuleSet.exists_check_of_mem_reportedAt hfindings hmem
  obtain ⟨_, definition, hdefinition, hmade⟩ := RuleSet.exists_of_mem_rulesFor hselected hrule
  obtain ⟨hid, _, hmatcher, _⟩ := RuleDefinition.of_rule_eq_ok hmade
  obtain ⟨hrule, hit, hhit, _⟩ := Rule.check_eq_ok hcheck
  rw [hrule, hid]
  refine (RuleDefinition.matcher_unknowing h place hdefinition hmatcher).2.resolve_left ?_
  rw [hhit]
  simp

/--
If no symbol is known, the findings of built-in rules are about handlers of events that return nothing,
names of methods whose result is awaited, and results that nobody awaits.
-/
theorem evaluate_unknowing {text : String} {path : Option String} {parsed : Parsed}
    (hparsed : parse text path = .ok parsed) {categories : Option (List Category)}
    {disabled : List String} {ruleSet : RuleSet}
    (hselected : RuleSet.select categories disabled RuleDefinition.catalogue = .ok ruleSet) :
    ∃ findings, evaluate parsed (.ofEntries []) ruleSet = .ok findings ∧
      ∀ finding ∈ findings, finding.rule ∈
        ["async-void-entry", "async-method-naming", "unobserved-async-result"] := by
  obtain ⟨_, tokens, _, hsited⟩ := parse_sited hparsed
  obtain ⟨findings, hfindings, hinside, hrules⟩ :
      ∃ findings, reportedAt ruleSet ⟨parsed.source, .unknowing parsed.root⟩
          (Place.all parsed.root) = .ok findings ∧
        (∀ finding ∈ findings, finding.Inside parsed.source.length) ∧
        ∀ finding ∈ findings, finding.rule ∈ RuleDefinition.unknowing :=
    reportedAt_unknowing hselected hsited rfl fun _ => Place.within_of_mem_all
  have hbounds : (findings.forM fun finding =>
      finding.checkBounds parsed.source.length parsed.source.path) = .ok () := by
    rw [forM_eq_ok]
    intro finding hmem
    obtain ⟨hspan, hfix⟩ := hinside finding hmem
    refine Finding.checkBounds_eq_ok.2 ⟨hspan, fun fix hmade edit hedit => ?_⟩
    have hedit := hfix fix hmade edit hedit
    exact ⟨hedit.start_le_stop, hedit.stop_le⟩
  refine ⟨Finding.sorted findings, ?_, fun finding hmem => hrules _ (Finding.mem_sorted.1 hmem)⟩
  exact bind_eq_ok.2 ⟨findings, hfindings, bind_eq_ok.2 ⟨(), hbounds, rfl⟩⟩

/-- A file in which each of the three rules finds something. -/
theorem evaluate_unknowing_three :
    ∃ parsed findings,
      parse "class C \x7b async void H(object s, EventArgs e); public Task N(); void M() \x7b N(); \x7d \x7d"
          none = .ok parsed ∧
        RuleSet.select (some Category.all) [] RuleDefinition.catalogue
          = .ok Analyzer.unrestricted.ruleSet ∧
        evaluate parsed (.ofEntries []) Analyzer.unrestricted.ruleSet = .ok findings ∧
        findings.length = 3 ∧
        ∀ finding ∈ findings, finding.rule ∈
          ["async-void-entry", "async-method-naming", "unobserved-async-result"] := by
  have hrun :
      ((parse "class C \x7b async void H(object s, EventArgs e); public Task N(); void M() \x7b N(); \x7d \x7d"
          none).toOption.bind fun parsed =>
        (reportedAt Analyzer.unrestricted.ruleSet
          ⟨parsed.source, Binding.ofRoot parsed.root (.ofEntries [])⟩
          (Place.all parsed.root)).toOption.map List.length) = some 3 := by
    decide +kernel
  obtain ⟨parsed, hparsed, hrun⟩ := Option.bind_eq_some_iff.mp hrun
  obtain ⟨reported, hreported, hcount⟩ := Option.map_eq_some_iff.mp hrun
  have hparsed := eq_ok_of_toOption hparsed
  have hreported := eq_ok_of_toOption hreported
  have hselected : RuleSet.select (some Category.all) [] RuleDefinition.catalogue
      = .ok Analyzer.unrestricted.ruleSet :=
    RuleSet.select_all RuleDefinition.catalogue_sound RuleDefinition.catalogue_repeated
  obtain ⟨findings, hfindings, hrules⟩ := evaluate_unknowing hparsed hselected
  refine ⟨parsed, findings, hparsed, hselected, hfindings, ?_, hrules⟩
  obtain ⟨others, hothers, hperm⟩ := evaluate_perm hfindings
  rw [hreported] at hothers
  cases hothers
  rw [hperm.length_eq, hcount]

end ThreadLint
