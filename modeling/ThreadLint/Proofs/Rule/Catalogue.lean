import ThreadLint.Proofs.Rule.AsyncNaming
import ThreadLint.Proofs.Rule.Matcher
import ThreadLint.Proofs.Rule.Set
import ThreadLint.Rule.Catalogue

/-!
This module contains that all rules of the catalogue keep their promises, and with them all that are
selected from it.
-/

namespace ThreadLint

/--
What is promised of a finding: it and its fix lie inside the text.
-/
structure Finding.Inside (finding : Finding) (length : Nat) : Prop where
  span : finding.span.stop ≤ length
  fix : ∀ fix ∈ finding.fix, fix.Inside length

/--
Whether a rule keeps its promises: its hits do, and they have a value for each field of its message.
-/
def Rule.Sound (rule : Rule) : Prop :=
  ∃ names, Matcher.Sound rule.matcher names ∧
    rule.message.all (Template.isPlainPiece names) = true

/-! ### Definitions of rules -/

namespace RuleDefinition

/--
Whether all of a definition makes sense, apart from its matcher and the fields of its message.
-/
def makesSense (definition : RuleDefinition) : Bool :=
  isId definition.id && definition.category.isSome && definition.severity.isSome &&
    !definition.kinds.isEmpty && definition.offer != .unusable && !definition.message.isEmpty

theorem rule_eq_ok {definition : RuleDefinition} {matcher : Matcher} {template : Template}
    (hsense : definition.makesSense = true) (hmatcher : definition.matcher = some matcher)
    (htemplate : Template.ofString definition.message = .ok template) :
    ∃ rule, definition.rule = .ok rule ∧ rule.id = definition.id ∧ rule.matcher = matcher ∧
      rule.message = template := by
  simp only [makesSense, Bool.and_eq_true, Option.isSome_iff_exists, bne_iff_ne] at hsense
  obtain ⟨⟨⟨⟨⟨hid, category, hcategory⟩, severity, hseverity⟩, hkinds⟩, hoffer⟩, hmessage⟩ := hsense
  refine ⟨⟨definition.id, category, severity, definition.kinds, matcher, template,
    definition.offer = .offered⟩, ?_, rfl, rfl, rfl⟩
  unfold rule
  simp at hkinds hmessage
  simp [hid, hcategory, hseverity, hkinds, hmatcher, hoffer, hmessage, htemplate, mapError_ok,
    bind, Except.bind, pure, Except.pure]

/--
The rule that a definition stands for if it makes sense.
-/
def asRule (definition : RuleDefinition) : Rule where
  id := definition.id
  category := definition.category.getD default
  severity := definition.severity.getD default
  kinds := definition.kinds
  matcher := definition.matcher.getD fun _ _ => .ok none
  message := (Template.ofString definition.message).toOption.getD []
  offersFixes := definition.offer = .offered

theorem eq_asRule_of_rule {definition : RuleDefinition} {rule : Rule}
    (h : definition.rule = .ok rule) :
    rule = definition.asRule ∧ definition.matcher = some rule.matcher := by
  have h := rule_eq_ok_iff.1 h
  refine ⟨?_, h.matcher_eq⟩
  obtain ⟨id, category, severity, kinds, matcher, message, offersFixes⟩ := rule
  obtain ⟨_, rfl, hcategory, hseverity, _, rfl, hmatcher, _, rfl, _, hmessage⟩ := h
  simp [asRule, hcategory, hseverity, hmatcher, hmessage, Except.toOption]

/--
Whether a definition stands for a rule that keeps its promises.
-/
def Sound (definition : RuleDefinition) : Prop :=
  ∃ rule, definition.rule = .ok rule ∧ rule.id = definition.id ∧ rule.Sound

theorem sound_of {definition : RuleDefinition} {matcher : Matcher} {names : List String}
    (hsense : definition.makesSense = true) (hmatcher : definition.matcher = some matcher)
    (hsound : Matcher.Sound matcher names)
    (hmessage : Template.isPlain names definition.message = true) : definition.Sound := by
  obtain ⟨template, htemplate, hplain⟩ := Template.exists_of_isPlain hmessage
  obtain ⟨rule, hrule, hid, rfl, rfl⟩ := rule_eq_ok hsense hmatcher htemplate
  exact ⟨rule, hrule, hid, names, hsound, hplain⟩

end RuleDefinition

/-! ### Sets of rules -/

theorem RuleSet.rulesFor_sound {categories : Option (List Category)} {disabled : List String}
    {definitions : List RuleDefinition} {ruleSet : RuleSet}
    (hdefinitions : ∀ definition ∈ definitions, definition.Sound)
    (h : select categories disabled definitions = .ok ruleSet) (kind : NodeKind) :
    ∀ rule ∈ ruleSet.rulesFor kind, rule.Sound := by
  obtain ⟨rules, wanted, hrules, rfl⟩ := select_eq_ok h
  rw [rulesFor_ofRules]
  intro rule hrule
  have hmem := (List.mem_filter.1 (List.mem_filter.1 hrule).1).1
  obtain ⟨definition, hmem, hdefinition⟩ := exists_of_mem_mapM hrules rule hmem
  obtain ⟨rule', hrule', _, hsound⟩ := hdefinitions definition hmem
  rw [hdefinition] at hrule'
  cases hrule'
  exact hsound

theorem RuleDefinition.exists_rules {definitions : List RuleDefinition}
    (h : ∀ definition ∈ definitions, definition.Sound) :
    ∃ rules, definitions.mapM rule = .ok rules ∧ rules.map Rule.id = definitions.map (·.id) := by
  induction definitions with
  | nil => exact ⟨[], rfl, rfl⟩
  | cons definition rest ih =>
    rw [List.forall_mem_cons] at h
    obtain ⟨first, hfirst, hid, _⟩ := h.1
    obtain ⟨rules, hrules, hids⟩ := ih h.2
    refine ⟨first :: rules, ?_, ?_⟩
    . rw [List.mapM_cons, hfirst, hrules]
      rfl
    . rw [List.map_cons, List.map_cons, hid, hids]

/-- Only names that occur twice or are unknown keep a set from being selected. -/
theorem RuleSet.exists_select {categories : Option (List Category)} {disabled : List String}
    {definitions : List RuleDefinition}
    (hdefinitions : ∀ definition ∈ definitions, definition.Sound)
    (hrepeated : repeated (definitions.map (·.id)) = [])
    (hunknown : unknown (definitions.map (·.id)) disabled = []) :
    ∃ ruleSet, select categories disabled definitions = .ok ruleSet := by
  obtain ⟨rules, hrules, hids⟩ := RuleDefinition.exists_rules hdefinitions
  unfold select
  rw [hrules]
  simp only [bind, Except.bind, hids, hrepeated, hunknown]
  exact ⟨_, rfl⟩

theorem RuleDefinition.catalogue_repeated : RuleSet.repeated (catalogue.map (·.id)) = [] := by
  decide +kernel

/-- All definitions of the catalogue make sense. -/
theorem RuleDefinition.catalogue_sound : ∀ definition ∈ catalogue, definition.Sound := by
  simp only [catalogue, List.forall_mem_cons]
  refine ⟨?_, ?_, ?_, ?_, ?_, ?_, ?_, ?_, ?_, ?_, by simp⟩
  . exact sound_of (by decide +kernel) rfl BlockingWait.matcher_sound
      (Template.isPlain_of_chars rfl (by decide +kernel))
  . exact sound_of (by decide +kernel) rfl CommandHandler.matcher_sound
      (Template.isPlain_of_chars rfl (by decide +kernel))
  . exact sound_of (by decide +kernel) rfl UnobservedResult.matcher_sound
      (Template.isPlain_of_chars rfl (by decide +kernel))
  . exact sound_of (by decide +kernel) rfl AsyncVoid.matcher_sound
      (Template.isPlain_of_chars rfl (by decide +kernel))
  . exact sound_of (by decide +kernel) rfl ServiceLookup.matcher_sound
      (Template.isPlain_of_chars rfl (by decide +kernel))
  . exact sound_of (by decide +kernel) rfl PackageBase.matcher_sound
      (by decide +kernel)
  . exact sound_of (by decide +kernel) rfl BackgroundLoad.matcher_sound
      (Template.isPlain_of_chars rfl (by decide +kernel))
  . exact sound_of (by decide +kernel) rfl ConstructorLookup.matcher_sound
      (Template.isPlain_of_chars rfl (by decide +kernel))
  . exact sound_of (by decide +kernel) rfl AsyncNaming.matcher_sound
      (Template.isPlain_of_chars rfl (by decide +kernel))
  . exact sound_of (by decide +kernel) rfl VisualResource.matcher_sound
      (Template.isPlain_of_chars rfl (by decide +kernel))

end ThreadLint
