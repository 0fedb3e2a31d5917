import Mathlib.Data.List.Forall2
import Mathlib.Data.List.Nodup
import ThreadLint.Proofs.Except
import ThreadLint.Proofs.Stable
import ThreadLint.Rule.Set

/-!
This module contains what a definition of a rule must have in order to stand for a rule, and what is
selected from definitions: exactly the rules of those that are wanted, with an index by the kinds of
nodes that leaves out none of them.
-/

namespace ThreadLint

/-! ### Lists of results -/

theorem mapM_eq_ok {α β ε : Type} {f : α → Except ε β} {items : List α} {results : List β} :
    items.mapM f = .ok results ↔ List.Forall₂ (fun a b => f a = .ok b) items results := by
  induction items generalizing results with
  | nil =>
    rw [List.forall₂_nil_left_iff]
    exact ⟨fun h => (Except.ok.inj h).symm, fun h => h ▸ rfl⟩
  | cons item rest ih =>
    rw [List.mapM_cons, bind_eq_ok, List.forall₂_cons_left_iff]
    constructor
    . rintro ⟨first, hfirst, h⟩
      obtain ⟨others, hothers, h⟩ := bind_eq_ok.1 h
      exact ⟨first, others, hfirst, ih.1 hothers, (Except.ok.inj h).symm⟩
    . rintro ⟨first, others, hfirst, hothers, rfl⟩
      exact ⟨first, hfirst, bind_eq_ok.2 ⟨others, ih.2 hothers, rfl⟩⟩

/-! ### Definitions of rules -/

namespace RuleDefinition

/--
Whether a definition stands for a rule: each part of the definition makes sense, and the rule has
them all.
-/
structure Defines (definition : RuleDefinition) (rule : Rule) : Prop where
  isId : isId definition.id = true
  id_eq : rule.id = definition.id
  category_eq : definition.category = some rule.category
  severity_eq : definition.severity = some rule.severity
  kinds_ne_nil : definition.kinds ≠ []
  kinds_eq : rule.kinds = definition.kinds
  matcher_eq : definition.matcher = some rule.matcher
  offer_ne : definition.offer ≠ .unusable
  offersFixes_eq : rule.offersFixes = decide (definition.offer = .offered)
  message_ne : definition.message ≠ ""
  message_eq : Template.ofString definition.message = .ok rule.message

theorem rule_eq_ok_iff {definition : RuleDefinition} {rule : Rule} :
    definition.rule = .ok rule ↔ definition.Defines rule := by
  constructor
  . intro h
    unfold RuleDefinition.rule at h
    obtain ⟨hid, h⟩ := throw_unless_eq_ok.1 h
    split at h
    . next category hcategory =>
      split at h
      . next severity hseverity =>
        obtain ⟨hkinds, h⟩ := throw_unless_eq_ok.1 h
        split at h
        . next matcher hmatcher =>
          obtain ⟨hoffer, h⟩ := throw_unless_eq_ok.1 h
          obtain ⟨hempty, h⟩ := throw_unless_eq_ok.1 h
          obtain ⟨message, hmessage, h⟩ := bind_eq_ok.1 h
          rw [mapError_eq_ok] at hmessage
          cases h
          exact {
            isId := by simpa using hid
            id_eq := rfl
            category_eq := hcategory
            severity_eq := hseverity
            kinds_ne_nil := by simpa using hkinds
            kinds_eq := rfl
            matcher_eq := hmatcher
            offer_ne := hoffer
            offersFixes_eq := rfl
            message_ne := by simpa using hempty
            message_eq := hmessage
          }
        . cases h
      . cases h
    . cases h
  . intro h
    obtain ⟨id, category, severity, kinds, matcher, message, offersFixes⟩ := rule
    obtain ⟨hid, rfl, hcategory, hseverity, hkinds, rfl, hmatcher, hoffer, rfl, hempty, hmessage⟩ := h
    unfold RuleDefinition.rule
    simp [hid, hcategory, hseverity, hkinds, hmatcher, hoffer, hempty, hmessage, bind, Except.bind,
      pure, Except.pure]

end RuleDefinition

/-! ### The index of a set -/

theorem RuleIndex.lookup_insert (index : RuleIndex) (kind other : NodeKind) (rule : Rule) :
    (index.insert kind rule).lookup other =
      index.lookup other ++ if other = kind then [rule] else [] := by
  induction index with
  | nil =>
    rw [RuleIndex.insert]
    unfold RuleIndex.lookup
    by_cases h : other = kind
    . simp [h]
    . simp [h, List.lookup_cons, beq_eq_false_iff_ne.mpr h]
  | cons first rest ih =>
    obtain ⟨found, rules⟩ := first
    unfold RuleIndex.lookup at ih ⊢
    rw [RuleIndex.insert]
    split
    . next hfound =>
      rw [List.lookup_cons, List.lookup_cons, hfound]
      by_cases h : other = kind
      . simp [h]
      . simp [h, beq_eq_false_iff_ne.mpr h]
    . next hfound =>
      rw [List.lookup_cons, List.lookup_cons]
      by_cases h : other = found
      . simp [h, hfound]
      . simp [beq_eq_false_iff_ne.mpr h, ih]

theorem RuleIndex.lookup_insertAll (index : RuleIndex) (rule : Rule) (kind : NodeKind) :
    (index.insertAll rule).lookup kind =
      index.lookup kind ++ if kind ∈ rule.kinds then [rule] else [] := by
  have hfold {kinds : List NodeKind} (hkinds : kinds.Nodup) (index : RuleIndex) :
      (kinds.foldl (fun index kind => index.insert kind rule) index).lookup kind =
        index.lookup kind ++ if kind ∈ kinds then [rule] else [] := by
    induction kinds generalizing index with
    | nil => simp
    | cons first rest ih =>
      rw [List.nodup_cons] at hkinds
      rw [List.foldl_cons, ih hkinds.2, RuleIndex.lookup_insert, List.append_assoc]
      by_cases h : kind = first
      . simp [h, hkinds.1]
      . simp [h]
  unfold RuleIndex.insertAll
  rw [hfold (nodup_eraseDups rule.kinds)]
  simp only [List.mem_eraseDups]

/-- A set asks its rules for a kind of node in their order, and each of them once. -/
theorem RuleSet.rulesFor_ofRules (rules : List Rule) (kind : NodeKind) :
    (ofRules rules).rulesFor kind = rules.filter fun rule => decide (kind ∈ rule.kinds) := by
  have hfold (index : RuleIndex) :
      (rules.foldl RuleIndex.insertAll index).lookup kind =
        index.lookup kind ++ rules.filter fun rule => decide (kind ∈ rule.kinds) := by
    induction rules generalizing index with
    | nil => simp
    | cons rule rest ih =>
      rw [List.foldl_cons, ih, RuleIndex.lookup_insertAll, List.append_assoc]
      by_cases h : kind ∈ rule.kinds
      . simp [h]
      . simp [h]
  exact hfold []

/-! ### Selection -/

theorem RuleSet.repeated_eq_nil_iff {ids : List String} : repeated ids = [] ↔ ids.Nodup := by
  rw [repeated, ← List.length_eq_zero_iff, List.length_mergeSort, List.length_eq_zero_iff,
    List.filter_eq_nil_iff, List.nodup_iff_count_eq_one]
  simp only [List.mem_eraseDups, decide_eq_true_eq, Nat.not_lt]
  apply forall₂_congr
  intro id hid
  have hpos := List.count_pos_iff.2 hid
  omega

theorem RuleSet.unknown_eq_nil_iff {known ids : List String} :
    unknown known ids = [] ↔ ∀ id ∈ ids, id ∈ known := by
  rw [unknown, ← List.length_eq_zero_iff, List.length_mergeSort, List.length_eq_zero_iff,
    List.filter_eq_nil_iff]
  simp

/--
Whether a rule of a category and with a name is wanted.
-/
def RuleSet.isWanted (categories : Option (List Category)) (disabled : List String)
    (category : Category) (id : String) : Bool :=
  (match categories with
    | some categories => categories.contains category
    | none => true) && !disabled.contains id

/-- A set is selected once all definitions stand for rules, no name occurs twice and none is unknown. -/
theorem RuleSet.select_eq_ok_iff {categories : Option (List Category)} {disabled : List String}
    {definitions : List RuleDefinition} {ruleSet : RuleSet} :
    select categories disabled definitions = .ok ruleSet ↔
      ∃ rules, definitions.mapM RuleDefinition.rule = .ok rules ∧ (rules.map Rule.id).Nodup ∧
        (∀ id ∈ disabled, id ∈ rules.map Rule.id) ∧
        ruleSet = ofRules (rules.filter fun rule =>
          isWanted categories disabled rule.category rule.id) := by
  unfold select
  rw [bind_eq_ok]
  apply exists_congr
  intro rules
  apply and_congr_right
  intro _
  extract_lets ids wanted made known
  have hmade : made () = .ok ruleSet ↔ ruleSet = ofRules (rules.filter wanted) :=
    ⟨fun h => (Except.ok.inj h).symm, fun h => h ▸ rfl⟩
  rw [← repeated_eq_nil_iff, ← unknown_eq_nil_iff]
  change _ ↔ repeated ids = [] ∧ unknown ids disabled = [] ∧ ruleSet = ofRules (rules.filter wanted)
  rw [← hmade]
  clear_value made ids
  simp only [known]
  cases repeated ids with
  | cons first others => simp [throw, throwThe, MonadExceptOf.throw, bind, Except.bind]
  | nil =>
    cases unknown ids disabled with
    | cons first others => simp [throw, throwThe, MonadExceptOf.throw, bind, Except.bind]
    | nil => simp

theorem RuleSet.select_eq_ok {categories : Option (List Category)} {disabled : List String}
    {definitions : List RuleDefinition} {ruleSet : RuleSet}
    (h : select categories disabled definitions = .ok ruleSet) :
    ∃ rules wanted, definitions.mapM RuleDefinition.rule = .ok rules ∧
      ruleSet = ofRules (rules.filter wanted) := by
  obtain ⟨rules, hrules, _, _, hset⟩ := select_eq_ok_iff.1 h
  exact ⟨rules, _, hrules, hset⟩

/-! ### What is selected -/

/--
Whether a definition is of one of the categories and not disabled.
-/
def RuleDefinition.isWanted (categories : Option (List Category)) (disabled : List String)
    (definition : RuleDefinition) : Bool :=
  definition.category.any fun category => RuleSet.isWanted categories disabled category definition.id

theorem RuleDefinition.Defines.isWanted_eq {definition : RuleDefinition} {rule : Rule}
    (h : definition.Defines rule) (categories : Option (List Category)) (disabled : List String) :
    definition.isWanted categories disabled =
      RuleSet.isWanted categories disabled rule.category rule.id := by
  rw [isWanted, h.category_eq, h.id_eq]
  rfl

theorem RuleDefinition.map_id_of_defines {definitions : List RuleDefinition} {rules : List Rule}
    (h : List.Forall₂ Defines definitions rules) :
    rules.map Rule.id = definitions.map (·.id) := by
  induction h with
  | nil => rfl
  | cons hfirst _ ih => rw [List.map_cons, List.map_cons, hfirst.id_eq, ih]

/-- Rules with distinct names are found by them. -/
theorem Rule.find?_id_eq_some_iff {rules : List Rule} (hnodup : (rules.map Rule.id).Nodup)
    {id : String} {rule : Rule} :
    rules.find? (·.id == id) = some rule ↔ rule ∈ rules ∧ rule.id = id := by
  constructor
  . intro h
    exact ⟨List.mem_of_find?_eq_some h, by simpa using List.find?_some h⟩
  . rintro ⟨hmem, rfl⟩
    have hsome : (rules.find? (·.id == rule.id)).isSome = true :=
      List.find?_isSome.2 ⟨rule, hmem, beq_self_eq_true _⟩
    obtain ⟨found, hfound⟩ := Option.isSome_iff_exists.1 hsome
    have hid : found.id = rule.id := by simpa using List.find?_some hfound
    rw [hfound, List.inj_on_of_nodup_map hnodup (List.mem_of_find?_eq_some hfound) hmem hid]

/--
Whether a set has the rules of some definitions in their order, each with its own name, and can be
asked for them by their kinds of nodes and by their names.
-/
structure RuleSet.IsOf (ruleSet : RuleSet) (definitions : List RuleDefinition) : Prop where
  defines : List.Forall₂ RuleDefinition.Defines definitions ruleSet.rules
  ids_eq : ruleSet.ids = definitions.map (·.id)
  ids_nodup : ruleSet.ids.Nodup
  rulesFor_eq : ∀ kind, ruleSet.rulesFor kind =
    ruleSet.rules.filter fun rule => decide (kind ∈ rule.kinds)
  rulesFor_nodup : ∀ kind, ((ruleSet.rulesFor kind).map Rule.id).Nodup
  contains_iff : ∀ id, ruleSet.contains id = true ↔ id ∈ ruleSet.ids
  get?_eq_some_iff : ∀ id rule, ruleSet.get? id = some rule ↔ rule ∈ ruleSet.rules ∧ rule.id = id
  get?_isSome_iff : ∀ id, (ruleSet.get? id).isSome = true ↔ id ∈ ruleSet.ids

theorem RuleSet.isOf_ofRules {definitions : List RuleDefinition} {rules : List Rule}
    (hrules : List.Forall₂ RuleDefinition.Defines definitions rules)
    (hnodup : (rules.map Rule.id).Nodup) : (ofRules rules).IsOf definitions := by
  have hids (id : String) : id ∈ (ofRules rules).ids ↔ ∃ rule ∈ rules, rule.id = id := List.mem_map
  constructor
  case defines => exact hrules
  case ids_eq => exact RuleDefinition.map_id_of_defines hrules
  case ids_nodup => exact hnodup
  case rulesFor_eq => exact rulesFor_ofRules rules
  case rulesFor_nodup =>
    intro kind
    rw [rulesFor_ofRules]
    exact hnodup.sublist (List.filter_sublist.map Rule.id)
  case contains_iff =>
    intro id
    rw [hids, contains, List.any_eq_true]
    simp only [beq_iff_eq]
    rfl
  case get?_eq_some_iff =>
    intro id rule
    exact Rule.find?_id_eq_some_iff hnodup
  case get?_isSome_iff =>
    intro id
    rw [hids, get?, List.find?_isSome]
    simp only [beq_iff_eq]
    rfl

/--
A set is selected exactly if all definitions stand for rules, even those that are not wanted, their
names are distinct, and each disabled name is one of them. The set is then that of the wanted
definitions.
-/
theorem RuleSet.select_exact (categories : Option (List Category)) (disabled : List String)
    (definitions : List RuleDefinition) :
    ((∃ ruleSet, select categories disabled definitions = .ok ruleSet) ↔
      (∀ definition ∈ definitions, ∃ rule, definition.Defines rule) ∧
        (definitions.map (·.id)).Nodup ∧ ∀ id ∈ disabled, id ∈ definitions.map (·.id)) ∧
    ∀ ruleSet, select categories disabled definitions = .ok ruleSet →
      ruleSet.IsOf (definitions.filter (·.isWanted categories disabled)) := by
  constructor
  . have hids {rules : List Rule} (h : definitions.mapM RuleDefinition.rule = .ok rules) :
        rules.map Rule.id = definitions.map (·.id) :=
      RuleDefinition.map_id_of_defines ((mapM_eq_ok.1 h).imp fun _ _ => RuleDefinition.rule_eq_ok_iff.1)
    simp only [← RuleDefinition.rule_eq_ok_iff]
    rw [← exists_mapM_eq_ok]
    constructor
    . rintro ⟨ruleSet, h⟩
      obtain ⟨rules, hrules, hnodup, hknown, _⟩ := select_eq_ok_iff.1 h
      rw [hids hrules] at hnodup hknown
      exact ⟨⟨rules, hrules⟩, hnodup, hknown⟩
    . rintro ⟨⟨rules, hrules⟩, hnodup, hknown⟩
      rw [← hids hrules] at hnodup hknown
      exact ⟨_, select_eq_ok_iff.2 ⟨rules, hrules, hnodup, hknown, rfl⟩⟩
  . intro ruleSet h
    obtain ⟨rules, hrules, hnodup, _, rfl⟩ := select_eq_ok_iff.1 h
    rw [mapM_eq_ok] at hrules
    have hdefines : List.Forall₂ RuleDefinition.Defines definitions rules :=
      hrules.imp fun _ _ => RuleDefinition.rule_eq_ok_iff.1
    apply isOf_ofRules
    . apply List.rel_filter _ hdefines
      intro definition rule hrule
      show definition.isWanted categories disabled = true ↔ _
      rw [hrule.isWanted_eq]
    . exact hnodup.sublist (List.filter_sublist.map Rule.id)

end ThreadLint
