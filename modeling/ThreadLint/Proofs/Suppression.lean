import ThreadLint.Proofs.Builtin
import ThreadLint.Proofs.Grammar.Made
import ThreadLint.Proofs.Tree.Block
import ThreadLint.Proofs.Tree.Walk

/-!
This module contains when a wait on the UI thread is not reported: exactly if a call that switches
to that thread comes before it, in a block around it inside its function. Such a call ends in front
of the wait and lies in the same function. Both lie in code, which holds nothing but code: below a
statement or an expression there is no member of a type other than a function, no type, and nothing
that types stand in.
-/

namespace ThreadLint

/-! ### Code -/

namespace Node

/--
Whether a node and all nodes below it are code.
-/
def IsCode (node : Node) : Prop :=
  ∀ other ∈ node.preorder, other.form.isOutside = false

/--
Whether nodes and all nodes below them are code.
-/
def AreCode (nodes : List Node) : Prop :=
  ∀ node ∈ nodes, node.IsCode

theorem isCode_iff {node : Node} :
    node.IsCode ↔ node.form.isOutside = false ∧ AreCode node.children :=
  forall_mem_preorder (P := fun node => node.form.isOutside = false)

end Node

open Node

theorem builds_isCode : Builds Node.IsCode Node.IsCode where
  part h := h
  made {node} hform hchildren := by
    rw [Form.isPlain, Bool.and_eq_true, Bool.not_eq_true'] at hform
    exact isCode_iff.2 ⟨hform.1, hchildren⟩
  designated _ h :=
    have hparts := isCode_iff.1 h
    isCode_iff.2 hparts

/--
Whether the constructs of a grammar that code is made of are code.
-/
structure Grammar.IsCode (g : Grammar) : Prop where
  expression : g.expression.Yields Node.IsCode
  operand : g.operand.Yields Node.IsCode
  operation : ∀ least, (g.operation least).Yields Node.IsCode
  pattern : ∀ designated, (g.pattern designated).Yields Node.IsCode
  contents : g.contents.Yields AreCode
  statement : g.statement.Yields Node.IsCode
  embedded : g.embedded.Yields Node.IsCode

theorem Grammar.IsCode.makes {g : Grammar} (hg : g.IsCode) : g.Makes Node.IsCode Node.IsCode where
  toBuilds := builds_isCode
  expression := hg.expression
  operand := hg.operand
  pattern := hg.pattern
  contents := hg.contents
  statement := hg.statement
  embedded := hg.embedded

namespace Parser

variable {g : Grammar} (hg : g.IsCode)

include hg

theorem operation_yields (least : Nat) : Yields (operation g least) Node.IsCode := by
  refine .skip fun first => hg.makes.operand_yields.bind fun left hleft => ?_
  refine loop_yields Node.IsCode (fun left hleft => .skip fun found => ?_) hleft
  have hmade {form : Form} (right : Node) (hform : form.isOutside = false) (hright : right.IsCode) :
      Yields (do return .more (← node form first [left, right]))
        (Progress.Keeps Node.IsCode Node.IsCode) := by
    refine (node_yields first fun node h h' => ?_).bind fun _ h => .pure h
    exact isCode_iff.2 ⟨h ▸ hform, h' ▸ each_cons.2 ⟨hleft, .one hright⟩⟩
  obtain _ | ⟨op, width⟩ := found
  . exact .pure hleft
  refine .ite (.pure hleft) (.skip fun _ => .skip fun _ => .ite (.skip fun _ => ?_) ?_)
  . extract_lets -underBinder whole
    have hwhole (negated : Bool) :
        Yields (whole negated) (Progress.Keeps Node.IsCode Node.IsCode) :=
      (hg.makes.pattern_yields _).bind fun right h => hmade right rfl h
    exact .ite (.skip fun _ => hwhole _) (hwhole _)
  . exact (hg.operation _).bind fun right h => hmade right rfl h

theorem embedded_yields : Yields (embedded g) Node.IsCode :=
  hg.makes.embedded_yields (operation_yields hg 0)

end Parser

open ThreadLint.Parser

theorem Grammar.exhausted_isCode : exhausted.IsCode := by
  constructor
  all_goals
    intros
    exact .stopWith .exhausted

theorem Grammar.IsCode.layer {g : Grammar} (hg : g.IsCode) : (layer g).IsCode :=
  have made := hg.makes.layer (operation_yields hg 0)
  { made with operation := operation_yields hg }

theorem Grammar.ofDepth_isCode (depth : Nat) : (ofDepth depth).IsCode := by
  induction depth with
  | zero => exact exhausted_isCode
  | succ depth ih => exact ih.layer

/-! ### Blocks of a tree -/

section

variable {source : Source} {tokens : List Token} {root block : Node} (h : Sited source tokens root)
  (hmem : block ∈ root.preorder) (hkind : block.kind = .block)

include h hmem hkind

/-- The statements of a block are code. -/
theorem Sited.isCode_of_block : Node.AreCode block.children := by
  obtain ⟨first, stop, _, _, behind, hstatements, _⟩ :=
    (h.located hmem (by simp [hkind])).of_block hkind
  intro statement hstatement
  obtain ⟨_, _, _, _, first, _, _, _, _, depth, hread⟩ :=
    hstatements.of_mem (fun _ _ _ => Flush.le) hstatement
  exact embedded_yields (Grammar.ofDepth_isCode depth) _ _ _ _ hread

/-- What stands in a statement of a block ends in front of what stands in a later one. -/
theorem Sited.stop_le_of_block {i j : Nat} {statement later node other : Node} (hlt : j < i)
    (hstatement : block.children[j]? = some statement) (hlater : block.children[i]? = some later)
    (hnode : node ∈ statement.preorder) (hother : other ∈ later.preorder)
    (hkinds : node.kind ≠ .otherStmt ∧ other.kind ≠ .otherStmt) :
    node.extent.stop ≤ other.extent.start := by
  have := h.lawful
  obtain ⟨first, stop, hkept⟩ := h.located hmem (by simp [hkind])
  have hbelow {i : Nat} {statement : Node} (hstatement : block.children[i]? = some statement) :
      statement ∈ root.preorder :=
    Node.mem_preorder_of_mem_children hmem (List.mem_of_getElem? hstatement)
  have hin := h.extent_le_of_mem_preorder (hbelow hstatement) hnode hkinds.1
  have hin' := h.extent_le_of_mem_preorder (hbelow hlater) hother hkinds.2
  have hle : statement.extent.stop ≤ later.extent.start := by
    obtain ⟨hj, rfl⟩ := List.getElem?_eq_some_iff.1 hstatement
    obtain ⟨hi, rfl⟩ := List.getElem?_eq_some_iff.1 hlater
    exact List.pairwise_iff_getElem.1 hkept.children_laid.pairwise j i hj hi hlt
  omega

end

/-! ### Switches in front of a place -/

theorem Node.isFunction_eq_false {node : Node} (hcode : node.form.isOutside = false)
    (hdeferred : node.isDeferred = false) : node.kind.isFunction = false := by
  unfold isDeferred kind at hdeferred
  unfold kind
  cases hform : node.form
  all_goals simp_all [Form.kind, Form.isOutside, NodeKind.isFunction]

/--
Whether a place is a call that switches to the UI thread and comes before another place: it lies
outside of lambdas and local functions in a statement of a block, and the other place in a later
statement of that block and in the same function as the block.
-/
structure Binding.SwitchesBefore (binding : Binding) (call place : Place) : Prop where
  kind_eq : call.node.kind = .callExpr
  tag_mem : .uiThreadSwitch ∈ binding.tagsAt call
  apart : ∃ block outer inner inner' i j,
    block.kind = .block ∧ j < i ∧ place.above = inner ++ ⟨block, i⟩ :: outer ∧
      call.above = inner' ++ ⟨block, j⟩ :: outer ∧
      (∀ step ∈ inner, step.parent.kind.isFunction = false) ∧
      ∀ step ∈ inner', step.parent.isDeferred = false

theorem Binding.isCallTagged_iff {binding : Binding} {tag : SymbolTag} {place : Place} :
    binding.isCallTagged tag place.node = true ↔
      place.node.kind = .callExpr ∧ tag ∈ binding.tagsAt place := by
  unfold isCallTagged tagsAt tags
  rw [Bool.and_eq_true, beq_iff_eq, List.contains_iff_mem]
  apply and_congr_right
  intro hkind
  unfold Node.kind at hkind
  cases hform : place.node.form
  all_goals simp_all [Form.kind]

section

variable {source : Source} {tokens : List Token} {root : Node} {place : Place} {binding : Binding}
  (hplace : place ∈ Place.all root)

include hplace

/-- What the rules look for in front of a place is there exactly if such a call comes before it. -/
theorem Binding.precededBy_iff :
    place.precededBy (binding.makesCallTagged .uiThreadSwitch) = true ↔
      ∃ call ∈ Place.all root, binding.SwitchesBefore call place := by
  rw [Place.precededBy_iff]
  constructor
  . rintro ⟨inner, block, i, outer, habove, hblock, hinner, j, statement, hlt, hstatement, htest⟩
    unfold makesCallTagged at htest
    rw [Bool.and_eq_true, Bool.not_eq_true', Node.walkLocal_eq, List.any_eq_true] at htest
    obtain ⟨hdeferred, call, hcall, htagged⟩ := htest
    obtain ⟨_, steps, hsteps, hnone⟩ := (Node.mem_localPreorder_iff hdeferred).1 hcall
    rw [Place.mem_all_iff, habove] at hplace
    obtain ⟨_, _, _, houter⟩ := Node.leadsUp_append_cons.1 hplace
    let found : Place := ⟨call, steps ++ ⟨block, j⟩ :: outer⟩
    have hfound : found ∈ Place.all root :=
      Place.mem_all_iff.2 (Node.leadsUp_append_cons.2 ⟨statement, hsteps, hstatement, houter⟩)
    have hcalled : binding.isCallTagged .uiThreadSwitch found.node = true := htagged
    obtain ⟨hkind, htag⟩ := isCallTagged_iff.1 hcalled
    exact ⟨found, hfound, hkind, htag, block, outer, inner, steps, i, j, hblock, hlt, habove, rfl,
      hinner, hnone⟩
  . rintro ⟨call, hcall, hkind, htag, block, outer, inner, inner', i, j, hblock, hlt, habove,
      hcallAbove, hinner, hinner'⟩
    rw [Place.mem_all_iff, hcallAbove] at hcall
    obtain ⟨statement, hsteps, hstatement, _⟩ := Node.leadsUp_append_cons.1 hcall
    have hdeferred : call.node.isDeferred = false := by
      unfold Node.isDeferred
      rw [hkind]
      rfl
    have hstatementDeferred := hsteps.isDeferred hdeferred hinner'
    refine ⟨inner, block, i, outer, habove, hblock, hinner, j, statement, hlt, hstatement, ?_⟩
    unfold makesCallTagged
    rw [Bool.and_eq_true, Bool.not_eq_true', Node.walkLocal_eq, List.any_eq_true]
    have hruns : call.node ∈ statement.localPreorder :=
      (Node.mem_localPreorder_iff hstatementDeferred).2 ⟨hdeferred, inner', hsteps, hinner'⟩
    exact ⟨hstatementDeferred, call.node, hruns, isCallTagged_iff.2 ⟨hkind, htag⟩⟩

/-- A switch that comes before a place ends in front of it and lies in the same function. -/
theorem Binding.SwitchesBefore.precedes (hsited : Sited source tokens root) {call : Place}
    (hcall : call ∈ Place.all root) (h : binding.SwitchesBefore call place)
    (hkind : place.node.kind ≠ .otherStmt) :
    call.node.extent.stop ≤ place.node.extent.start ∧ call.function? = place.function? := by
  obtain ⟨hcallKind, _, block, outer, inner, inner', i, j, hblock, hlt, habove, hcallAbove, hinner,
    hinner'⟩ := h
  rw [Place.mem_all_iff, habove] at hplace
  rw [Place.mem_all_iff, hcallAbove] at hcall
  obtain ⟨later, hlater, hchild, houter⟩ := Node.leadsUp_append_cons.1 hplace
  obtain ⟨statement, hstatement, hchild', _⟩ := Node.leadsUp_append_cons.1 hcall
  have hmem := houter.mem_preorder
  constructor
  . exact hsited.stop_le_of_block hmem hblock hlt hchild' hchild hstatement.mem_preorder
      hlater.mem_preorder ⟨by simp [hcallKind], hkind⟩
  . -- Code holds no properties and types, so a way without lambdas and local functions leaves no
    -- function at all, and the function around both places is the one around the block.
    have hcode : statement.IsCode :=
      hsited.isCode_of_block hmem hblock statement (List.mem_of_getElem? hchild')
    have hcallInner : ∀ step ∈ inner', step.parent.kind.isFunction = false := by
      intro step hstep
      exact Node.isFunction_eq_false (hcode _ (hstatement.parent_mem_preorder step hstep))
        (hinner' step hstep)
    have hfunction {other : Place} {steps : List Step} {k : Nat}
        (habove : other.above = steps ++ ⟨block, k⟩ :: outer)
        (hsteps : ∀ step ∈ steps, step.parent.kind.isFunction = false) :
        other.function? = (⟨block, outer⟩ : Place).function? := by
      rw [← List.singleton_append, ← List.append_assoc] at habove
      apply Place.function?_of_append block habove
      intro step hstep
      rcases List.mem_append.1 hstep with hstep | hstep
      . exact hsteps step hstep
      . rw [List.mem_singleton.1 hstep, hblock]
        rfl
    rw [hfunction hcallAbove hcallInner, hfunction habove hinner]

end

/-! ### Findings of a rule -/

theorem RuleSet.mem_rulesFor_iff {categories : Option (List Category)} {disabled : List String}
    {definitions : List RuleDefinition} {ruleSet : RuleSet}
    (h : select categories disabled definitions = .ok ruleSet) {kind : NodeKind} {rule : Rule} :
    rule ∈ ruleSet.rulesFor kind ↔ rule ∈ ruleSet.rules ∧ kind ∈ rule.kinds := by
  obtain ⟨rules, wanted, _, rfl⟩ := select_eq_ok h
  rw [rulesFor_ofRules, List.mem_filter, decide_eq_true_iff]
  rfl

/-- The rules of a set are known by their names. -/
theorem RuleSet.matcher_eq_of_id {categories : Option (List Category)} {disabled : List String}
    {ruleSet : RuleSet} (h : select categories disabled RuleDefinition.catalogue = .ok ruleSet)
    {definition : RuleDefinition} (hdefinition : definition ∈ RuleDefinition.catalogue) {rule : Rule}
    (hrule : rule ∈ ruleSet.rules) (hid : rule.id = definition.id) :
    rule.kinds = definition.kinds ∧ definition.matcher = some rule.matcher := by
  obtain ⟨rules, wanted, hrules, rfl⟩ := select_eq_ok h
  obtain ⟨other, hother, hmade⟩ := exists_of_mem_mapM hrules rule (List.mem_filter.1 hrule).1
  obtain ⟨hotherId, hkinds, hmatcher, _⟩ := RuleDefinition.of_rule_eq_ok hmade
  obtain rfl := List.inj_on_of_nodup_map RuleDefinition.catalogue_ids hother hdefinition
    (hotherId.symm.trans hid)
  exact ⟨hkinds, hmatcher⟩

theorem Rule.matcher_eq_none {rule : Rule} {file : BoundFile} {place : Place}
    (h : rule.check file place = .ok none) : rule.matcher file place = .ok none := by
  unfold check at h
  obtain ⟨hit, hhit, h⟩ := bind_eq_ok.1 h
  cases hit with
  | none => exact hhit
  | some hit =>
    obtain ⟨message, _, h⟩ := bind_eq_ok.1 h
    split at h
    . obtain ⟨fix, _, h⟩ := bind_eq_ok.1 h
      cases h
    . cases h

/-- What a rule reports at a place is among the findings. -/
theorem RuleSet.mem_of_reportedAt {ruleSet : RuleSet} {file : BoundFile} {places : List Place}
    {findings : List Finding} (h : reportedAt ruleSet file places = .ok findings) {place : Place}
    (hplace : place ∈ places) {rule : Rule} (hrule : rule ∈ ruleSet.rulesFor place.node.kind) :
    ∃ found, rule.check file place = .ok found ∧ ∀ finding ∈ found, finding ∈ findings := by
  unfold reportedAt at h
  obtain ⟨reports, hreports, h⟩ := bind_eq_ok.1 h
  cases h
  obtain ⟨report, hreport, hchecks⟩ := exists_mem_of_mapM hreports place hplace
  obtain ⟨found, hfound, hcheck⟩ := exists_mem_of_mapM hchecks rule hrule
  refine ⟨found, hcheck, ?_⟩
  rintro finding ⟨⟩
  exact List.mem_filterMap.2 ⟨_, List.mem_flatten.2 ⟨report, hreport, hfound⟩, rfl⟩

/-- Calls and accesses that lie between the same ends are at the same place. -/
theorem Sited.place_eq_of_extent {source : Source} {tokens : List Token} {root : Node}
    (h : Sited source tokens root) {place other : Place} (hplace : place ∈ Place.all root)
    (hother : other ∈ Place.all root) (hkind : place.node.kind ∈ [NodeKind.callExpr, .memberAccess])
    (hkind' : other.node.kind ∈ [NodeKind.callExpr, .memberAccess])
    (hextent : place.node.extent = other.node.extent) : place = other := by
  have howns {place : Place} (hplace : place ∈ Place.all root)
      (hkind : place.node.kind ∈ [NodeKind.callExpr, .memberAccess]) :
      (place.node.kind ≠ .compilationUnit ∧ place.node.kind ≠ .otherStmt) ∧
        place.node.Owns place.node.extent := by
    have hmem := (Place.within_of_mem_all hplace).node
    refine ⟨⟨?_, ?_⟩, h.owns_extent hmem (List.mem_append_left _ hkind)⟩
    . rintro heq
      simp [heq] at hkind
    . rintro heq
      simp [heq] at hkind
  obtain ⟨hkinds, hownsPlace⟩ := howns hplace hkind
  obtain ⟨hkinds', hownsOther⟩ := howns hother hkind'
  rw [hextent] at hownsPlace
  exact h.place_eq_of_owns hplace hother hkinds hkinds' hownsPlace hownsOther

/-! ### The rule about waits -/

namespace BlockingWait

/--
Whether a place has all that the rule about waits asks of it, apart from what comes before it: it is
tagged, has an awaiter if its result is to be had from one, and lies directly in a method or property
that is an entry point or belongs to a type that is one.
-/
structure Passes (file : BoundFile) (place : Place) : Prop where
  kind_mem : place.node.kind ∈ rule.kinds
  tag_mem : .blockingWait ∈ file.binding.tagsAt place
  awaiter : ∀ entry ∈ file.binding.symbolAt? place,
    entry.strategy = some .getResult → (awaiterReceiver? place.node).isSome = true
  function : ∃ function ∈ place.function?,
    (function.node.kind = .methodDecl ∨ function.node.kind = .propertyDecl) ∧
      ((∃ owner ∈ place.type?, .asyncEntryPoint ∈ file.binding.tagsAt owner) ∨
        .asyncEntryPoint ∈ file.binding.tagsAt function)

instance (file : BoundFile) (place : Place) : Decidable (Passes file place) :=
  decidable_of_iff
    (place.node.kind ∈ rule.kinds ∧ SymbolTag.blockingWait ∈ file.binding.tagsAt place ∧
      (∀ entry ∈ file.binding.symbolAt? place,
        entry.strategy = some .getResult → (awaiterReceiver? place.node).isSome = true) ∧
      ∃ function ∈ place.function?,
        (function.node.kind = .methodDecl ∨ function.node.kind = .propertyDecl) ∧
          ((∃ owner ∈ place.type?, .asyncEntryPoint ∈ file.binding.tagsAt owner) ∨
            .asyncEntryPoint ∈ file.binding.tagsAt function))
    ⟨fun ⟨hkind, htag, hawaiter, hfunction⟩ => ⟨hkind, htag, hawaiter, hfunction⟩,
      fun ⟨hkind, htag, hawaiter, hfunction⟩ => ⟨hkind, htag, hawaiter, hfunction⟩⟩

variable {file : BoundFile} {place : Place}

theorem Passes.isReported_eq (h : Passes file place) :
    isReported file place (file.binding.symbolAt? place)
      = !place.precededBy (file.binding.makesCallTagged .uiThreadSwitch) := by
  have htag : (file.binding.tagsAt place).contains .blockingWait = true :=
    List.contains_iff_mem.2 h.tag_mem
  have hforeign : isForeignResult place.node (file.binding.symbolAt? place) = false := by
    unfold isForeignResult
    cases hentry : file.binding.symbolAt? place with
    | none => rfl
    | some entry =>
      have := h.awaiter entry hentry
      by_cases hstrategy : entry.strategy = some .getResult
      . simp [Option.isNone_eq_false_iff.2 (this hstrategy)]
      . simp [beq_eq_false_iff_ne.2 hstrategy]
  have hthread : isOnUIThread file place = true := by
    obtain ⟨function, hfunction, hkind, hentry⟩ := h.function
    have hlambda : (function.node.kind != .lambda) = true := by
      rcases hkind with hkind | hkind <;> simp [hkind]
    unfold isOnUIThread
    rw [Option.mem_def.1 hfunction]
    simp only [hlambda, Bool.true_and, Bool.or_eq_true, List.contains_iff_mem, Option.any_eq_true]
    exact hentry
  unfold isReported
  rw [htag, hforeign, hthread]
  rfl

/-- A wait is found exactly if it is to be reported. -/
theorem isSome_of_matcher {found : Option Hit} (h : matcher file place = .ok found) :
    found.isSome = isReported file place (file.binding.symbolAt? place) := by
  unfold matcher at h
  extract_lets entry extent tail at h
  have htail {awaiting : Option String} (h : tail awaiting = .ok found) : found.isSome = true := by
    obtain ⟨span, _, h⟩ := bind_eq_ok.1 h
    cases h
    rfl
  clear_value tail
  split at h
  . next hreported =>
    cases h
    rw [Bool.not_eq_true'] at hreported
    exact hreported.symm
  . next hreported =>
    rw [Bool.not_eq_true, Bool.not_eq_false'] at hreported
    rw [hreported]
    split at h
    . obtain ⟨awaiting, _, h⟩ := bind_eq_ok.1 h
      exact htail h
    . exact htail h

/--
A rule of the catalogue reports a wait exactly if it is to be reported, whatever else is reported.
-/
theorem exists_finding_iff {source : Source} {tokens : List Token} {root : Node}
    (hsited : Sited source tokens root) {categories : Option (List Category)}
    {disabled : List String} {ruleSet : RuleSet}
    (hselected : RuleSet.select categories disabled RuleDefinition.catalogue = .ok ruleSet)
    (hactive : rule.id ∈ ruleSet.ids) {findings : List Finding}
    (hfindings : reportedAt ruleSet file (Place.all root) = .ok findings)
    (hplace : place ∈ Place.all root) (hkind : place.node.kind ∈ rule.kinds) :
    (∃ finding ∈ findings, finding.rule = rule.id ∧ finding.span.extent = place.node.extent) ↔
      isReported file place (file.binding.symbolAt? place) = true := by
  have hcatalogue : rule ∈ RuleDefinition.catalogue := by simp [RuleDefinition.catalogue]
  have hmatcher {found : Rule} (hfound : found ∈ ruleSet.rules) (hid : found.id = rule.id) :
      found.kinds = rule.kinds ∧ found.matcher = matcher := by
    obtain ⟨hkinds, hmatcher⟩ := RuleSet.matcher_eq_of_id hselected hcatalogue hfound hid
    exact ⟨hkinds, (Option.some.inj hmatcher).symm⟩
  constructor
  case mp =>
    rintro ⟨finding, hfinding, hid, hextent⟩
    obtain ⟨other, hother, found, hrule, hcheck⟩ :=
      RuleSet.exists_check_of_mem_reportedAt hfindings hfinding
    obtain ⟨hfound, hotherKind⟩ := (RuleSet.mem_rulesFor_iff hselected).1 hrule
    obtain ⟨hfindingId, hit, hhit, hspan, _⟩ := Rule.check_eq_ok hcheck
    obtain ⟨hkinds, hfoundMatcher⟩ := hmatcher hfound (hfindingId.symm.trans hid)
    rw [hfoundMatcher] at hhit
    have hreported := isSome_of_matcher hhit
    -- The finding says where it is and not at which place, so the place is known by its ends only.
    have hsame : place = other := by
      rw [hkinds] at hotherKind
      apply hsited.place_eq_of_extent hplace hother hkind hotherKind
      rw [← hextent, hspan, (matcher_eq_ok hhit).1]
    rw [hsame, ← hreported]
    rfl
  case mpr =>
    intro hreported
    obtain ⟨found, hfound, hid⟩ := List.mem_map.1 hactive
    obtain ⟨hkinds, hfoundMatcher⟩ := hmatcher hfound hid
    have hrule : found ∈ ruleSet.rulesFor place.node.kind :=
      (RuleSet.mem_rulesFor_iff hselected).2 ⟨hfound, hkinds ▸ hkind⟩
    obtain ⟨result, hcheck, hmem⟩ := RuleSet.mem_of_reportedAt hfindings hplace hrule
    cases result with
    | none =>
      have hnone := isSome_of_matcher (hfoundMatcher ▸ Rule.matcher_eq_none hcheck)
      rw [hreported] at hnone
      cases hnone
    | some finding =>
      obtain ⟨hfindingId, hit, hhit, hspan, _⟩ := Rule.check_eq_ok hcheck
      rw [hfoundMatcher] at hhit
      refine ⟨finding, hmem finding rfl, hfindingId.trans hid, ?_⟩
      rw [hspan]
      exact (matcher_eq_ok hhit).1

end BlockingWait

/--
A wait that passes all else that the rule about waits asks of it is not reported exactly if a call
that switches to the UI thread comes before it, and every such call ends in front of the wait and
lies in the same function.
-/
theorem BlockingWait.unreported_iff {text : String} {path : Option String} {parsed : Parsed}
    (hparsed : parse text path = .ok parsed) {categories : Option (List Category)}
    {disabled : List String} {ruleSet : RuleSet}
    (hselected : RuleSet.select categories disabled RuleDefinition.catalogue = .ok ruleSet)
    (hactive : rule.id ∈ ruleSet.ids) {table : SymbolTable} {findings : List Finding}
    (hfindings : evaluate parsed table ruleSet = .ok findings) {place : Place}
    (hplace : place ∈ Place.all parsed.root)
    (hpasses : Passes ⟨parsed.source, Binding.ofRoot parsed.root table⟩ place) :
    let binding := Binding.ofRoot parsed.root table
    ((¬∃ finding ∈ findings, finding.rule = rule.id ∧
        finding.span.extent = place.node.extent) ↔
      ∃ call ∈ Place.all parsed.root, binding.SwitchesBefore call place) ∧
    ∀ call ∈ Place.all parsed.root, binding.SwitchesBefore call place →
      call.node.extent.stop ≤ place.node.extent.start ∧ call.function? = place.function? := by
  intro binding
  obtain ⟨_, tokens, _, hsited⟩ := parse_sited hparsed
  obtain ⟨reported, hreported, hperm⟩ := evaluate_perm hfindings
  constructor
  . simp only [hperm.mem_iff]
    rw [exists_finding_iff hsited hselected hactive hreported hplace hpasses.kind_mem,
      hpasses.isReported_eq, Bool.not_eq_true', Bool.not_eq_false]
    exact Binding.precededBy_iff hplace
  . intro call hcall hswitches
    apply hswitches.precedes hplace hsited hcall
    intro heq
    have hkind := hpasses.kind_mem
    simp [heq, rule] at hkind

/-- A wait behind a call that switches to the UI thread. -/
theorem BlockingWait.unreported_iff_behind_switch :
    ∃ parsed findings place call,
      let text := "class C \x7b async Task M() \x7b await F.SwitchToMainThreadAsync(); t.Wait(); \x7d \x7d"
      let table := Analyzer.unrestricted.table
      parse text none = .ok parsed ∧
        evaluate parsed table Analyzer.unrestricted.ruleSet = .ok findings ∧
        place ∈ Place.all parsed.root ∧
        Passes ⟨parsed.source, Binding.ofRoot parsed.root table⟩ place ∧
        call ∈ Place.all parsed.root ∧
        (Binding.ofRoot parsed.root table).SwitchesBefore call place ∧
        call.node.extent.stop ≤ place.node.extent.start ∧ call.function? = place.function? := by
  -- The findings are looked at before they are sorted, as sorting does not evaluate.
  have hrun :
      let text := "class C \x7b async Task M() \x7b await F.SwitchToMainThreadAsync(); t.Wait(); \x7d \x7d"
      let table := Analyzer.unrestricted.table
      ((parse text none).toOption.bind fun parsed =>
        let file : BoundFile := ⟨parsed.source, Binding.ofRoot parsed.root table⟩
        (evaluate parsed table Analyzer.unrestricted.ruleSet).toOption.bind fun _ =>
          (reportedAt Analyzer.unrestricted.ruleSet file (Place.all parsed.root)).toOption.bind
            fun reported =>
              ((Place.all parsed.root).find? fun place => BlockingWait.Passes file place).map fun _ =>
                reported.map Finding.rule) =
        some ["async-method-naming"] := by
    decide +kernel
  obtain ⟨parsed, hparsed, hrun⟩ := Option.bind_eq_some_iff.mp hrun
  obtain ⟨findings, hfindings, hrun⟩ := Option.bind_eq_some_iff.mp hrun
  obtain ⟨reported, hreported, hrun⟩ := Option.bind_eq_some_iff.mp hrun
  obtain ⟨place, hfound, hrules⟩ := Option.map_eq_some_iff.mp hrun
  have hparsed := eq_ok_of_toOption hparsed
  have hfindings := eq_ok_of_toOption hfindings
  have hplace := List.mem_of_find?_eq_some hfound
  have hpasses := List.find?_some hfound
  rw [decide_eq_true_iff] at hpasses
  obtain ⟨reported', hreported', hperm⟩ := evaluate_perm hfindings
  rw [eq_ok_of_toOption hreported] at hreported'
  cases hreported'
  have hselected : RuleSet.select (some Category.all) [] RuleDefinition.catalogue =
      .ok Analyzer.unrestricted.ruleSet :=
    RuleSet.select_all RuleDefinition.catalogue_sound RuleDefinition.catalogue_repeated
  obtain ⟨hiff, hbefore⟩ :=
    unreported_iff hparsed hselected (by decide) hfindings hplace hpasses
  obtain ⟨call, hcall, hswitches⟩ := hiff.1 <| by
    rintro ⟨finding, hfinding, hid, _⟩
    have := (hperm.map Finding.rule).mem_iff.1 (List.mem_map_of_mem hfinding)
    rw [hrules, hid] at this
    revert this
    decide
  exact ⟨parsed, findings, place, call, hparsed, hfindings, hplace, hpasses, hcall, hswitches,
    hbefore call hcall hswitches⟩

end ThreadLint
