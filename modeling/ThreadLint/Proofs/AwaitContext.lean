import ThreadLint.Proofs.Builtin
import ThreadLint.Proofs.Rule.Written
import ThreadLint.Proofs.Tree.Bare

/-!
This module contains in which surroundings fixes await: never in a lock of their function, nor in an
unsafe statement of it, nor in a function that is unsafe itself. What is unsafe around the function is
not looked at, although it makes the function unsafe as well. It also contains what a fix that awaits
is meant to do to the tree of a text: a wait becomes an `await`, and nothing else changes but
parentheses. There are texts of which it does more.
-/

namespace ThreadLint

namespace Node

/--
Whether a node is a statement that holds a lock.
-/
def isLock (node : Node) : Bool :=
  node.form == .otherStmt "lock"

/--
Whether the code inside a node is unsafe on account of the node: a statement that says so or fixes
memory, or a declaration with that modifier.
-/
def isUnsafe (node : Node) : Bool :=
  match node.form with
  | .otherStmt keyword => keyword == "unsafe" || keyword == "fixed"
  | .classDecl head => head.modifiers.contains "unsafe"
  | .methodDecl head => head.modifiers.contains "unsafe"
  | .propertyDecl _ _ modifiers _ => modifiers.contains "unsafe"
  | _ => false

theorem isNoAwait_of_isLock {node : Node} (h : node.isLock = true) :
    Place.forbidsAwait.isNoAwait node.form = true := by
  unfold isLock at h
  rw [beq_iff_eq] at h
  rw [h]
  decide

/-- Apart from types, only functions and statements that forbid it themselves are unsafe. -/
theorem isUnsafe_eq_false {node : Node} (htype : node.kind ≠ .classDecl)
    (hfunction : node.kind.isFunction = false)
    (hstatement : Place.forbidsAwait.isNoAwait node.form = false) : node.isUnsafe = false := by
  unfold kind at htype hfunction
  unfold isUnsafe
  split
  . next keyword hform =>
    rw [hform, Place.forbidsAwait.isNoAwait] at hstatement
    simp [Place.noAwaitKeywords] at hstatement
    simp [hstatement]
  . next hform => simp [hform, Form.kind] at htype
  . next hform => simp [hform, Form.kind, NodeKind.isFunction] at hfunction
  . next hform => simp [hform, Form.kind, NodeKind.isFunction] at hfunction
  . rfl

theorem isUnsafe_eq_modifiers {node : Node} (hfunction : node.kind.isFunction = true) :
    node.isUnsafe = node.form.modifiers.contains "unsafe" := by
  unfold kind at hfunction
  cases hform : node.form
  case methodDecl | propertyDecl | lambda => rw [isUnsafe, hform]; rfl
  all_goals
    rw [hform] at hfunction
    cases hfunction

end Node

namespace Place

/--
The places on the way to the root up to the function that a place is in.
-/
def ancestorsInFunction (place : Place) : List Place :=
  place.ancestors.takeWhile fun ancestor => !ancestor.node.kind.isFunction

/--
Whether a place is one where `await` is allowed: no lock stands between it and its function, and
nothing around it is unsafe.
-/
structure AllowsAwait (place : Place) : Prop where
  unlocked : ∀ ancestor ∈ place.ancestorsInFunction, ancestor.node.isLock = false
  safe : ∀ ancestor ∈ place.ancestors, ancestor.node.isUnsafe = false

theorem ancestors_eq_of_function? {place function : Place} (h : place.function? = some function) :
    place.ancestors = place.ancestorsInFunction ++ function :: function.ancestors := by
  unfold function? enclosing? at h
  unfold ancestorsInFunction ancestors at *
  -- The induction is on the way to the root, of which the place only has the beginning.
  generalize place.above = above at h
  induction above with
  | nil => cases h
  | cons step rest ih =>
    rw [ancestors.go, List.find?_cons] at h
    rw [ancestors.go, List.takeWhile_cons]
    split at h
    . next hkind =>
      cases h
      simp [hkind]
    . next hkind =>
      simp only [hkind, Bool.not_false, if_true, List.cons_append]
      rw [← ih h]

theorem forbidsAwait_eq_false {place : Place} (h : place.forbidsAwait = false) :
    (∀ ancestor ∈ place.ancestorsInFunction,
      forbidsAwait.isNoAwait ancestor.node.form = false) ∧
      ∀ function, place.function? = some function →
        function.node.form.modifiers.contains "unsafe" = false := by
  unfold forbidsAwait at h
  unfold ancestorsInFunction function? enclosing? ancestors
  generalize place.above = above at *
  induction above with
  | nil => simp [ancestors.go]
  | cons step rest ih =>
    rw [forbidsAwait.go] at h
    rw [ancestors.go, List.takeWhile_cons, List.find?_cons]
    split at h
    . next hkind => simpa [hkind] using h
    . next hkind =>
      rw [Bool.or_eq_false_iff] at h
      rw [Bool.not_eq_true] at hkind
      simpa [hkind, h.1] using ih h.2

/--
Where the rules see nothing against an `await`, it is allowed exactly if no type and nothing around
the function is unsafe.
-/
theorem exists_function_of_mayAwait {place : Place} (h : place.mayAwait = true) :
    ∃ function, place.function? = some function ∧ function.node.isAsync = true ∧
      (∀ ancestor ∈ place.ancestorsInFunction, ancestor.node.isLock = false) ∧
      (place.AllowsAwait ↔ ∀ ancestor ∈ place.ancestors,
        ancestor.node.kind = .classDecl ∨ ancestor ∈ function.ancestors →
          ancestor.node.isUnsafe = false) := by
  unfold mayAwait at h
  rw [Bool.and_eq_true, Option.any_eq_true, Bool.not_eq_true'] at h
  obtain ⟨⟨function, hfunction, hasync⟩, hforbids⟩ := h
  obtain ⟨hinside, hmodifiers⟩ := forbidsAwait_eq_false hforbids
  have hunlocked : ∀ ancestor ∈ place.ancestorsInFunction, ancestor.node.isLock = false := by
    intro ancestor hmem
    by_contra hlock
    rw [Bool.not_eq_false] at hlock
    have hstatement := hinside ancestor hmem
    rw [Node.isNoAwait_of_isLock hlock] at hstatement
    cases hstatement
  refine ⟨function, hfunction, hasync, hunlocked, ?_⟩
  constructor
  . intro hallows ancestor hmem _
    exact hallows.safe ancestor hmem
  . intro houter
    refine ⟨hunlocked, fun ancestor hmem => ?_⟩
    have houter := houter ancestor hmem
    rw [ancestors_eq_of_function? hfunction, List.mem_append, List.mem_cons] at hmem
    rcases hmem with hmem | rfl | hmem
    . by_cases htype : ancestor.node.kind = .classDecl
      . exact houter (.inl htype)
      . have hkind := List.all_eq_true.1 List.all_takeWhile ancestor hmem
        rw [Bool.not_eq_true'] at hkind
        exact Node.isUnsafe_eq_false htype hkind (hinside ancestor hmem)
    . have hkind := List.find?_some hfunction
      rw [Node.isUnsafe_eq_modifiers hkind]
      exact hmodifiers ancestor hfunction
    . exact houter (.inr hmem)

/-- What may be awaited in front of a statement may be awaited in it. -/
theorem mayAwait_of_exprStmt {place : Place} (hkind : place.node.kind = .exprStmt) (child : Node)
    (childIndex : Nat) :
    (⟨child, ⟨place.node, childIndex⟩ :: place.above⟩ : Place).mayAwait = place.mayAwait := by
  have hform : forbidsAwait.isNoAwait place.node.form = false := by
    unfold Node.kind at hkind
    cases hform : place.node.form <;> simp_all [Form.kind, forbidsAwait.isNoAwait]
  unfold mayAwait function? enclosing? ancestors forbidsAwait
  rw [ancestors.go, List.find?_cons, forbidsAwait.go, hform]
  simp [hkind, NodeKind.isFunction]

end Place

/--
Whether a finding comes with a fix that awaits the node of a place: a wait that is written anew, or a
call that is a statement and gets an `await` in front of it.
-/
inductive Finding.Awaits (finding : Finding) (fix : Fix) (file : BoundFile) (place : Place) : Prop
    where
  | wait (text : String) (comesOf : finding.ComesOf fix BlockingWait.rule file place)
    (edits_eq : fix.edits = [⟨place.node.extent.start, place.node.extent.stop, text⟩])
  | call (statement : Place) (comesOf : finding.ComesOf fix UnobservedResult.rule file statement)
    (head : statement.node.children.head? = some place.node)
    (above_eq : place.above = ⟨statement.node, 0⟩ :: statement.above)
    (edits_eq : fix.edits = [⟨place.node.extent.start, place.node.extent.start, "await "⟩])

/-- The rules that await do so at places of the tree where they see nothing against it. -/
theorem Finding.exists_awaits {finding : Finding} {fix : Fix} {file : BoundFile} {root : Node}
    {definition : RuleDefinition} (hdefinition : definition ∈ RuleDefinition.catalogue)
    (hrule : finding.rule = BlockingWait.rule.id ∨ finding.rule = UnobservedResult.rule.id)
    {place : Place} (hplace : place ∈ Place.all root)
    (hcomes : finding.ComesOf fix definition file place) :
    ∃ awaited ∈ Place.all root, finding.Awaits fix file awaited ∧ awaited.mayAwait = true := by
  have heq {other : RuleDefinition} (hother : other ∈ RuleDefinition.catalogue)
      (hid : finding.rule = other.id) : definition = other :=
    List.inj_on_of_nodup_map RuleDefinition.catalogue_ids hdefinition hother
      (hcomes.rule_eq.symm.trans hid)
  obtain ⟨matcher, hmatcher, hit, hhit, _, hfix⟩ := hcomes.hit
  cases hrule with
  | inl hid =>
    obtain rfl := heq (by simp [RuleDefinition.catalogue]) hid
    cases hmatcher
    obtain ⟨hmay, text, _, hedits⟩ := BlockingWait.edits_eq hhit hfix
    exact ⟨place, hplace, .wait text hcomes hedits, hmay⟩
  | inr hid =>
    obtain rfl := heq (by simp [RuleDefinition.catalogue]) hid
    cases hmatcher
    obtain ⟨call, hcall, _, _, hfixes⟩ := UnobservedResult.matcher_eq_ok hhit
    obtain ⟨hmay, hedits⟩ := hfixes fix hfix
    have hkind : place.node.kind = .exprStmt := List.mem_singleton.1 hcomes.kind_mem
    refine ⟨⟨call, ⟨place.node, 0⟩ :: place.above⟩, ?_, .call place hcomes hcall rfl hedits, ?_⟩
    . rw [List.head?_eq_getElem?] at hcall
      exact Place.mem_all_of_child hplace hcall
    . rw [Place.mayAwait_of_exprStmt hkind]
      exact hmay

namespace Analyzer

theorem exists_awaits {settings : Settings} {analyzer : Analyzer}
    (h : ofSettings settings = .ok analyzer) {text path : String} {result : FileResult}
    (hresult : analyzer.analyzeText text path = .ok result) {finding : Finding}
    (hmem : finding ∈ result.findings)
    (hrule : finding.rule = BlockingWait.rule.id ∨ finding.rule = UnobservedResult.rule.id)
    {fix : Fix} (hfix : finding.fix = some fix) :
    ∃ parsed, parse text (some path) = .ok parsed ∧ ∃ place ∈ Place.all parsed.root,
      finding.Awaits fix ⟨parsed.source,
        Binding.ofRoot parsed.root (SymbolTable.builtin settings.symbolEntries)⟩ place ∧
      place.mayAwait = true := by
  obtain ⟨parsed, _, hparsed, _, _, _, definition, hdefinition, place, hplace, hcomes⟩ :=
    exists_comesOf h hresult hmem hfix
  exact ⟨parsed, hparsed, Finding.exists_awaits hdefinition hrule hplace hcomes⟩

/--
A fix that awaits does so in an asynchronous function and with no lock in between, and where `await`
is allowed exactly if no type and nothing around that function is unsafe.
-/
theorem fix_allowsAwait_iff {settings : Settings} {analyzer : Analyzer}
    (h : ofSettings settings = .ok analyzer) {text path : String} {result : FileResult}
    (hresult : analyzer.analyzeText text path = .ok result) {finding : Finding}
    (hmem : finding ∈ result.findings)
    (hrule : finding.rule = BlockingWait.rule.id ∨ finding.rule = UnobservedResult.rule.id)
    {fix : Fix} (hfix : finding.fix = some fix) :
    ∃ parsed, parse text (some path) = .ok parsed ∧ ∃ place ∈ Place.all parsed.root,
      finding.Awaits fix ⟨parsed.source,
        Binding.ofRoot parsed.root (SymbolTable.builtin settings.symbolEntries)⟩ place ∧
      ∃ function, place.function? = some function ∧ function.node.isAsync = true ∧
        (∀ ancestor ∈ place.ancestorsInFunction, ancestor.node.isLock = false) ∧
        (place.AllowsAwait ↔ ∀ ancestor ∈ place.ancestors,
          ancestor.node.kind = .classDecl ∨ ancestor ∈ function.ancestors →
            ancestor.node.isUnsafe = false) := by
  obtain ⟨parsed, hparsed, place, hplace, hawaits, hmay⟩ :=
    exists_awaits h hresult hmem hrule hfix
  exact ⟨parsed, hparsed, place, hplace, hawaits, Place.exists_function_of_mayAwait hmay⟩

/-- What an evaluation of the analyzer tells of the first fix for a text and of the places in it. -/
theorem exists_wait_of_run (text : String) (test : Place → Bool)
    (hrun : ((unrestricted.analyzeText text "C.cs").toOption.bind fun result =>
      result.findings.head?.bind fun finding =>
        finding.fix.bind fun _ =>
          (parse text (some "C.cs")).toOption.map fun parsed =>
            decide (finding.rule = BlockingWait.rule.id) && (Place.all parsed.root).all test)
      = some true) :
    ∃ result finding fix parsed, unrestricted.analyzeText text "C.cs" = .ok result ∧
      finding ∈ result.findings ∧ finding.rule = BlockingWait.rule.id ∧ finding.fix = some fix ∧
      parse text (some "C.cs") = .ok parsed ∧ ∀ place ∈ Place.all parsed.root, test place = true := by
  obtain ⟨result, hresult, hrun⟩ := Option.bind_eq_some_iff.mp hrun
  obtain ⟨finding, hfinding, hrun⟩ := Option.bind_eq_some_iff.mp hrun
  obtain ⟨fix, hfix, hrun⟩ := Option.bind_eq_some_iff.mp hrun
  obtain ⟨parsed, hparsed, hrun⟩ := Option.map_eq_some_iff.mp hrun
  rw [Bool.and_eq_true, decide_eq_true_eq, List.all_eq_true] at hrun
  exact ⟨result, finding, fix, parsed, eq_ok_of_toOption hresult, List.mem_of_head? hfinding,
    hrun.1, hfix, eq_ok_of_toOption hparsed, hrun.2⟩

/-- A wait in a method of a type that is not unsafe. -/
theorem fix_allowsAwait_iff_wait :
    ∃ analyzer result finding fix parsed place,
      ofSettings Settings.unrestricted = .ok analyzer ∧
      let text := "class C \x7b async Task MAsync(Task t) \x7b t.Wait(); \x7d \x7d"
      analyzer.analyzeText text "C.cs" = .ok result ∧ finding ∈ result.findings ∧
        finding.rule = BlockingWait.rule.id ∧ finding.fix = some fix ∧
        parse text (some "C.cs") = .ok parsed ∧ place ∈ Place.all parsed.root ∧
        finding.Awaits fix ⟨parsed.source, Binding.ofRoot parsed.root
          (SymbolTable.builtin Settings.unrestricted.symbolEntries)⟩ place ∧ place.AllowsAwait := by
  obtain ⟨result, finding, fix, parsed, hresult, hmem, hrule, hfix, hparsed, hsafe⟩ :=
    exists_wait_of_run "class C \x7b async Task MAsync(Task t) \x7b t.Wait(); \x7d \x7d"
      (fun place => place.ancestors.all fun ancestor => !ancestor.node.isUnsafe) (by decide +kernel)
  obtain ⟨other, hother, place, hplace, hawaits, function, _, _, _, hallows⟩ :=
    fix_allowsAwait_iff ofSettings_unrestricted hresult hmem (.inl hrule) hfix
  cases hparsed.symm.trans hother
  refine ⟨unrestricted, result, finding, fix, parsed, place, ofSettings_unrestricted, hresult, hmem,
    hrule, hfix, hparsed, hplace, hawaits, hallows.2 ?_⟩
  intro ancestor hancestor _
  simpa using List.all_eq_true.1 (hsafe place hplace) ancestor hancestor

/-- A wait in a method of an unsafe type, which is awaited although nothing may be. -/
theorem fix_awaits_in_unsafe_type :
    ∃ analyzer result finding fix parsed place,
      ofSettings Settings.unrestricted = .ok analyzer ∧
      let text := "unsafe class C \x7b async Task MAsync(Task t) \x7b t.Wait(); \x7d \x7d"
      analyzer.analyzeText text "C.cs" = .ok result ∧ finding ∈ result.findings ∧
        finding.rule = BlockingWait.rule.id ∧ finding.fix = some fix ∧
        parse text (some "C.cs") = .ok parsed ∧ place ∈ Place.all parsed.root ∧
        finding.Awaits fix ⟨parsed.source, Binding.ofRoot parsed.root
          (SymbolTable.builtin Settings.unrestricted.symbolEntries)⟩ place ∧ ¬place.AllowsAwait := by
  obtain ⟨result, finding, fix, parsed, hresult, hmem, hrule, hfix, hparsed, hunsafe⟩ :=
    exists_wait_of_run "unsafe class C \x7b async Task MAsync(Task t) \x7b t.Wait(); \x7d \x7d"
      (fun place => !BlockingWait.rule.kinds.contains place.node.kind ||
        place.ancestors.any fun ancestor => ancestor.node.isUnsafe) (by decide +kernel)
  obtain ⟨other, hother, place, hplace, hawaits, _⟩ :=
    exists_awaits ofSettings_unrestricted hresult hmem (.inl hrule) hfix
  cases hparsed.symm.trans hother
  refine ⟨unrestricted, result, finding, fix, parsed, place, ofSettings_unrestricted, hresult, hmem,
    hrule, hfix, hparsed, hplace, hawaits, ?_⟩
  intro hallows
  have hunsafe := hunsafe place hplace
  cases hawaits with
  | wait text hcomes _ =>
    have hkind := List.contains_iff_mem.2 hcomes.kind_mem
    rw [hkind, Bool.not_true, Bool.false_or, List.any_eq_true] at hunsafe
    obtain ⟨ancestor, hancestor, hunsafe⟩ := hunsafe
    rw [hallows.safe ancestor hancestor] at hunsafe
    cases hunsafe
  | call _ hcomes _ _ _ => exact absurd (hrule.symm.trans hcomes.rule_eq) (by decide)

end Analyzer

/-! ### What becomes of the tree -/

namespace Node

mutual

/--
A tree without the parentheses around its expressions.
-/
def withoutParens : Node → Node
  | ⟨form, extent, trivia, designation, children⟩ =>
    match form, forestWithoutParens children with
    | .paren .single, [inner] => inner
    | _, children => ⟨form, extent, trivia, designation, children⟩

/--
Several trees without the parentheses around their expressions.
-/
def forestWithoutParens : List Node → List Node
  | [] => []
  | node :: rest => node.withoutParens :: forestWithoutParens rest

end

/--
A node that awaits an operand.
-/
def awaiting (operand : Node) : Node :=
  ⟨.await, operand.extent, "", none, [operand]⟩

end Node

/--
The tree of a place with another node in it.
-/
def Place.replaced (place : Place) (node : Node) : Node :=
  place.above.foldl
    (fun node step => { step.parent with children := step.parent.children.set step.childIndex node })
    node

/--
Whether a tree is that of a place in which an operand is awaited, apart from parentheses around
expressions and from where it is written.
-/
def Place.BecomesAwait (place : Place) (operand root : Node) : Prop :=
  (root.bare true).withoutParens = ((place.replaced operand.awaiting).bare true).withoutParens

namespace Analyzer

/-- A comparison that becomes the list of types of a call, as its right side begins a parenthesis. -/
theorem fix_regroups_comparison :
    ∃ analyzer result finding fix outcome parsed fixed place operand,
      ofSettings { (default : Settings) with
        rulesets := Category.all.map fun category => ⟨category.name, category⟩ } = .ok analyzer ∧
      let text := "class C \x7b async Task MAsync() \x7b F(b < a, c > t.Result.Length); \x7d \x7d"
      analyzer.analyzeText text "C.cs" = .ok result ∧ finding ∈ result.findings ∧
        finding.rule = BlockingWait.rule.id ∧ finding.fix = some fix ∧
        Outcome.ofFindings text [finding] none true = .ok outcome ∧
        parse text (some "C.cs") = .ok parsed ∧ parse outcome.text none = .ok fixed ∧
        place ∈ Place.all parsed.root ∧
        place.node.extent = ⟨finding.span.start, finding.span.stop⟩ ∧
        (text.toList.take finding.span.start).getLast? = some ' ' ∧
        place.node.form.name? = some "Result" ∧ place.node.children.head? = some operand ∧
        ¬ place.BecomesAwait operand fixed.root := by
  have hrun :
      let text := "class C \x7b async Task MAsync() \x7b F(b < a, c > t.Result.Length); \x7d \x7d"
      ((unrestricted.analyzeText text "C.cs").toOption.bind fun result =>
        result.findings.head?.bind fun finding =>
          finding.fix.bind fun fix =>
            (Outcome.ofFindings text [finding] none true).toOption.bind fun outcome =>
              (parse text (some "C.cs")).toOption.bind fun parsed =>
                (parse outcome.text none).toOption.bind fun fixed =>
                  ((Place.all parsed.root).find? fun place =>
                      decide (place.node.extent = ⟨finding.span.start, finding.span.stop⟩)).bind
                    fun place =>
                      place.node.children.head?.bind fun operand =>
                        some (decide (finding.rule = BlockingWait.rule.id ∧
                          place.node.form.name? = some "Result" ∧
                          (text.toList.take finding.span.start).getLast? = some ' ' ∧
                          (fixed.root.bare true).withoutParens.preorder.map Node.kind ≠
                            ((place.replaced operand.awaiting).bare
                              true).withoutParens.preorder.map Node.kind))) = some true := by
    decide +kernel
  extract_lets text at hrun
  obtain ⟨result, hresult, hrun⟩ := Option.bind_eq_some_iff.mp hrun
  obtain ⟨finding, hfinding, hrun⟩ := Option.bind_eq_some_iff.mp hrun
  obtain ⟨fix, hfix, hrun⟩ := Option.bind_eq_some_iff.mp hrun
  obtain ⟨outcome, houtcome, hrun⟩ := Option.bind_eq_some_iff.mp hrun
  obtain ⟨parsed, hparsed, hrun⟩ := Option.bind_eq_some_iff.mp hrun
  obtain ⟨fixed, hfixed, hrun⟩ := Option.bind_eq_some_iff.mp hrun
  obtain ⟨place, hplace, hrun⟩ := Option.bind_eq_some_iff.mp hrun
  obtain ⟨operand, hoperand, hrun⟩ := Option.bind_eq_some_iff.mp hrun
  obtain ⟨hrule, hname, hblank, hkinds⟩ := of_decide_eq_true (Option.some.inj hrun)
  have hextent : place.node.extent = ⟨finding.span.start, finding.span.stop⟩ := by
    simpa using List.find?_some hplace
  refine ⟨_, result, finding, fix, outcome, parsed, fixed, place, operand,
    ofSettings_unrestricted, eq_ok_of_toOption hresult, List.mem_of_head? hfinding, hrule, hfix,
    eq_ok_of_toOption houtcome, eq_ok_of_toOption hparsed, eq_ok_of_toOption hfixed,
    List.mem_of_find?_eq_some hplace, hextent, hblank, hname, hoperand, ?_⟩
  intro hbecomes
  exact hkinds (congrArg (fun root => root.preorder.map Node.kind) hbecomes)

end Analyzer

end ThreadLint
