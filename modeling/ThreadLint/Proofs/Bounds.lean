import ThreadLint.Proofs.Analysis

/-!
This module contains what the findings of arbitrary rules are checked for: their spans lie inside the
text, and no edit ends before it starts or behind the text. Where an edit starts is not looked at.
-/

namespace ThreadLint

theorem Finding.checkBounds_eq_ok {finding : Finding} {length : Nat} {path : String} :
    finding.checkBounds length path = .ok () ↔ finding.span.stop ≤ length ∧
      ∀ fix ∈ finding.fix, ∀ edit ∈ fix.edits, edit.start ≤ edit.stop ∧ edit.stop ≤ length := by
  unfold checkBounds
  rw [throw_unless_eq_ok, Nat.not_lt]
  apply and_congr_right
  intro _
  cases finding.fix with
  | none => simp [pure, Except.pure]
  | some fix =>
    have hfound : (fix.edits.find? fun edit => !edit.isWithin length) = none ↔
        ∀ edit ∈ fix.edits, edit.start ≤ edit.stop ∧ edit.stop ≤ length := by
      simp [List.find?_eq_none, Edit.isWithin, and_comm]
    cases hfind : fix.edits.find? fun edit => !edit.isWithin length with
    | none => simpa [hfind, pure, Except.pure] using hfound.1 hfind
    | some edit => simpa [hfind, throw, throwThe, MonadExceptOf.throw] using hfound

/-- What is found has passed the check of its bounds. -/
theorem checkBounds_of_evaluate {parsed : Parsed} {table : SymbolTable} {ruleSet : RuleSet}
    {findings : List Finding} (h : evaluate parsed table ruleSet = .ok findings) :
    ∀ finding ∈ findings,
      finding.checkBounds parsed.source.length parsed.source.path = .ok () := by
  unfold evaluate at h
  obtain ⟨reported, _, h⟩ := bind_eq_ok.1 h
  obtain ⟨_, hbounds, h⟩ := bind_eq_ok.1 h
  cases h
  intro finding hmem
  exact forM_eq_ok.1 hbounds finding (Finding.mem_sorted.1 hmem)

/-! ### Fixes that start in front of the text -/

namespace Selection

theorem strayEdit?_eq_none {length : Nat} {fix : Fix} :
    strayEdit? length fix = none ↔ ∀ edit ∈ fix.edits, 0 ≤ edit.start ∧ edit.stop ≤ length := by
  simp [strayEdit?, List.find?_eq_none]

/-- A fix is considered if none of its edits is outside, and breaks a promise if one is. -/
theorem step_cases (length : Nat) (path : String) (selection : Selection) (finding : Finding) :
    (∃ fault, step length path selection finding = .error fault ∧ fault.isPromise = true) ∨
      ((∃ next, step length path selection finding = .ok next) ∧
        ∀ fix ∈ finding.fix, strayEdit? length fix = none) := by
  unfold step
  cases finding.fix with
  | none => simp
  | some fix =>
    cases hstray : strayEdit? length fix with
    | none => simp [hstray]
    | some edit =>
      exact .inl ⟨.promise (.editOutsideText finding.rule edit.start edit.stop) (some path),
        by simp [hstray], rfl⟩

theorem exists_promise_of_stray {findings : List Finding} {length : Nat} (path : String)
    (selection : Selection)
    (h : ∃ finding ∈ findings, ∃ fix ∈ finding.fix, strayEdit? length fix ≠ none) :
    ∃ fault, findings.foldlM (step length path) selection = .error fault ∧
      fault.isPromise = true := by
  induction findings generalizing selection with
  | nil => simp at h
  | cons finding rest ih =>
    rw [List.foldlM_cons]
    rcases step_cases length path selection finding with ⟨fault, hstep, hpromise⟩ | ⟨hnext, hnone⟩
    . rw [hstep]
      exact ⟨fault, rfl, hpromise⟩
    . obtain ⟨next, hnext⟩ := hnext
      obtain ⟨stray, hmem, fix, hfix, hstray⟩ := h
      -- The first fix was considered, so the stray one is among the others.
      rw [hnext]
      rw [List.mem_cons] at hmem
      cases hmem with
      | inl heq =>
        rw [heq] at hfix
        exact absurd (hnone fix hfix) hstray
      | inr hmem => exact ih next ⟨stray, hmem, fix, hfix, hstray⟩

end Selection

theorem Outcome.exists_promise_of_stray {text : String} {findings : List Finding}
    (h : ∃ finding ∈ findings, ∃ fix ∈ finding.fix, Selection.strayEdit? text.length fix ≠ none)
    (label : Option String) (verified : Bool) :
    ∃ fault, ofFindings text findings label verified = .error fault ∧ fault.isPromise = true := by
  obtain ⟨finding, hmem, fix, hfix, hstray⟩ := h
  obtain ⟨fault, hfault, hpromise⟩ := Selection.exists_promise_of_stray
    (Source.ofString "" label).path .empty
    ⟨finding, Finding.mem_sorted.2 hmem, fix, hfix, hstray⟩
  refine ⟨fault, ?_, hpromise⟩
  unfold ofFindings
  dsimp only
  rw [Selection.ofFindings, hfault]
  rfl

/--
Whatever the rules are, what is found lies inside the text, and edits end in it and behind their
start. The fixes for it break a promise exactly if one of their edits starts in front of the text.
-/
theorem evaluate_bounds {text : String} {path : Option String} {parsed : Parsed}
    (hparsed : parse text path = .ok parsed) {table : SymbolTable} {ruleSet : RuleSet}
    {findings : List Finding} (h : evaluate parsed table ruleSet = .ok findings) :
    (∀ finding ∈ findings,
      finding.span.start ≤ finding.span.stop ∧ finding.span.stop ≤ text.length ∧
      ∀ fix ∈ finding.fix, ∀ edit ∈ fix.edits,
        edit.start ≤ edit.stop ∧ edit.stop ≤ text.length) ∧
    ∀ label verified,
      (∃ fault, Outcome.ofFindings text findings label verified = .error fault ∧
        fault.isPromise = true) ↔
      ∃ finding ∈ findings, ∃ fix ∈ finding.fix, ∃ edit ∈ fix.edits, edit.start < 0 := by
  have hlength : parsed.source.length = text.length := by
    rw [(parse_sited hparsed).1]
    exact String.length_toList
  have hbounds : ∀ finding ∈ findings, finding.span.stop ≤ text.length ∧
      ∀ fix ∈ finding.fix, ∀ edit ∈ fix.edits,
        edit.start ≤ edit.stop ∧ edit.stop ≤ text.length := by
    intro finding hmem
    rw [← hlength]
    exact Finding.checkBounds_eq_ok.1 (checkBounds_of_evaluate h finding hmem)
  refine ⟨fun finding hmem => ⟨finding.span.start_le_stop, hbounds finding hmem⟩, ?_⟩
  intro label verified
  constructor
  . rintro ⟨fault, hfault, hpromise⟩
    by_contra hnone
    have hinside : ∀ finding ∈ findings, finding.Inside text.length := by
      intro finding hmem
      obtain ⟨hspan, hedits⟩ := hbounds finding hmem
      refine ⟨hspan, fun fix hfix edit hedit => ?_⟩
      obtain ⟨hle, hstop⟩ := hedits fix hfix edit hedit
      refine ⟨?_, hle, hstop⟩
      by_contra hstart
      exact hnone ⟨finding, hmem, fix, hfix, edit, hedit, by omega⟩
    rw [(Outcome.ofFindings_keeps hinside label verified).isPromise_eq_false hfault] at hpromise
    cases hpromise
  . rintro ⟨finding, hmem, fix, hfix, edit, hedit, hstart⟩
    refine Outcome.exists_promise_of_stray ⟨finding, hmem, fix, hfix, ?_⟩ label verified
    intro hnone
    have := (Selection.strayEdit?_eq_none.1 hnone edit hedit).1
    omega

/--
A rule that wants a character written between some offset and the beginning of the text, for every
type.
-/
def RuleDefinition.writingFrom (offset : Int) : RuleDefinition where
  id := "leading-mark"
  category := some .design
  severity := some .info
  kinds := [.classDecl]
  matcher := some fun file place => do
    return some {
      span := ← file.source.spanOf place.node.extent
      values := []
      fix := some <$> Fix.ofEdits "Mark the text" [⟨offset, 0, "x"⟩]
    }
  message := "A type is declared"
  offer := .offered

/-- A rule that writes at the beginning of the text. -/
theorem evaluate_bounds_insertion :
    ∃ ruleSet parsed findings,
      RuleSet.select none [] [RuleDefinition.writingFrom 0] = .ok ruleSet ∧
        parse "class C \x7b \x7d" none = .ok parsed ∧
        evaluate parsed (SymbolTable.builtin []) ruleSet = .ok findings ∧ findings.length = 1 ∧
        ∀ label verified fault,
          Outcome.ofFindings "class C \x7b \x7d" findings label verified = .error fault →
            fault.isPromise = false := by
  have hrun :
      ((RuleSet.select none [] [RuleDefinition.writingFrom 0]).toOption.bind fun ruleSet =>
        (parse "class C \x7b \x7d" none).toOption.bind fun parsed =>
          (evaluate parsed (SymbolTable.builtin []) ruleSet).toOption.map fun findings =>
            (findings.length, findings.any fun finding =>
              finding.fix.any fun fix => fix.edits.any fun edit => decide (edit.start < 0))) =
        some (1, false) := by
    decide +kernel
  obtain ⟨ruleSet, hset, hrun⟩ := Option.bind_eq_some_iff.mp hrun
  obtain ⟨parsed, hparsed, hrun⟩ := Option.bind_eq_some_iff.mp hrun
  obtain ⟨findings, hfindings, hrun⟩ := Option.map_eq_some_iff.mp hrun
  obtain ⟨hcount, hnone⟩ := Prod.mk.inj hrun
  have hparsed := eq_ok_of_toOption hparsed
  have hfindings := eq_ok_of_toOption hfindings
  refine ⟨ruleSet, parsed, findings, eq_ok_of_toOption hset, hparsed, hfindings, hcount, ?_⟩
  intro label verified fault hfault
  by_contra hpromise
  rw [Bool.not_eq_false] at hpromise
  obtain ⟨finding, hmem, fix, hfix, edit, hedit, hstart⟩ :=
    ((evaluate_bounds hparsed hfindings).2 label verified).1 ⟨fault, hfault, hpromise⟩
  simp only [List.any_eq_false] at hnone
  have := hnone finding hmem
  simp [Option.mem_def.1 hfix] at this
  have := this edit hedit
  omega

/-- A rule that writes in front of the text is let through, and its fix breaks a promise. -/
theorem evaluate_accepts_negative_start :
    ∃ ruleSet parsed findings finding fix,
      RuleSet.select none [] [RuleDefinition.writingFrom (-1)] = .ok ruleSet ∧
        parse "class C \x7b \x7d" none = .ok parsed ∧
        evaluate parsed (SymbolTable.builtin []) ruleSet = .ok findings ∧
        finding ∈ findings ∧ finding.span.extent = ⟨0, 11⟩ ∧ finding.fix = some fix ∧
        fix.edits = [⟨-1, 0, "x"⟩] ∧
        ∃ fault, Outcome.ofFindings "class C \x7b \x7d" findings none true = .error fault ∧
          fault.isPromise = true := by
  have hrun :
      ((RuleSet.select none [] [RuleDefinition.writingFrom (-1)]).toOption.bind fun ruleSet =>
        (parse "class C \x7b \x7d" none).toOption.bind fun parsed =>
          (evaluate parsed (SymbolTable.builtin []) ruleSet).toOption.bind fun findings =>
            findings.head?.bind fun finding =>
              finding.fix.map fun fix =>
                decide (finding.span.extent = ⟨0, 11⟩ ∧ fix.edits = [⟨-1, 0, "x"⟩])) =
        some true := by
    decide +kernel
  obtain ⟨ruleSet, hset, hrun⟩ := Option.bind_eq_some_iff.mp hrun
  obtain ⟨parsed, hparsed, hrun⟩ := Option.bind_eq_some_iff.mp hrun
  obtain ⟨findings, hfindings, hrun⟩ := Option.bind_eq_some_iff.mp hrun
  obtain ⟨finding, hfinding, hrun⟩ := Option.bind_eq_some_iff.mp hrun
  obtain ⟨fix, hfix, hrun⟩ := Option.map_eq_some_iff.mp hrun
  obtain ⟨hspan, hedits⟩ := of_decide_eq_true hrun
  have hmem := List.mem_of_head? hfinding
  refine ⟨ruleSet, parsed, findings, finding, fix, eq_ok_of_toOption hset,
    eq_ok_of_toOption hparsed, eq_ok_of_toOption hfindings, hmem, hspan, hfix, hedits, ?_⟩
  refine Outcome.exists_promise_of_stray ⟨finding, hmem, fix, hfix, ?_⟩ none true
  intro hnone
  have hstart := (Selection.strayEdit?_eq_none.1 hnone ⟨-1, 0, "x"⟩ (by simp [hedits])).1
  cases hstart

end ThreadLint
