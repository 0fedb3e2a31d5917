import ThreadLint.Proofs.DryRun

/-!
This module contains what the status of a run says about its files: a run ends clean only if each file
that was begun was read, has a tree and was looked at by all rules, if fixes could be written back,
and if nothing that is left matters.
-/

namespace ThreadLint

namespace Analyzer

/--
Whether some findings are all that a text gives: it has a tree, and all rules have looked at it.
-/
def Evaluates (analyzer : Analyzer) (text path : String) (findings : List Finding) : Prop :=
  ∃ parsed found, parse text (some path) = .ok parsed ∧
    evaluate parsed analyzer.table analyzer.ruleSet = .ok found ∧
    findings = Finding.sorted (parsed.recoveryFindings ++ found)

/--
Whether fixes of a text are to be written to its file.
-/
structure IsToWrite (analyzer : Analyzer) (text path : String) (made : Outcome) : Prop where
  mode_eq : analyzer.settings.mode = .fix
  dryRun_eq : analyzer.settings.dryRun.isOn = false
  made_eq : ∃ found, analyzer.analyzeText text path = .ok found ∧ found.syntaxFault = none ∧
    outcomeOf found text path = .ok made
  isChanged : made.isChanged = true

/--
The ways in which a file can fail: it cannot be read, its text has no tree, or its fixes cannot be
written back. Nothing is written to a file that somebody else has changed, which is no failure.
-/
inductive Fails (analyzer : Analyzer) (path : String) (scene : Scene) : Prop where
  | unread (h : analyzer.analyzedText? path scene = none)
  | unparsed (text : String) (fault : SyntaxFault)
    (htext : analyzer.analyzedText? path scene = some text)
    (h : parse text (some path) = .error (.syntaxError fault))
  | unreadAgain (text : String) (made : Outcome) (fault : AccessFault)
    (htext : analyzer.analyzedText? path scene = some text)
    (hmade : analyzer.IsToWrite text path made)
    (h : (analyzer.beforeWriting path scene).disk.readText (Path.ofString path) none = .error fault)
  | unwritten (text : String) (made : Outcome) (fault : AccessFault)
    (htext : analyzer.analyzedText? path scene = some text)
    (hmade : analyzer.IsToWrite text path made)
    (hkept : (analyzer.beforeWriting path scene).disk.readText (Path.ofString path) none = .ok text)
    (h : (analyzer.beforeWriting path scene).disk.writeText (Path.ofString path) made.text =
      .error fault)

/--
Whether the run over a file went well, and nothing is left in it that is as bad as a threshold. What
is left is found in the text that was read, or in the fixed text that the file holds now.
-/
structure IsSettled (analyzer : Analyzer) (failOn : Severity) (scene : Scene) (file : FileResult)
    (after : Scene) : Prop where
  run_eq : (analyzer.analyzeFile file.path).run scene = (.ok file, after)
  not_fails : ¬ analyzer.Fails file.path scene
  isComplete : file.isComplete = true
  first : ∃ text findings, analyzer.analyzedText? file.path scene = some text ∧
    analyzer.Evaluates text file.path findings
  last : ∃ text, analyzer.Evaluates text file.path file.findings ∧
    (analyzer.analyzedText? file.path scene = some text ∨
      ∃ outcome, file.outcome = some outcome ∧ outcome.written = true ∧ outcome.text = text ∧
        after.disk.readText (Path.ofString file.path) none = .ok text)
  harmless : ∀ finding ∈ file.findings, finding.severity.atLeast failOn = false

variable {analyzer : Analyzer} {path text : String} {scene after : Scene}
  {found told result : FileResult} {made : Outcome}

/-! ### One file -/

/-- A text without a tree gives a finding of the worst kind, and any other text is evaluated. -/
theorem analyzeText_cases (h : analyzer.analyzeText text path = .ok found) :
    found.accessFault = none ∧ found.isCancelled = false ∧
      ((∃ fault, found.syntaxFault = some fault) ∧ (∃ finding ∈ found.findings, finding.severity = .error) ∨
        found.syntaxFault = none ∧ analyzer.Evaluates text path found.findings) := by
  unfold analyzeText at h
  split at h
  . next fault hfault =>
    obtain ⟨finding, hfinding, h⟩ := ThreadLint.bind_eq_ok.mp h
    cases h
    refine ⟨rfl, rfl, .inl ⟨⟨fault, rfl⟩, finding, List.mem_cons_self, ?_⟩⟩
    unfold SyntaxFault.finding at hfinding
    obtain ⟨span, _, hfinding⟩ := ThreadLint.bind_eq_ok.mp hfinding
    cases hfinding
    rfl
  . cases h
  . next parsed hparsed =>
    obtain ⟨findings, hfindings, h⟩ := ThreadLint.bind_eq_ok.mp h
    cases h
    exact ⟨rfl, rfl, .inr ⟨rfl, parsed, findings, hparsed, hfindings, rfl⟩⟩

/-- A file cannot be read, or what is found in it is the result unless its fixes are looked at. -/
theorem analyzeFile_cases (h : (analyzer.analyzeFile path).run scene = (.ok result, after)) :
    (∃ fault, analyzer.analyzedText? path scene = none ∧
      result = { path := path, findings := [fault.finding path], accessFault := some fault }) ∨
    ∃ text found, analyzer.analyzedText? path scene = some text ∧
      analyzer.analyzeText text path = .ok found ∧
      (¬ (analyzer.settings.mode = .fix ∧ found.syntaxFault = none) ∧ result = found ∨
        analyzer.settings.mode = .fix ∧ found.syntaxFault = none ∧
          (analyzer.fixFile text found).run (analyzer.beforeWriting path scene) =
            (.ok result, after)) := by
  unfold analyzeFile at h
  simp only [Run.bind_eq_ok, Run.lift_eq_ok, Run.get_eq_ok] at h
  obtain ⟨limit, _, ⟨hlimit, rfl⟩, _, _, ⟨rfl, rfl⟩, h⟩ := h
  split at h
  . next fault hfault =>
    split at h
    . exact absurd h Run.throw_ne_ok
    . obtain ⟨rfl, rfl⟩ := Run.pure_eq_ok.mp h
      exact .inl ⟨fault, by simp [analyzedText?, hlimit, hfault, Except.toOption], rfl⟩
  . next text htext =>
    have hanalyzed : analyzer.analyzedText? path scene = some text := by
      simp [analyzedText?, hlimit, htext, Except.toOption]
    have hbefore : analyzer.beforeWriting path scene = scene.meanwhile path := by
      simp [beforeWriting, hanalyzed]
    simp only [Run.bind_eq_ok, Run.modify_eq_ok, Run.lift_eq_ok, Option.isNone_iff_eq_none] at h
    obtain ⟨_, _, rfl, found, _, ⟨hfound, rfl⟩, h⟩ := h
    rw [← hbefore] at h
    refine .inr ⟨text, found, hanalyzed, hfound, ?_⟩
    split at h
    . next hmode => exact .inr ⟨hmode.1, hmode.2, h⟩
    . next hmode => exact .inl ⟨hmode, (Run.pure_eq_ok.mp h).1.symm⟩

/-- Fixes are written and what they leave is evaluated, or the result says why they are not written. -/
theorem writeBack_cases {before : Scene}
    (h : (analyzer.writeBack text told made).run before = (.ok result, after)) :
    (∃ fault, (before.disk.readText (Path.ofString told.path) none = .error fault ∨
        before.disk.writeText (Path.ofString told.path) made.text = .error fault) ∧
        result = told.withAccessFault fault) ∨
      (∃ present, before.disk.readText (Path.ofString told.path) none = .ok present ∧
        present ≠ text ∧ result = { told with fixError := some FileResult.changedReason }) ∨
      ∃ fresh, before.disk.readText (Path.ofString told.path) none = .ok text ∧
        before.disk.writeText (Path.ofString told.path) made.text = .ok after.disk ∧
        analyzer.analyzeText made.text told.path = .ok fresh ∧
        result = { told with
          outcome := some { made with written := true }
          findings := fresh.findings
          syntaxFault := fresh.syntaxFault } := by
  unfold writeBack at h
  simp only [Run.bind_eq_ok, Run.get_eq_ok] at h
  obtain ⟨_, _, ⟨rfl, rfl⟩, h⟩ := h
  split at h
  . next fault hfault => exact .inl ⟨fault, .inl hfault, (Run.pure_eq_ok.mp h).1.symm⟩
  . next present hpresent =>
    split at h
    . next hchanged =>
      exact .inr (.inl ⟨present, hpresent, by simpa using hchanged, (Run.pure_eq_ok.mp h).1.symm⟩)
    . next hkept =>
      have htext : present = text := by simpa using hkept
      rw [htext] at hpresent
      rw [Run.bind_eq_ok] at h
      obtain ⟨_, _, hget, h⟩ := h
      obtain ⟨rfl, rfl⟩ := Run.get_eq_ok.mp hget
      split at h
      . next fault hfault => exact .inl ⟨fault, .inr hfault, (Run.pure_eq_ok.mp h).1.symm⟩
      . next disk hdisk =>
        simp only [Run.bind_eq_ok, Run.modify_eq_ok, Run.lift_eq_ok, Run.pure_eq_ok] at h
        obtain ⟨_, _, rfl, fresh, _, ⟨hfresh, rfl⟩, rfl, rfl⟩ := h
        exact .inr (.inr ⟨fresh, hpresent, hdisk, hfresh, rfl⟩)

theorem intended_keeps (h : intended found text = .ok told) :
    told.path = found.path ∧ told.findings = found.findings ∧
      told.syntaxFault = found.syntaxFault ∧ told.accessFault = found.accessFault ∧
      told.isCancelled = found.isCancelled := by
  unfold intended at h
  split at h
  . cases h
    exact ⟨rfl, rfl, rfl, rfl, rfl⟩
  . split at h
    . cases h
      exact ⟨rfl, rfl, rfl, rfl, rfl⟩
    . cases h
    . cases h
      exact ⟨rfl, rfl, rfl, rfl, rfl⟩

/-- What is to be written is told of. -/
theorem outcome_of_intended (h : intended found text = .ok told)
    (hmade : outcomeOf found text found.path = .ok made) (hchanged : made.isChanged = true) :
    told.outcome = some made := by
  unfold intended at h
  split at h
  . next hempty =>
    have hkept : ∃ same, outcomeOf found text found.path = .ok same ∧ same.isChanged = false :=
      outcomeOf_of_isEmpty hempty
    obtain ⟨same, hsame, hunchanged⟩ := hkept
    rw [hmade] at hsame
    cases hsame
    rw [hchanged] at hunchanged
    cases hunchanged
  . rw [hmade] at h
    cases h
    rfl

/-- The fixes of a file are written back, or what is told of them is the result. -/
theorem fixFile_cases {before : Scene} (hnone : found.outcome = none)
    (h : (analyzer.fixFile text found).run before = (.ok result, after)) :
    ∃ told, intended found text = .ok told ∧
      ((∀ made, told.outcome = some made → made.isChanged = true →
          analyzer.settings.dryRun.isOn = true) ∧ result = told ∨
        ∃ made, told.outcome = some made ∧
          (analyzer.writeBack text told made).run before = (.ok result, after)) := by
  rw [run_fixFile hnone] at h
  split at h
  . cases h
  . next told htold =>
    refine ⟨told, htold, ?_⟩
    split at h
    . next made hmade =>
      split at h
      . exact .inr ⟨made, hmade, h⟩
      . next hkept =>
        cases h
        refine .inl ⟨?_, rfl⟩
        intro other hother hchanged
        rw [hmade] at hother
        cases hother
        simpa [hchanged] using hkept
    . next hmade =>
      cases h
      refine .inl ⟨?_, rfl⟩
      intro made hother
      rw [hmade] at hother
      cases hother

theorem IsToWrite.outcomeOf_eq (h : analyzer.IsToWrite text path made)
    (hfound : analyzer.analyzeText text path = .ok found) : outcomeOf found text path = .ok made := by
  obtain ⟨other, hother, _, hmade⟩ := h.made_eq
  rw [hfound] at hother
  cases hother
  exact hmade

/--
Whether a text can be put into a file in place of another one: the file can be read, and written too if
it holds that other text.
-/
def IsReplaceable (disk : Disk) (path text replacement : String) : Prop :=
  ∃ present, disk.readText (Path.ofString path) none = .ok present ∧
    (present = text → ∃ changed, disk.writeText (Path.ofString path) replacement = .ok changed)

/-- A file fails in no way if it has a tree and what is to be written can be. -/
theorem not_fails_of (htext : analyzer.analyzedText? path scene = some text)
    (hfound : analyzer.analyzeText text path = .ok found) (htree : found.syntaxFault = none)
    (hwrite : ∀ made, analyzer.IsToWrite text path made →
      IsReplaceable (analyzer.beforeWriting path scene).disk path text made.text) :
    ¬ analyzer.Fails path scene := by
  intro hfails
  cases hfails with
  | unread hnone =>
    rw [htext] at hnone
    cases hnone
  | unparsed other fault hother hparse =>
    rw [htext] at hother
    cases hother
    rw [(analyzeText_eq_ok hfound).2.2 fault hparse] at htree
    cases htree
  | unreadAgain other made fault hother hmade hfault =>
    rw [htext] at hother
    cases hother
    obtain ⟨present, hpresent, _⟩ := hwrite made hmade
    rw [hpresent] at hfault
    cases hfault
  | unwritten other made fault hother hmade hkept hfault =>
    rw [htext] at hother
    cases hother
    obtain ⟨present, hpresent, hchanged⟩ := hwrite made hmade
    rw [hpresent] at hkept
    cases hkept
    obtain ⟨changed, hchanged⟩ := hchanged rfl
    rw [hchanged] at hfault
    cases hfault

theorem path_of_run (h : (analyzer.analyzeFile path).run scene = (.ok result, after)) :
    result.path = path ∧ result.isCancelled = false := by
  obtain ⟨fault, _, rfl⟩ | ⟨text, found, _, hfound, hrest⟩ := analyzeFile_cases h
  . exact ⟨rfl, rfl⟩
  . obtain ⟨hpath, hnone, _⟩ := analyzeText_eq_ok hfound
    obtain ⟨_, hcancelled, _⟩ := analyzeText_cases hfound
    obtain ⟨_, rfl⟩ | ⟨_, _, hfix⟩ := hrest
    . exact ⟨hpath, hcancelled⟩
    . obtain ⟨told, htold, hcases⟩ := fixFile_cases hnone hfix
      obtain ⟨hpath', _, _, _, hcancelled'⟩ := intended_keeps htold
      rw [hpath] at hpath'
      rw [hcancelled] at hcancelled'
      obtain ⟨_, rfl⟩ | ⟨made, _, hwrite⟩ := hcases
      . exact ⟨hpath', hcancelled'⟩
      . obtain ⟨fault, _, rfl⟩ | ⟨present, _, _, rfl⟩ | ⟨fresh, _, _, _, rfl⟩ :=
          writeBack_cases hwrite
        . exact ⟨hpath', hcancelled'⟩
        . exact ⟨hpath', hcancelled'⟩
        . exact ⟨hpath', hcancelled'⟩

/--
If the result of fixing a text tells of no trouble with access and of nothing of the worst kind, what
was to be written could be, and what is left is found in the text or in its fixed form.
-/
theorem fixFile_settles {before : Scene} (hfound : analyzer.analyzeText text path = .ok found)
    (htree : found.syntaxFault = none) (hevaluates : analyzer.Evaluates text path found.findings)
    (h : (analyzer.fixFile text found).run before = (.ok result, after))
    (haccess : result.accessFault = none)
    (hmild : ¬ ∃ finding ∈ result.findings, finding.severity = .error) :
    (∀ made, analyzer.IsToWrite text path made → IsReplaceable before.disk path text made.text) ∧
      result.syntaxFault = none ∧
      (analyzer.Evaluates text path result.findings ∨
        ∃ outcome, result.outcome = some outcome ∧ outcome.written = true ∧
          analyzer.Evaluates outcome.text path result.findings ∧
          after.disk.readText (Path.ofString path) none = .ok outcome.text) := by
  obtain ⟨hpath, hnone, _⟩ := analyzeText_eq_ok hfound
  obtain ⟨told, htold, hcases⟩ := fixFile_cases hnone h
  obtain ⟨hpath', hfindings, htree', _⟩ := intended_keeps htold
  rw [hpath] at hpath'
  rw [htree] at htree'
  rw [← hfindings] at hevaluates
  have htoldMade {made : Outcome} (hmade : analyzer.IsToWrite text path made) :
      told.outcome = some made :=
    outcome_of_intended htold (hpath ▸ hmade.outcomeOf_eq hfound) hmade.isChanged
  obtain ⟨hdry, rfl⟩ | ⟨made, hmade, hwrite⟩ := hcases
  . refine ⟨?_, htree', .inl hevaluates⟩
    intro made hmade
    have hon := hdry made (htoldMade hmade) hmade.isChanged
    rw [hmade.dryRun_eq] at hon
    cases hon
  . have hcases := writeBack_cases hwrite
    rw [hpath'] at hcases
    obtain ⟨fault, _, rfl⟩ | ⟨present, hpresent, hchanged, rfl⟩ |
      ⟨fresh, hkept, hdisk, hfresh, rfl⟩ := hcases
    . cases haccess
    . refine ⟨?_, htree', .inl hevaluates⟩
      intro made hmade
      exact ⟨present, hpresent, fun heq => absurd heq hchanged⟩
    . -- The fixed text is looked at once more, and has no tree only if that is told of.
      obtain ⟨_, _, ⟨_, hworst⟩ | ⟨hfreshTree, hfreshEvaluates⟩⟩ := analyzeText_cases hfresh
      . exact absurd hworst hmild
      . refine ⟨?_, hfreshTree, .inr ⟨_, rfl, rfl, hfreshEvaluates, (Disk.readText_writeText hdisk).2⟩⟩
        intro other hother
        have heq := htoldMade hother
        rw [hmade] at heq
        cases heq
        exact ⟨text, hkept, fun _ => ⟨_, hdisk⟩⟩

/--
A file whose result tells of no trouble with access and of nothing of the worst kind went well: all
trouble leaves one of these two behind.
-/
theorem analyzeFile_settles (h : (analyzer.analyzeFile path).run scene = (.ok result, after))
    (haccess : result.accessFault = none)
    (hmild : ¬ ∃ finding ∈ result.findings, finding.severity = .error) :
    ¬ analyzer.Fails path scene ∧ result.syntaxFault = none ∧
      (∃ text findings, analyzer.analyzedText? path scene = some text ∧
        analyzer.Evaluates text path findings) ∧
      ∃ text, analyzer.Evaluates text path result.findings ∧
        (analyzer.analyzedText? path scene = some text ∨
          ∃ outcome, result.outcome = some outcome ∧ outcome.written = true ∧ outcome.text = text ∧
            after.disk.readText (Path.ofString path) none = .ok text) := by
  obtain ⟨fault, _, rfl⟩ | ⟨text, found, htext, hfound, hrest⟩ := analyzeFile_cases h
  . cases haccess
  . obtain ⟨_, _, hkind⟩ := analyzeText_cases hfound
    obtain ⟨hmode, rfl⟩ | ⟨hmode, htree, hfix⟩ := hrest
    . obtain ⟨_, hworst⟩ | ⟨htree, hevaluates⟩ := hkind
      . exact absurd hworst hmild
      . have hwrite (made : Outcome) (hmade : analyzer.IsToWrite text path made) :
            IsReplaceable (analyzer.beforeWriting path scene).disk path text made.text :=
          absurd ⟨hmade.mode_eq, htree⟩ hmode
        exact ⟨not_fails_of htext hfound htree hwrite, htree, ⟨text, _, htext, hevaluates⟩,
          text, hevaluates, .inl htext⟩
    . obtain ⟨⟨fault, hfault⟩, _⟩ | ⟨_, hevaluates⟩ := hkind
      . rw [htree] at hfault
        cases hfault
      . obtain ⟨hwrite, hresultTree, hleft⟩ :=
          fixFile_settles hfound htree hevaluates hfix haccess hmild
        refine ⟨not_fails_of htext hfound htree hwrite, hresultTree, ⟨text, _, htext, hevaluates⟩, ?_⟩
        obtain hleft | ⟨outcome, houtcome, hwritten, hleft, hholds⟩ := hleft
        . exact ⟨text, hleft, .inl htext⟩
        . exact ⟨outcome.text, hleft, .inr ⟨outcome, houtcome, hwritten, rfl, hholds⟩⟩

/-! ### All files -/

/--
Whether the files of a run come one after the other: one that is begun starts in the scene that those
in front of it have left, and leaves the scene for those behind it.
-/
inductive InTurn (step : Scene → FileResult → Scene → Prop) :
    Scene → List FileResult → Scene → Prop where
  | nil (scene : Scene) : InTurn step scene [] scene
  | skipped {scene after : Scene} {files : List FileResult} (path : String)
    (h : InTurn step scene files after) :
    InTurn step scene ({ path := path, isCancelled := true } :: files) after
  | begun {scene between after : Scene} {file : FileResult} {files : List FileResult}
    (hfile : step scene file between) (h : InTurn step between files after) :
    InTurn step scene (file :: files) after

theorem InTurn.imp {step other : Scene → FileResult → Scene → Prop} {files : List FileResult}
    (h : InTurn step scene files after)
    (himp : ∀ file ∈ files, ∀ before behind, step before file behind → other before file behind) :
    InTurn other scene files after := by
  induction h with
  | nil scene => exact .nil scene
  | skipped path _ ih =>
    exact .skipped path (ih fun file hfile => himp file (List.mem_cons_of_mem _ hfile))
  | begun hfile _ ih =>
    exact .begun (himp _ List.mem_cons_self _ _ hfile)
      (ih fun file hfile => himp file (List.mem_cons_of_mem _ hfile))

/-- Whatever holds of files that are never begun and of those that are holds of all. -/
theorem InTurn.forall_mem {step : Scene → FileResult → Scene → Prop} {files : List FileResult}
    {holds : FileResult → Prop} (h : InTurn step scene files after)
    (hskipped : ∀ path, holds { path := path, isCancelled := true })
    (hbegun : ∀ before file behind, step before file behind → holds file) :
    ∀ file ∈ files, holds file := by
  induction h with
  | nil scene => simp
  | skipped path _ ih => exact List.forall_mem_cons.mpr ⟨hskipped path, ih⟩
  | begun hfile _ ih => exact List.forall_mem_cons.mpr ⟨hbegun _ _ _ hfile, ih⟩

/-- A run goes over its files one after the other. -/
theorem analyzeFrom_inTurn {cancelAfter : Option Nat} {finished : Nat} {paths : List String}
    {batch : Batch}
    (h : (analyzer.analyzeFrom cancelAfter finished paths).run scene = (.ok batch, after)) :
    batch.files.map FileResult.path = paths ∧
      InTurn (fun before file behind =>
        (analyzer.analyzeFile file.path).run before = (.ok file, behind)) scene batch.files after := by
  induction paths generalizing finished scene batch with
  | nil =>
    obtain ⟨rfl, rfl⟩ := Run.pure_eq_ok.mp h
    exact ⟨rfl, .nil scene⟩
  | cons path paths ih =>
    unfold analyzeFrom at h
    split at h
    . obtain ⟨rest, between, hrest, h⟩ := Run.bind_eq_ok.mp h
      obtain ⟨rfl, rfl⟩ := Run.pure_eq_ok.mp h
      obtain ⟨hpaths, hturn⟩ := ih hrest
      exact ⟨by rw [List.map_cons, hpaths], .skipped path hturn⟩
    . obtain ⟨file, between, hfile, h⟩ := Run.bind_eq_ok.mp h
      obtain ⟨rest, behind, hrest, h⟩ := Run.bind_eq_ok.mp h
      obtain ⟨rfl, rfl⟩ := Run.pure_eq_ok.mp h
      obtain ⟨hpaths, hturn⟩ := ih hrest
      have hpath := (path_of_run hfile).1
      rw [← hpath] at hfile
      exact ⟨by rw [List.map_cons, hpaths, hpath], .begun hfile hturn⟩

end Analyzer

theorem Severity.atLeast_error (failOn : Severity) : Severity.error.atLeast failOn = true := by
  cases failOn with
  | error => rfl
  | warning => rfl
  | info => rfl

theorem FileResult.isComplete_iff {file : FileResult} :
    file.isComplete = true ↔
      file.accessFault = none ∧ file.syntaxFault = none ∧ file.isCancelled = false := by
  simp [isComplete, FileReport.isComplete, report, and_assoc]

theorem Report.code_status_eq_zero {report : Report} {failOn : Severity} :
    (report.status failOn).code = 0 ↔
      report.any (·.accessReason.isSome) = false ∧
        report.findings.any (·.severity.atLeast failOn) = false := by
  unfold Report.status
  split
  . next haccess => simp [haccess, ExitStatus.code]
  . next haccess =>
    split
    . next hmatters => simp [hmatters, ExitStatus.code]
    . next hmatters =>
      simp only [ExitStatus.code, true_iff]
      exact ⟨Bool.eq_false_iff.mpr haccess, Bool.eq_false_iff.mpr hmatters⟩

/-- A run ends clean exactly if there was no trouble with access and nothing that matters is left. -/
theorem Batch.code_status_eq_zero {batch : Batch} {failOn : Severity} :
    (batch.report.status failOn).code = 0 ↔
      ∀ file ∈ batch.files, file.accessFault = none ∧
        ∀ finding ∈ file.findings, finding.severity.atLeast failOn = false := by
  rw [Report.code_status_eq_zero]
  simp only [Batch.report, Report.findings, FileResult.report, List.any_map, List.any_flatMap,
    List.flatMap_map, List.any_eq_false, List.any_eq_true, Function.comp_apply, Option.isSome_map,
    Bool.not_eq_true, Option.isSome_eq_false_iff, Option.isNone_iff_eq_none, ← forall_and,
    not_exists, not_and]

namespace Analyzer

variable {analyzer : Analyzer} {scene after : Scene}

/--
A run ends clean exactly if each file that was begun went well and nothing is left in it that is as
bad as the threshold. In particular no file failed: none could not be read, had no tree, or could not
be written back.
-/
theorem analyzeFiles_clean_iff {cancelAfter : Option Nat} {paths : List String} {batch : Batch}
    (h : (analyzer.analyzeFiles cancelAfter paths).run scene = (.ok batch, after))
    (failOn : Severity) :
    batch.files.map FileResult.path = paths ∧
      ((batch.report.status failOn).code = 0 ↔
        InTurn (analyzer.IsSettled failOn) scene batch.files after) := by
  obtain ⟨hpaths, hturn⟩ := analyzeFrom_inTurn h
  refine ⟨hpaths, ?_⟩
  rw [Batch.code_status_eq_zero]
  constructor
  . intro hclean
    refine hturn.imp ?_
    intro file hfile before behind hrun
    obtain ⟨haccess, hharmless⟩ := hclean file hfile
    have hmild : ¬ ∃ finding ∈ file.findings, finding.severity = .error := by
      rintro ⟨finding, hfinding, hworst⟩
      have hnot := hharmless finding hfinding
      rw [hworst, Severity.atLeast_error] at hnot
      cases hnot
    obtain ⟨hfails, htree, hfirst, hlast⟩ := analyzeFile_settles hrun haccess hmild
    have hcomplete : file.isComplete = true :=
      FileResult.isComplete_iff.mpr ⟨haccess, htree, (path_of_run hrun).2⟩
    exact ⟨hrun, hfails, hcomplete, hfirst, hlast, hharmless⟩
  . -- Files that were never begun have neither findings nor trouble, and so cannot spoil the status.
    intro hsettled
    refine hsettled.forall_mem ?_ ?_
    . intro path
      exact ⟨rfl, by simp⟩
    . intro before file behind hfile
      exact ⟨(FileResult.isComplete_iff.mp hfile.isComplete).1, hfile.harmless⟩

/--
A run in fix mode that is cancelled after two files: the first one is fixed and then clean, the second
one is clean, and the third one, which is not there, is never begun.
-/
theorem analyzeFiles_clean_fixed :
    ∃ rule batch after, AsyncVoid.rule.rule = .ok rule ∧
      let analyzer : Analyzer :=
        ⟨{ (default : Settings) with mode := .fix, maxFileSize := .int 1 }, .ofRules [rule], .builtin []⟩
      let handler := Text.encode "class C \x7b async void M(object o, EventArgs e) \x7b \x7d \x7d"
      let empty := Text.encode "class D \x7b \x7d"
      let scene : Scene :=
        ⟨⟨[("C.cs", .file handler), ("D.cs", .file empty)], ⟨"/", []⟩, ⟨"/", []⟩⟩, []⟩
      let run := (analyzer.analyzeFiles (some 2) ["C.cs", "D.cs", "E.cs"]).run scene
      run = (.ok batch, after) ∧ batch.fixed = ["C.cs"] ∧ batch.incomplete = ["E.cs"] ∧
        (batch.report.status .info).code = 0 ∧
        InTurn (analyzer.IsSettled .info) scene batch.files after := by
  have hrun :
      (AsyncVoid.rule.rule.toOption.bind fun rule =>
        let analyzer : Analyzer :=
          ⟨{ (default : Settings) with mode := .fix, maxFileSize := .int 1 }, .ofRules [rule], .builtin []⟩
        let handler := Text.encode "class C \x7b async void M(object o, EventArgs e) \x7b \x7d \x7d"
        let empty := Text.encode "class D \x7b \x7d"
        let scene : Scene :=
          ⟨⟨[("C.cs", .file handler), ("D.cs", .file empty)], ⟨"/", []⟩, ⟨"/", []⟩⟩, []⟩
        let run := (analyzer.analyzeFiles (some 2) ["C.cs", "D.cs", "E.cs"]).run scene
        run.1.toOption.bind fun batch =>
          some (batch.fixed, batch.incomplete, (batch.report.status .info).code))
        = some (["C.cs"], ["E.cs"], 0) := by
    decide +kernel
  obtain ⟨rule, hrule, hrun⟩ := Option.bind_eq_some_iff.mp hrun
  extract_lets _ analyzer _ _ scene run at hrun
  obtain ⟨batch, hbatch, hresult⟩ := Option.bind_eq_some_iff.mp hrun
  injection hresult with hresult
  injection hresult with hfixed hresult
  injection hresult with hincomplete hcode
  have hrun : run = (.ok batch, run.2) := Prod.ext (eq_ok_of_toOption hbatch) rfl
  exact ⟨rule, batch, run.2, eq_ok_of_toOption hrule, hrun, hfixed, hincomplete, hcode,
    ((analyzeFiles_clean_iff hrun .info).2).mp hcode⟩

end Analyzer

end ThreadLint
