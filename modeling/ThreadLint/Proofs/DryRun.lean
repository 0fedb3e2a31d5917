import ThreadLint.Proofs.Run

/-!
This module contains what a dry run tells of the real run: the same comes of the fixes in both, unless
the fixed text, which only the real run analyses, cannot be analysed.
-/

namespace ThreadLint

namespace Run

variable {α β : Type} (scene : Scene)

theorem run_bind (first : Run α) (next : α → Run β) :
    (first >>= next).run scene =
      match first.run scene with
      | (.ok a, after) => (next a).run after
      | (.error fault, after) => (.error fault, after) := by
  have hbind : (first >>= next).run scene =
      ExceptT.bindCont next (first.run scene).1 (first.run scene).2 := rfl
  rw [hbind]
  rcases first.run scene with ⟨fault | a, after⟩
  . rfl
  . rfl

theorem run_get : (get : Run Scene).run scene = (.ok scene, scene) :=
  rfl

theorem run_modify (f : Scene → Scene) : (modify f : Run Unit).run scene = (.ok (), f scene) :=
  rfl

theorem run_lift (result : Except Fault α) : (liftM result : Run α).run scene = (result, scene) :=
  rfl

end Run

/-! ### Texts of a disk -/

/-- Where a text is read that keeps to a limit, it is read without a limit. -/
theorem Disk.readText_of_limit {disk : Disk} {path : Path} {limit : Int} {text : String}
    (h : disk.readText path (some limit) = .ok text) : disk.readText path none = .ok text := by
  unfold readText at h ⊢
  split at h
  . cases h
  . cases h
  . dsimp only at h
    split at h
    . cases h
    . exact h

theorem Disk.exists_storeText {disk stored : Disk} {path : Path} {text : String}
    (h : disk.storeText path text = .ok stored) (other : String) :
    ∃ stored', disk.storeText path other = .ok stored' := by
  unfold storeText at h ⊢
  split at h
  . cases h
  . split at h
    . cases h
    . exact ⟨_, rfl⟩

/-- Where some text can be written, every text can. -/
theorem Disk.exists_writeText {disk changed : Disk} {path : Path} {text : String}
    (h : disk.writeText path text = .ok changed) (other : String) :
    ∃ changed', disk.writeText path other = .ok changed' := by
  unfold writeText at h
  split at h
  . cases h
  . next stored hstored =>
    split at h
    . next hshort =>
      obtain ⟨stored', hstored'⟩ := exists_storeText hstored other
      refine ⟨stored', ?_⟩
      unfold writeText
      rw [hstored']
      exact if_pos hshort
    . cases h

/-! ### The parts of a run -/

/--
Whether the result of a dry run tells what the real run makes of the fixes: the outcome, but for a
changed text being written, and the reason why there is none.
-/
structure FileResult.Predicts (dry real : FileResult) : Prop where
  outcome_eq : real.outcome =
    dry.outcome.map fun outcome => { outcome with written := outcome.isChanged }
  fixError_eq : real.fixError = dry.fixError

namespace Analyzer

variable (analyzer : Analyzer) (path : String) (scene : Scene)

/--
The analyzer that differs only in what becomes of the fixes.
-/
def inMode (mode : Mode) (dryRun : Value) : Analyzer :=
  { analyzer with settings := { analyzer.settings with mode := mode, dryRun := dryRun } }

/--
What a run in some mode gives for a file, and the scene that it leaves.
-/
def runIn (mode : Mode) (dryRun : Value) : Except Fault FileResult × Scene :=
  ((analyzer.inMode mode dryRun).analyzeFile path).run scene

variable {analyzer path scene}

/-- The mode counts only once the text of the file has been analysed. -/
theorem runIn_eq (hkept : scene.changes.lookup path = none) (mode : Mode) (dryRun : Value) :
    analyzer.runIn path scene mode dryRun =
      match analyzer.settings.maxFileBytes with
      | .error fault => (.error fault, scene)
      | .ok limit =>
        match scene.disk.readText (Path.ofString path) (some limit) with
        | .error fault =>
          if fault.obstacle = .nullCharacter then (.error (.ofAccess fault), scene)
          else (.ok ⟨path, [fault.finding path], none, some fault, none, none, false⟩, scene)
        | .ok text =>
          match analyzer.analyzeText text path with
          | .error fault => (.error fault, scene)
          | .ok found =>
            if mode = .fix ∧ found.syntaxFault.isNone then
              ((analyzer.inMode mode dryRun).fixFile text found).run scene
            else (.ok found, scene) := by
  have hscene : scene.meanwhile path = scene := by
    unfold Scene.meanwhile
    rw [hkept]
  have hlimit : (analyzer.inMode mode dryRun).settings.maxFileBytes =
      analyzer.settings.maxFileBytes := rfl
  have hanalyze (text : String) : (analyzer.inMode mode dryRun).analyzeText text path =
      analyzer.analyzeText text path := rfl
  unfold runIn analyzeFile
  rw [Run.run_bind, Run.run_lift, hlimit]
  cases analyzer.settings.maxFileBytes with
  | error fault => rfl
  | ok limit =>
    dsimp only
    rw [Run.run_bind, Run.run_get]
    dsimp only
    cases scene.disk.readText (Path.ofString path) (some limit) with
    | error fault =>
      dsimp only
      split
      . rfl
      . rfl
    | ok text =>
      dsimp only
      rw [Run.run_bind, Run.run_modify, hscene]
      dsimp only
      rw [Run.run_bind, Run.run_lift, hanalyze]
      cases analyzer.analyzeText text path with
      | error fault => rfl
      | ok found =>
        dsimp only
        split
        . next hmode => exact (if_pos hmode).symm
        . next hmode => exact (if_neg hmode).symm

/--
A file that nobody else changes gives the same in each mode, or its text is analysed and the mode
decides whether its fixes are looked at.
-/
theorem runIn_cases (hkept : scene.changes.lookup path = none) :
    (∃ given, (∀ mode dryRun, analyzer.runIn path scene mode dryRun = (given, scene)) ∧
      ∀ result, given = .ok result →
        result.outcome = none ∧ analyzer.analyzedText? path scene = none) ∨
    ∃ text found, analyzer.analyzedText? path scene = some text ∧
      scene.disk.readText (Path.ofString path) none = .ok text ∧
      analyzer.analyzeText text path = .ok found ∧
      ∀ mode dryRun, analyzer.runIn path scene mode dryRun =
        if mode = .fix ∧ found.syntaxFault.isNone then
          ((analyzer.inMode mode dryRun).fixFile text found).run scene
        else (.ok found, scene) := by
  have hrun := @runIn_eq analyzer path scene hkept
  cases hlimit : analyzer.settings.maxFileBytes with
  | error fault =>
    simp only [hlimit] at hrun
    refine .inl ⟨_, hrun, ?_⟩
    rintro result ⟨⟩
  | ok limit =>
    simp only [hlimit] at hrun
    cases hread : scene.disk.readText (Path.ofString path) (some limit) with
    | error fault =>
      simp only [hread] at hrun
      split at hrun
      . refine .inl ⟨_, hrun, ?_⟩
        rintro result ⟨⟩
      . refine .inl ⟨_, hrun, ?_⟩
        rintro result ⟨⟩
        exact ⟨rfl, by simp [analyzedText?, hlimit, hread, Except.toOption]⟩
    | ok text =>
      simp only [hread] at hrun
      cases hfound : analyzer.analyzeText text path with
      | error fault =>
        simp only [hfound] at hrun
        refine .inl ⟨_, hrun, ?_⟩
        rintro result ⟨⟩
      | ok found =>
        simp only [hfound] at hrun
        exact .inr ⟨text, found, by simp [analyzedText?, hlimit, hread, Except.toOption],
          Disk.readText_of_limit hread, hfound, hrun⟩

/-! ### Fixes in a run -/

/--
What a run tells of the fixes of a text before anything is written.
-/
def intended (found : FileResult) (text : String) : Except Fault FileResult :=
  if (found.findings.filter fun finding => finding.fix.isSome).isEmpty then .ok found
  else
    match outcomeOf found text found.path with
    | .error (.fixConflict fault _) => .ok { found with fixError := some (Fault.conflictReason fault) }
    | .error fault => .error fault
    | .ok outcome => .ok { found with outcome := some outcome }

variable {text : String} {found result : FileResult} {outcome : Outcome}

theorem intended_eq_ok (h : intended found text = .ok result) :
    result.findings = found.findings ∧ result.path = found.path ∧ (found.outcome = none →
      ∀ outcome, result.outcome = some outcome →
        outcomeOf found text found.path = .ok outcome ∧ outcome.written = false) := by
  unfold intended at h
  split at h
  . cases h
    refine ⟨rfl, rfl, ?_⟩
    intro hnone outcome houtcome
    rw [hnone] at houtcome
    cases houtcome
  . split at h
    . cases h
      refine ⟨rfl, rfl, ?_⟩
      intro hnone outcome houtcome
      rw [hnone] at houtcome
      cases houtcome
    . cases h
    . next made hmade =>
      cases h
      refine ⟨rfl, rfl, ?_⟩
      rintro _ outcome ⟨⟩
      exact ⟨hmade, written_ofFindings hmade⟩

/-- A run writes what it tells of unless it is a dry run or the text remains as it is. -/
theorem run_fixFile (hnone : found.outcome = none) :
    (analyzer.fixFile text found).run scene =
      match intended found text with
      | .error fault => (.error fault, scene)
      | .ok result =>
        match result.outcome with
        | some outcome =>
          if outcome.isChanged && !analyzer.settings.dryRun.isOn then
            (analyzer.writeBack text result outcome).run scene
          else (.ok result, scene)
        | none => (.ok result, scene) := by
  unfold fixFile intended outcomeOf
  extract_lets fixable
  split
  . simp only [hnone]
    rfl
  . cases Outcome.ofFindings text fixable (some found.path) true with
    | error fault =>
      cases fault with
      | fixConflict fault label =>
        simp only [hnone]
        rfl
      | _ => rfl
    | ok outcome =>
      dsimp only
      split
      . rfl
      . rfl

/-- A file that holds what was analysed and may be written is written, and then analysed again. -/
theorem run_writeBack {disk : Disk}
    (hkept : scene.disk.readText (Path.ofString result.path) none = .ok text)
    (hwrite : scene.disk.writeText (Path.ofString result.path) outcome.text = .ok disk) :
    (analyzer.writeBack text result outcome).run scene =
      match analyzer.analyzeText outcome.text result.path with
      | .error fault => (.error fault, { scene with disk := disk })
      | .ok fresh =>
        (.ok { result with
          outcome := some { outcome with written := true }
          findings := fresh.findings
          syntaxFault := fresh.syntaxFault }, { scene with disk := disk }) := by
  unfold writeBack
  rw [Run.run_bind, Run.run_get]
  dsimp only
  rw [hkept]
  dsimp only
  rw [if_neg (by simp), Run.run_bind, Run.run_get]
  dsimp only
  rw [hwrite]
  dsimp only
  rw [Run.run_bind, Run.run_modify]
  dsimp only
  rw [Run.run_bind, Run.run_lift]
  cases analyzer.analyzeText outcome.text result.path with
  | error fault => rfl
  | ok fresh => rfl

/-- Without fixes a text remains as it is. -/
theorem outcomeOf_of_isEmpty
    (h : (found.findings.filter fun finding => finding.fix.isSome).isEmpty = true) :
    ∃ outcome, outcomeOf found text path = .ok outcome ∧ outcome.isChanged = false := by
  unfold outcomeOf
  rw [List.isEmpty_iff.1 h]
  have hselection (length : Nat) (label : String) :
      Selection.ofFindings length label [] = .ok Selection.empty := by
    unfold Selection.ofFindings Finding.sorted
    rw [List.mergeSort_nil]
    rfl
  have hsplice : String.ofList (Edit.splice text.toList Selection.empty.accepted) = text := by
    have hnil : Edit.splice text.toList [] = text.toList := by
      unfold Edit.splice
      rw [List.mergeSort_nil, List.foldl_nil]
    rw [Selection.empty, hnil, String.ofList_toList]
  have hchanged : (true && text != text) = false := by simp
  unfold Outcome.ofFindings
  simp only [hselection, bind, Except.bind, hsplice, hchanged]
  exact ⟨_, rfl, by simp [Outcome.isChanged]⟩

/--
Whether a run can go through the fixes of a text: it can tell what comes of them or that the fixed
text has no tree, and it can analyse the fixed text.
-/
structure RunsThrough (analyzer : Analyzer) (found : FileResult) (text path : String) : Prop where
  told : ∀ fault, outcomeOf found text path = .error fault →
    ∃ reason label, fault = .fixConflict reason label
  again : ∀ outcome, outcomeOf found text path = .ok outcome → outcome.isChanged = true →
    ∃ fresh, analyzer.analyzeText outcome.text path = .ok fresh

theorem runsThrough_iff (hpath : found.path = path) (hnone : found.outcome = none) :
    analyzer.RunsThrough found text path ↔ ∃ result, intended found text = .ok result ∧
      ∀ outcome, result.outcome = some outcome → outcome.isChanged = true →
        ∃ fresh, analyzer.analyzeText outcome.text path = .ok fresh := by
  subst hpath
  by_cases hempty : (found.findings.filter fun finding => finding.fix.isSome).isEmpty = true
  . obtain ⟨made, hmade, hsame⟩ := outcomeOf_of_isEmpty hempty
    constructor
    . intro _
      refine ⟨found, if_pos hempty, ?_⟩
      intro outcome houtcome
      rw [hnone] at houtcome
      cases houtcome
    . intro _
      constructor
      . intro fault hfault
        rw [hmade] at hfault
        cases hfault
      . intro outcome houtcome hchanged
        rw [hmade] at houtcome
        cases houtcome
        rw [hsame] at hchanged
        cases hchanged
  . unfold intended
    rw [if_neg hempty]
    cases hmade : outcomeOf found text found.path with
    | ok made =>
      constructor
      . intro h
        refine ⟨_, rfl, ?_⟩
        rintro outcome ⟨⟩
        exact h.again made hmade
      . rintro ⟨result, ⟨⟩, hagain⟩
        refine ⟨?_, ?_⟩
        . intro fault hfault
          rw [hmade] at hfault
          cases hfault
        . intro outcome houtcome
          rw [hmade] at houtcome
          cases houtcome
          exact hagain made rfl
    | error fault =>
      constructor
      . intro h
        obtain ⟨reason, label, rfl⟩ := h.told fault hmade
        refine ⟨_, rfl, ?_⟩
        intro outcome houtcome
        rw [hnone] at houtcome
        cases houtcome
      . rintro ⟨result, hresult, _⟩
        refine ⟨?_, ?_⟩
        . intro fault' hfault
          rw [hmade] at hfault
          cases hfault
          split at hresult
          . next reason label hconflict =>
            cases hconflict
            exact ⟨reason, label, rfl⟩
          . cases hresult
          . next heq => cases heq
        . intro outcome houtcome
          rw [hmade] at houtcome
          cases houtcome

/-! ### Dry runs and real runs -/

variable {on off : Value}

/-- What runs do that come as far as to look at the fixes of a text. -/
theorem fixFile_predicts_iff (hon : on.isOn = true) (hoff : off.isOn = false)
    (hread : scene.disk.readText (Path.ofString path) none = .ok text)
    (hwrites : ∀ text, ∃ disk, scene.disk.writeText (Path.ofString path) text = .ok disk)
    (hfound : analyzer.analyzeText text path = .ok found) :
    let dry := ((analyzer.inMode .fix on).fixFile text found).run scene
    let real := ((analyzer.inMode .fix off).fixFile text found).run scene
    dry.2 = scene ∧
      (∀ predicted, dry.1 = .ok predicted → predicted.findings = found.findings) ∧
      ((∃ predicted done, dry.1 = .ok predicted ∧ real.1 = .ok done ∧ predicted.Predicts done) ↔
        analyzer.RunsThrough found text path) := by
  intro dry real
  obtain ⟨hpath, hnone, _⟩ := analyzeText_eq_ok hfound
  have hdry : dry = (intended found text, scene) := by
    have hmode : (analyzer.inMode .fix on).settings.dryRun.isOn = true := hon
    simp only [dry, run_fixFile hnone, hmode, Bool.not_true, Bool.and_false]
    cases intended found text with
    | error fault => rfl
    | ok result =>
      dsimp only
      split
      . rfl
      . rfl
  rw [runsThrough_iff hpath hnone, hdry]
  refine ⟨rfl, fun predicted h => (intended_eq_ok h).1, ?_⟩
  cases hintended : intended found text with
  | error fault =>
    constructor
    . rintro ⟨predicted, _, h, _⟩
      cases h
    . rintro ⟨result, h, _⟩
      cases h
  | ok predicted =>
    obtain ⟨_, hpath', houtcome⟩ := intended_eq_ok hintended
    have hmode : (analyzer.inMode .fix off).settings.dryRun.isOn = false := hoff
    have hreal : real = _ := run_fixFile hnone
    simp only [hintended, hmode, Bool.not_false, Bool.and_true] at hreal
    cases hout : predicted.outcome with
    | none =>
      simp only [hout] at hreal
      rw [hreal]
      constructor
      . intro _
        refine ⟨predicted, rfl, ?_⟩
        rintro outcome h
        rw [hout] at h
        cases h
      . intro _
        exact ⟨predicted, predicted, rfl, rfl, by rw [hout]; rfl, rfl⟩
    | some outcome =>
      obtain ⟨_, hnot⟩ := houtcome hnone outcome hout
      simp only [hout] at hreal
      by_cases hchanged : outcome.isChanged = true
      . obtain ⟨disk, hdisk⟩ := hwrites outcome.text
        rw [← hpath, ← hpath'] at hread hdisk
        rw [if_pos hchanged, run_writeBack hread hdisk] at hreal
        have hanalyze : (analyzer.inMode .fix off).analyzeText outcome.text predicted.path =
            analyzer.analyzeText outcome.text path := by
          rw [hpath', hpath]
          rfl
        rw [hanalyze] at hreal
        constructor
        . rintro ⟨_, done, _, hdone, _⟩
          refine ⟨predicted, rfl, ?_⟩
          rintro outcome' h _
          rw [hout] at h
          cases h
          cases hfresh : analyzer.analyzeText outcome.text path with
          | error fault =>
            rw [hfresh] at hreal
            rw [hreal] at hdone
            cases hdone
          | ok fresh => exact ⟨fresh, rfl⟩
        . rintro ⟨_, ⟨⟩, hagain⟩
          obtain ⟨fresh, hfresh⟩ := hagain outcome hout hchanged
          rw [hfresh] at hreal
          rw [hreal]
          refine ⟨predicted, _, rfl, rfl, ?_, rfl⟩
          rw [hout, Option.map_some, hchanged]
      . rw [if_neg hchanged] at hreal
        rw [hreal]
        constructor
        . intro _
          refine ⟨predicted, rfl, ?_⟩
          intro outcome' h hchanged'
          rw [hout] at h
          cases h
          exact absurd hchanged' hchanged
        . intro _
          refine ⟨predicted, predicted, rfl, rfl, ?_, rfl⟩
          have hsame : outcome.isChanged = outcome.written := by
            rw [hnot]
            simpa using hchanged
          rw [hout, Option.map_some, hsame]

/--
A dry run leaves everything as it is and finds what a run finds that only reports. It tells what the
real run makes of the fixes exactly if a run can go through them: the fixed text, which only the real
run analyses, must be one that can be analysed.
-/
theorem dryRun_predicts_iff (hon : on.isOn = true) (hoff : off.isOn = false)
    (hkept : scene.changes.lookup path = none)
    (hwrites : ∀ text, ∃ disk, scene.disk.writeText (Path.ofString path) text = .ok disk) :
    let report := analyzer.runIn path scene .report off
    let dry := analyzer.runIn path scene .fix on
    let real := analyzer.runIn path scene .fix off
    dry.2 = scene ∧
      (∀ fault, report.1 = .error fault → dry.1 = .error fault ∧ real.1 = .error fault) ∧
      ∀ reported, report.1 = .ok reported →
        (∀ predicted, dry.1 = .ok predicted → predicted.findings = reported.findings) ∧
        ((∃ predicted done, dry.1 = .ok predicted ∧ real.1 = .ok done ∧ predicted.Predicts done) ↔
          ∀ text, analyzer.analyzedText? path scene = some text → reported.syntaxFault = none →
            analyzer.RunsThrough reported text path) := by
  intro report dry real
  have hcases := @runIn_cases analyzer path scene hkept
  obtain ⟨given, hgiven, hunread⟩ | ⟨text, found, htext, hread, hfound, hrun⟩ := hcases
  . have hreport : report = (given, scene) := hgiven .report off
    have hdry : dry = (given, scene) := hgiven .fix on
    have hreal : real = (given, scene) := hgiven .fix off
    rw [hreport, hdry, hreal]
    refine ⟨rfl, fun fault h => ⟨h, h⟩, ?_⟩
    intro reported hreported
    obtain ⟨hnone, hunread⟩ := hunread reported hreported
    refine ⟨?_, ?_⟩
    . intro predicted hpredicted
      rw [hreported] at hpredicted
      cases hpredicted
      rfl
    . constructor
      . intro _ text htext
        rw [hunread] at htext
        cases htext
      . intro _
        exact ⟨reported, reported, hreported, hreported, by rw [hnone]; rfl, rfl⟩
  . have hreport : report = (.ok found, scene) := hrun .report off
    have hdry : dry = _ := hrun .fix on
    have hreal : real = _ := hrun .fix off
    rw [hreport]
    cases hflawed : found.syntaxFault with
    | none =>
      rw [if_pos ⟨rfl, by rw [hflawed]; rfl⟩] at hdry hreal
      obtain ⟨hscene, hfindings, hpredicts⟩ := fixFile_predicts_iff hon hoff hread hwrites hfound
      rw [← hdry] at hscene hfindings hpredicts
      rw [← hreal] at hpredicts
      refine ⟨hscene, nofun, ?_⟩
      rintro reported ⟨⟩
      refine ⟨hfindings, hpredicts.trans ?_⟩
      constructor
      . intro h text' htext' _
        rw [htext] at htext'
        cases htext'
        exact h
      . intro h
        exact h text htext hflawed
    | some fault =>
      have hnot (mode : Mode) : ¬ (mode = .fix ∧ found.syntaxFault.isNone = true) := by simp [hflawed]
      rw [if_neg (hnot .fix)] at hdry hreal
      rw [hdry, hreal]
      obtain ⟨_, hnone, _⟩ := analyzeText_eq_ok hfound
      refine ⟨rfl, nofun, ?_⟩
      rintro reported ⟨⟩
      refine ⟨?_, ?_⟩
      . rintro predicted ⟨⟩
        rfl
      . constructor
        . intro _ text' _ hnone
          rw [hflawed] at hnone
          cases hnone
        . intro _
          exact ⟨found, found, rfl, rfl, by rw [hnone]; rfl, rfl⟩

/-- The fixes of a handler that returns nothing are written as the dry run tells. -/
theorem dryRun_predicts_handler :
    ∃ rule predicted done, AsyncVoid.rule.rule = .ok rule ∧
      let analyzer : Analyzer :=
        ⟨{ (default : Settings) with maxFileSize := .int 1 }, .ofRules [rule], .builtin []⟩
      let text := "class C \x7b async void M(object o, EventArgs e) \x7b \x7d \x7d"
      let scene : Scene :=
        ⟨⟨[("C.cs", .file (Text.encode text))], ⟨"/", []⟩, ⟨"/", []⟩⟩, []⟩
      (analyzer.runIn "C.cs" scene .fix (.bool true)).1 = .ok predicted ∧
        (analyzer.runIn "C.cs" scene .fix (.bool false)).1 = .ok done ∧
        predicted.Predicts done ∧ done.outcome.any (fun outcome => outcome.written) = true ∧
        ∀ reported, (analyzer.runIn "C.cs" scene .report (.bool false)).1 = .ok reported →
          reported.syntaxFault = none → predicted.findings = reported.findings ∧
            analyzer.RunsThrough reported text "C.cs" := by
  have hrun :
      (AsyncVoid.rule.rule.toOption.bind fun rule =>
        let analyzer : Analyzer :=
          ⟨{ (default : Settings) with maxFileSize := .int 1 }, .ofRules [rule], .builtin []⟩
        let text := "class C \x7b async void M(object o, EventArgs e) \x7b \x7d \x7d"
        let scene : Scene :=
          ⟨⟨[("C.cs", .file (Text.encode text))], ⟨"/", []⟩, ⟨"/", []⟩⟩, []⟩
        (analyzer.runIn "C.cs" scene .fix (.bool true)).1.toOption.bind fun predicted =>
          (analyzer.runIn "C.cs" scene .fix (.bool false)).1.toOption.bind fun done =>
            some (decide (
              (done.outcome = predicted.outcome.map fun outcome =>
                { outcome with written := outcome.isChanged }) ∧
              done.fixError = predicted.fixError ∧
              done.outcome.any (fun outcome => outcome.written) = true ∧
              analyzer.analyzedText? "C.cs" scene = some text ∧
              (scene.disk.writeText (Path.ofString "C.cs") text).isOk = true))) = some true := by
    decide +kernel
  obtain ⟨rule, hrule, hrun⟩ := Option.bind_eq_some_iff.mp hrun
  extract_lets _ analyzer text scene at hrun
  obtain ⟨predicted, hpredicted, hrun⟩ := Option.bind_eq_some_iff.mp hrun
  obtain ⟨done, hdone, hrun⟩ := Option.bind_eq_some_iff.mp hrun
  obtain ⟨houtcome, herror, hwritten, htext, hwrite⟩ := of_decide_eq_true (Option.some.inj hrun)
  obtain ⟨disk, hwrite⟩ := exists_eq_ok hwrite
  have hpredicted := eq_ok_of_toOption hpredicted
  have hdone := eq_ok_of_toOption hdone
  have hpredicts : predicted.Predicts done := ⟨houtcome, herror⟩
  refine ⟨rule, predicted, done, eq_ok_of_toOption hrule, hpredicted, hdone, hpredicts, hwritten, ?_⟩
  intro reported hreported hflawed
  obtain ⟨_, _, h⟩ := @dryRun_predicts_iff analyzer "C.cs" scene (.bool true) (.bool false) rfl rfl
    rfl (Disk.exists_writeText hwrite)
  obtain ⟨hfindings, hiff⟩ := h reported hreported
  exact ⟨hfindings predicted hpredicted,
    hiff.1 ⟨predicted, done, hpredicted, hdone, hpredicts⟩ text htext hflawed⟩

/--
A method that returns nothing is not looked into for waits. Once it returns a task it is, and the
wait for an empty list cannot be told of: the dry run tells of the fix and the real run breaks off
with the fixed text written.
-/
theorem dryRun_of_emptyOperand :
    ∃ rules predicted, [AsyncVoid.rule, BlockingWait.rule].mapM RuleDefinition.rule = .ok rules ∧
      let analyzer : Analyzer :=
        ⟨{ (default : Settings) with maxFileSize := .int 1 }, .ofRules rules, .builtin []⟩
      let text := "using System.Threading.Tasks;" ++
        "class C \x7b async void M(object s, EventArgs e) \x7b Task.WaitAll([]); \x7d \x7d"
      let scene : Scene :=
        ⟨⟨[("A.cs", .file (Text.encode text))], ⟨"/", []⟩, ⟨"/", []⟩⟩, []⟩
      let real := analyzer.runIn "A.cs" scene .fix (.bool false)
      (analyzer.runIn "A.cs" scene .fix (.bool true)).1 = .ok predicted ∧
        predicted.fixError = none ∧ predicted.outcome.any (fun outcome => outcome.isChanged) = true ∧
        real.1 = .error .emptyOperand ∧
        (real.2.disk.readText (Path.ofString "A.cs") none).toOption =
          predicted.outcome.map fun outcome => outcome.text := by
  have hrun :
      ([AsyncVoid.rule, BlockingWait.rule].mapM RuleDefinition.rule).toOption.bind (fun rules =>
        let analyzer : Analyzer :=
          ⟨{ (default : Settings) with maxFileSize := .int 1 }, .ofRules rules, .builtin []⟩
        let text := "using System.Threading.Tasks;" ++
          "class C \x7b async void M(object s, EventArgs e) \x7b Task.WaitAll([]); \x7d \x7d"
        let scene : Scene :=
          ⟨⟨[("A.cs", .file (Text.encode text))], ⟨"/", []⟩, ⟨"/", []⟩⟩, []⟩
        let real := analyzer.runIn "A.cs" scene .fix (.bool false)
        (analyzer.runIn "A.cs" scene .fix (.bool true)).1.toOption.bind fun predicted =>
          some (decide (
            predicted.fixError = none ∧ predicted.outcome.any (fun outcome => outcome.isChanged) = true ∧
            real.1 = .error .emptyOperand ∧
            (real.2.disk.readText (Path.ofString "A.cs") none).toOption =
              predicted.outcome.map fun outcome => outcome.text))) = some true := by
    decide +kernel
  obtain ⟨rules, hrules, hrun⟩ := Option.bind_eq_some_iff.mp hrun
  extract_lets _ analyzer text scene real at hrun
  obtain ⟨predicted, hpredicted, hrun⟩ := Option.bind_eq_some_iff.mp hrun
  obtain ⟨herror, hchanged, hfault, htext⟩ := of_decide_eq_true (Option.some.inj hrun)
  exact ⟨rules, predicted, eq_ok_of_toOption hrules, eq_ok_of_toOption hpredicted, herror, hchanged,
    hfault, htext⟩

end Analyzer

end ThreadLint
