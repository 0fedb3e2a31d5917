import ThreadLint.Proofs.Except
import ThreadLint.Proofs.Keyed
import ThreadLint.Settings.Source

/-!
This module contains which source of settings wins. Every setting has what is said about it by the
source that counts most. The symbols have two keys, and what stands under one of them is put on top of
what stands under the other whichever sources say it: there the order of the sources is lost.
-/

namespace ThreadLint.Settings

/-! ### What the sources say -/

/--
Whether an entry says anything: null does not.
-/
def isSaid (entry : String × Value) : Bool :=
  match entry.2 with
  | .null => false
  | _ => true

/--
Whether a switch is set.
-/
def isSet (stated : Entries) (key : String) : Bool :=
  (stated.lookup key).any Value.isOn

/--
What the user says about a setting for a run. The switches for less and for more output speak of the
verbosity.
-/
def override? (stated : Entries) (key : String) : Option Value :=
  if key = "verbosity" ∧ isSet stated "quiet" = true then some (.text "quiet")
  else if key = "verbosity" ∧ isSet stated "verbose" = true then some (.text "verbose")
  else Keyed.last? (stated.filter isSaid) key

/--
What the environment says about a setting.
-/
def exported? (environment : Keyed String) (key : String) : Option Value := do
  let kind ← variableKind? key
  let text ← environment.lookup (variableName key)
  (variableValue kind text).toOption

/--
What is said about a setting by the source that counts most of those that speak of it: the user, the
environment, and then the files, of which those in front count more.
-/
def said? (stated : Entries) (environment : Keyed String) (files : List Entries) (key : String) :
    Option Value :=
  (override? stated key).or
    ((exported? environment key).or (files.findSome? fun file => file.last? key))

/--
What a setting is if nothing is said about it.
-/
def standard (key : String) : Value :=
  (defaults.lookup key).getD .null

/--
The settings in the file that is named for a run.
-/
def inNamedFile (disk : Disk) (configFile : Option String) : Except Fault Stated :=
  match configFile with
  | some written => inFile disk (Path.ofString written)
  | none => .ok {}

/-- An entry that is set under a condition is what is kept last under its key if the condition holds. -/
theorem last?_filter_putIf (table : Entries) (key : String) {other : String} {value : Value}
    (hsaid : isSaid (other, value) = true) (isOn : Bool) :
    Keyed.last? (List.filter isSaid (if isOn = true then table.put other value else table)) key =
      if key = other ∧ isOn = true then some value else Keyed.last? (table.filter isSaid) key := by
  cases isOn with
  | true => simp only [if_true, and_true, Keyed.last?_filter_put hsaid]
  | false => simp

theorem last?_statedEntries (stated : Entries) {key : String} (hverbose : key ≠ "verbose")
    (hquiet : key ≠ "quiet") : (statedEntries stated).last? key = override? stated key := by
  have hcomm (entries : Entries) (other : String) :
      List.filter isSaid (entries.erase other) = Keyed.erase (entries.filter isSaid) other := by
    rw [Keyed.erase, Keyed.erase, List.filter_filter, List.filter_filter]
    exact List.filter_congr fun entry _ => Bool.and_comm _ _
  have hstated : statedEntries stated = List.filter isSaid
      (let plain := (stated.erase "verbose").erase "quiet"
       let louder :=
        if isSet stated "verbose" = true then plain.put "verbosity" (.text "verbose") else plain
       if isSet stated "quiet" = true then louder.put "verbosity" (.text "quiet") else louder) := rfl
  rw [hstated, last?_filter_putIf _ key rfl, last?_filter_putIf _ key rfl, hcomm, hcomm,
    Keyed.last?_erase_of_ne _ hquiet, Keyed.last?_erase_of_ne _ hverbose]
  rfl

/-- What is read for names one by one is what the table of all results holds last under each name. -/
theorem last?_of_mapM {f : String → Except Fault (Option (String × Value))}
    (value? : String → Option Value)
    (hf : ∀ key result, f key = .ok result → result = (value? key).map fun value => (key, value))
    {names : List String} {found : List (Option (String × Value))} (h : names.mapM f = .ok found)
    (key : String) :
    Keyed.last? (found.filterMap id) key = if key ∈ names then value? key else none := by
  induction names generalizing found with
  | nil =>
    cases h
    rfl
  | cons name names ih =>
    rw [List.mapM_cons] at h
    obtain ⟨result, hresult, h⟩ := bind_eq_ok.mp h
    obtain ⟨rest, hrest, h⟩ := bind_eq_ok.mp h
    cases h
    have hresult := hf name result hresult
    cases hvalue : value? name with
    | none =>
      rw [hvalue] at hresult
      rw [List.filterMap_cons_none hresult, ih hrest]
      by_cases hkey : key = name
      . simp [hkey, hvalue]
      . simp [hkey]
    | some value =>
      rw [hvalue] at hresult
      rw [List.filterMap_cons_some hresult, Keyed.last?_cons, ih hrest]
      by_cases hkey : key = name
      . by_cases hmem : name ∈ names
        . simp [hkey, hvalue, hmem]
        . simp [hkey, hvalue, hmem]
      . simp [hkey]

theorem last?_environmentEntries {environment : Keyed String} {exported : Entries}
    (h : environmentEntries environment = .ok exported) (key : String) :
    exported.last? key = exported? environment key := by
  obtain ⟨found, hfound, h⟩ := bind_eq_ok.mp h
  cases h
  rw [last?_of_mapM (exported? environment) ?_ hfound key]
  . split
    . rfl
    . next hkey =>
      have hkind : variableKind? key = none := by
        simp only [keys, defaults, List.map_cons, List.map_nil, List.mem_cons, not_or] at hkey
        rw [variableKind?, List.lookup_eq_none_iff]
        simp [hkey]
      rw [exported?, hkind]
      rfl
  . intro key result hresult
    unfold exported?
    split at hresult
    . next kind text hkind htext =>
      split at hresult
      . next value hvalue =>
        cases hresult
        simp [hkind, htext, hvalue, Except.toOption]
      . cases hresult
    . next hnone =>
      cases hresult
      cases hkind : variableKind? key with
      | none => rfl
      | some kind =>
        cases htext : environment.lookup (variableName key) with
        | none => rfl
        | some text => exact absurd htext (hnone kind text hkind)

/-! ### What the merged sources give -/

/--
Whether settings are what some values give. Lists of texts may be written as one text with commas,
and the words of vocabularies in any letter case.
-/
structure IsGivenBy (settings : Settings) (value : String → Value) : Prop where
  rulesets_eq : texts "rulesets" (value "rulesets") = .ok (settings.rulesets.map Spelled.written)
  categories_eq : ∀ ruleset ∈ settings.rulesets, Category.ofWord ruleset.written = .ok ruleset.meaning
  disabledRules_eq : texts "disabled_rules" (value "disabled_rules") = .ok settings.disabledRules
  mode_eq : value "mode" = .text settings.mode.name
  dryRun_eq : value "dry_run" = settings.dryRun
  failOn_eq : (value "fail_on").shown = .ok settings.failOn.written
  severity_eq : Severity.ofWord settings.failOn.written = .ok settings.failOn.meaning
  maxWorkers_eq : value "max_workers" = settings.maxWorkers
  extensions_eq : texts "extensions" (value "extensions") = .ok settings.extensions
  excludePatterns_eq : texts "exclude_patterns" (value "exclude_patterns") = .ok settings.excludePatterns
  maxFileSize_eq : value "max_file_size_mb" = settings.maxFileSize
  allowHiddenFiles_eq : value "allow_hidden_files" = settings.allowHiddenFiles
  followSymlinks_eq : value "follow_symlinks" = settings.followSymlinks
  outputFormat_eq : value "output_format" = .text settings.outputFormat.name
  verbosity_eq : value "verbosity" = .text settings.verbosity.name

/-- Only what settings are called matters. Symbols are no such setting. -/
theorem IsGivenBy.congr {settings : Settings} {value other : String → Value}
    (h : settings.IsGivenBy value)
    (heq : ∀ key ∈ keys, key ≠ "extra_symbols" → value key = other key) : settings.IsGivenBy other where
  rulesets_eq := heq "rulesets" (by decide) (by decide) ▸ h.rulesets_eq
  categories_eq := h.categories_eq
  disabledRules_eq := heq "disabled_rules" (by decide) (by decide) ▸ h.disabledRules_eq
  mode_eq := heq "mode" (by decide) (by decide) ▸ h.mode_eq
  dryRun_eq := heq "dry_run" (by decide) (by decide) ▸ h.dryRun_eq
  failOn_eq := heq "fail_on" (by decide) (by decide) ▸ h.failOn_eq
  severity_eq := h.severity_eq
  maxWorkers_eq := heq "max_workers" (by decide) (by decide) ▸ h.maxWorkers_eq
  extensions_eq := heq "extensions" (by decide) (by decide) ▸ h.extensions_eq
  excludePatterns_eq := heq "exclude_patterns" (by decide) (by decide) ▸ h.excludePatterns_eq
  maxFileSize_eq := heq "max_file_size_mb" (by decide) (by decide) ▸ h.maxFileSize_eq
  allowHiddenFiles_eq := heq "allow_hidden_files" (by decide) (by decide) ▸ h.allowHiddenFiles_eq
  followSymlinks_eq := heq "follow_symlinks" (by decide) (by decide) ▸ h.followSymlinks_eq
  outputFormat_eq := heq "output_format" (by decide) (by decide) ▸ h.outputFormat_eq
  verbosity_eq := heq "verbosity" (by decide) (by decide) ▸ h.verbosity_eq

theorem refused_ne_ok {α : Type} {value : Value} {key : String} {problem : SettingProblem} {a : α} :
    value.refused key problem ≠ .ok a := by
  intro h
  obtain ⟨_, _, h⟩ := bind_eq_ok.mp h
  cases h

/-- The results of items that stay as they are, or carry what they are made from, are these items. -/
theorem map_of_mapM {α β : Type} {f : α → Except Fault β} {source : β → α}
    (hf : ∀ a b, f a = .ok b → source b = a) {items : List α} {results : List β}
    (h : items.mapM f = .ok results) : results.map source = items := by
  induction items generalizing results with
  | nil =>
    cases h
    rfl
  | cons a items ih =>
    rw [List.mapM_cons] at h
    obtain ⟨first, hfirst, h⟩ := bind_eq_ok.mp h
    obtain ⟨rest, hrest, h⟩ := bind_eq_ok.mp h
    cases h
    rw [List.map_cons, ih hrest, hf a first hfirst]

theorem choice_eq_ok {α : Type} {key : String} {choices : List α} {name : α → String}
    {problem : SettingProblem} {value : Value} {meaning : α}
    (h : choice key (choices.map fun a => (name a, a)) problem value = .ok meaning) :
    value = .text (name meaning) := by
  unfold choice at h
  split at h
  . next word =>
    split at h
    . next found hfound =>
      cases h
      obtain ⟨front, back, heq, _⟩ := List.lookup_eq_some_iff.mp hfound
      have hmem : (word, meaning) ∈ choices.map fun a => (name a, a) := by
        rw [heq]
        exact List.mem_append_right _ List.mem_cons_self
      obtain ⟨a, _, ha⟩ := List.mem_map.mp hmem
      cases ha
      rfl
    . exact absurd h refused_ne_ok
  . exact absurd h refused_ne_ok

theorem category_eq_ok {written : String} {ruleset : Spelled Category}
    (h : category written = .ok ruleset) :
    ruleset.written = written ∧ Category.ofWord ruleset.written = .ok ruleset.meaning := by
  unfold category at h
  split at h
  . next meaning hmeaning =>
    cases h
    exact ⟨rfl, hmeaning⟩
  . cases h

theorem severity_eq_ok {value : Value} {failOn : Spelled Severity} (h : severity value = .ok failOn) :
    value.shown = .ok failOn.written ∧ Severity.ofWord failOn.written = .ok failOn.meaning := by
  unfold severity at h
  obtain ⟨word, hword, h⟩ := bind_eq_ok.mp h
  split at h
  . next meaning hmeaning =>
    cases h
    exact ⟨hword, hmeaning⟩
  . exact absurd h refused_ne_ok

theorem workers_eq_ok {value maxWorkers : Value} (h : workers value = .ok maxWorkers) :
    value = maxWorkers := by
  unfold workers at h
  split at h
  . cases h
    rfl
  . cases h
    rfl
  . split at h
    . exact absurd h refused_ne_ok
    . cases h
      rfl
  . exact absurd h refused_ne_ok

theorem extension_eq_ok {written kept : String} (h : extension written = .ok kept) :
    kept = written := by
  unfold extension at h
  split at h
  . cases h
    rfl
  . cases h

theorem fileSize_eq_ok {value maxFileSize : Value} (h : fileSize value = .ok maxFileSize) :
    value = maxFileSize := by
  unfold fileSize at h
  split at h
  . cases h
    rfl
  . split at h
    . exact absurd h refused_ne_ok
    . cases h
      rfl
  . split at h
    . exact absurd h refused_ne_ok
    . cases h
      rfl
  . exact absurd h refused_ne_ok
  . cases h

/-- Settings are what the given entries say, on top of what they are if nothing is said. -/
theorem ofEntries_isGivenBy {given : Entries} {settings : Settings}
    (h : ofEntries given = .ok settings) :
    let value (key : String) : Value := ((given.last? key).getD (standard key))
    settings.IsGivenBy value ∧ extraSymbolsOf (value "extra_symbols") = .ok settings.extraSymbols := by
  intro value
  have hvalue (key : String) : (List.lookup key (defaults.update given)).getD .null = value key := by
    rw [Keyed.lookup_update]
    cases hlast : given.last? key with
    | none => simp [value, hlast, standard]
    | some held => simp [value, hlast]
  unfold ofEntries at h
  simp only [hvalue, throw_unless_eq_ok] at h
  obtain ⟨_, h⟩ := h
  simp only [bind_eq_ok] at h
  obtain ⟨words, hwords, disabledRules, hdisabled, written, hwritten, excluded, hexcluded,
    rulesets, hrulesets, extraSymbols, hextra, mode, hmode, failOn, hfailOn, maxWorkers, hworkers,
    extensions, hextensions, maxFileSize, hsize, outputFormat, hformat, verbosity, hverbosity, h⟩ := h
  cases h
  have hspelled : rulesets.map Spelled.written = words :=
    map_of_mapM (fun _ _ hone => (category_eq_ok hone).1) hrulesets
  have hkept : extensions.map id = written :=
    map_of_mapM (fun _ _ hone => extension_eq_ok hone) hextensions
  refine ⟨?_, hextra⟩
  exact {
    rulesets_eq := by rw [hspelled]; exact hwords
    categories_eq := by
      intro ruleset hruleset
      obtain ⟨_, _, hone⟩ := exists_of_mem_mapM hrulesets ruleset hruleset
      exact (category_eq_ok hone).2
    disabledRules_eq := hdisabled
    mode_eq := choice_eq_ok hmode
    dryRun_eq := rfl
    failOn_eq := (severity_eq_ok hfailOn).1
    severity_eq := (severity_eq_ok hfailOn).2
    maxWorkers_eq := workers_eq_ok hworkers
    extensions_eq := by rw [← List.map_id extensions, hkept]; exact hwritten
    excludePatterns_eq := hexcluded
    maxFileSize_eq := fileSize_eq_ok hsize
    allowHiddenFiles_eq := rfl
    followSymlinks_eq := rfl
    outputFormat_eq := choice_eq_ok hformat
    verbosity_eq := choice_eq_ok hverbosity
  }

/-! ### Symbols -/

/--
What is said of the symbols all in all: the table of symbols on top of those that are given otherwise.
-/
def mergedSymbols (given : Value) (symbols : Option Value) : Except Fault Value :=
  match symbols, given with
  | none, given => .ok given
  | some (.table symbols), .table given => .ok (.table (Keyed.update given symbols))
  | some _, _ => .error .wrongType

/-- Symbols are put together from their two keys, and nothing else changes. -/
theorem withSymbols_eq_ok {entries given : Entries} (hlast : ∀ key, entries.lookup key = entries.last? key)
    (h : withSymbols entries = .ok given) :
    (∀ key, key ≠ "extra_symbols" → key ≠ "symbols" → given.last? key = entries.last? key) ∧
      mergedSymbols ((entries.last? "extra_symbols").getD (.table [])) (entries.last? "symbols") =
        .ok ((given.last? "extra_symbols").getD (.table [])) := by
  unfold withSymbols at h
  rw [hlast, hlast] at h
  split at h
  . next hnone =>
    cases h
    rw [hnone]
    exact ⟨fun _ _ _ => rfl, rfl⟩
  . next symbols hsymbols =>
    split at h
    . next extra symbols hextra =>
      cases h
      rw [hsymbols, hextra]
      constructor
      . intro key hkey hkey'
        rw [Keyed.last?_put, if_neg hkey, Keyed.last?_erase_of_ne _ hkey']
      . rw [Keyed.last?_put, if_pos rfl]
        rfl
    . cases h

/-- No settings come of entries under keys that are no settings, or under keys that are no texts. -/
theorem ofMerged_eq_ok {stated : Stated} {settings : Settings} (h : ofMerged stated = .ok settings) :
    ∃ given, withSymbols stated.entries = .ok given ∧ ofEntries given = .ok settings := by
  unfold ofMerged at h
  obtain ⟨given, hgiven, h⟩ := bind_eq_ok.mp h
  obtain ⟨unknown?, _, h⟩ := bind_eq_ok.mp h
  refine ⟨given, hgiven, ?_⟩
  split at h
  . obtain ⟨_, _, h⟩ := bind_eq_ok.mp h
    cases h
  . exact h

/--
Whether two values of a symbol give it the same tags.
-/
def SameTags (name : String) (value other : Value) : Prop :=
  ∃ extra extra', extraSymbol name value = .ok extra ∧ extraSymbol name other = .ok extra' ∧
    ∀ tag, tag ∈ extra.tags ↔ tag ∈ extra'.tags

/--
Whether a symbol that settings add has the tags of a value.
-/
def HasTagsOf (settings : Settings) (name : String) (value : Value) : Prop :=
  ∃ extra held, extraSymbol name value = .ok extra ∧
    settings.extraSymbols.find? (·.name == name) = some held ∧
    ∀ tag, tag ∈ extra.tags ↔ tag ∈ held.tags

theorem name_of_extraSymbol {name : String} {value : Value} {extra : ExtraSymbol}
    (h : extraSymbol name value = .ok extra) : extra.name = name := by
  unfold extraSymbol at h
  rw [throw_unless_eq_ok] at h
  obtain ⟨values, _, h⟩ := bind_eq_ok.mp h.2
  rw [throw_unless_eq_ok] at h
  obtain ⟨tags, _, h⟩ := bind_eq_ok.mp h.2
  cases h
  rfl

/-- Each symbol of a table is read from what stands under its name. -/
theorem find?_of_extraSymbolsOf {entries : Entries} {extras : List ExtraSymbol}
    (h : extraSymbolsOf (.table entries) = .ok extras) {name : String} {value : Value}
    (hvalue : entries.lookup name = some value) :
    ∃ held, extraSymbol name value = .ok held ∧ extras.find? (·.name == name) = some held := by
  have hextras : entries.mapM (fun entry => extraSymbol entry.1 entry.2) = .ok extras := h
  clear h
  induction entries generalizing extras with
  | nil => cases hvalue
  | cons entry entries ih =>
    rw [List.mapM_cons] at hextras
    obtain ⟨first, hfirst, hextras⟩ := bind_eq_ok.mp hextras
    obtain ⟨rest, hrest, hextras⟩ := bind_eq_ok.mp hextras
    cases hextras
    have hname := name_of_extraSymbol hfirst
    rw [Keyed.lookup_cons] at hvalue
    split at hvalue
    . next heq =>
      cases hvalue
      rw [← heq] at hfirst hname
      exact ⟨first, hfirst, List.find?_cons_of_pos (by rw [hname]; exact beq_self_eq_true name)⟩
    . next hne =>
      obtain ⟨held, hheld, hfind⟩ := ih hvalue hrest
      refine ⟨held, hheld, ?_⟩
      rw [List.find?_cons_of_neg, hfind]
      rw [hname, beq_iff_eq]
      exact Ne.symm hne

theorem hasTagsOf_iff {settings : Settings} {name : String} {other : Value} {held : ExtraSymbol}
    (hheld : extraSymbol name other = .ok held)
    (hfind : settings.extraSymbols.find? (·.name == name) = some held) (value : Value) :
    settings.HasTagsOf name value ↔ SameTags name value other := by
  constructor
  . rintro ⟨extra, held', hextra, hfind', hsame⟩
    rw [hfind] at hfind'
    cases hfind'
    exact ⟨extra, held, hextra, hheld, hsame⟩
  . rintro ⟨extra, held', hextra, hheld', hsame⟩
    rw [hheld] at hheld'
    cases hheld'
    exact ⟨extra, held, hextra, hfind, hsame⟩

/--
What a table says last under a name.
-/
def inTable? (value : Option Value) (name : String) : Option Value :=
  match value with
  | some (.table entries) => Keyed.last? entries name
  | _ => none

/-- A symbol is read from the table of symbols if its name is in there. -/
theorem lookup_of_mergedSymbols {given : Entries} {symbols : Option Value} {merged : Value}
    (h : mergedSymbols (.table given) symbols = .ok merged) :
    ∃ entries : Entries, merged = .table entries ∧
      ∀ name, entries.lookup name = (inTable? symbols name).or (given.lookup name) := by
  unfold mergedSymbols at h
  split at h
  . cases h
    exact ⟨given, rfl, fun _ => rfl⟩
  . next table given' hgiven =>
    cases hgiven
    cases h
    exact ⟨_, rfl, Keyed.lookup_update given table⟩
  . cases h

/-- A symbol keeps its tags unless the table of symbols gives it others. -/
theorem hasTagsOf_of_merged {settings : Settings} {given : Entries} {symbols : Option Value}
    {merged : Value} (hmerged : mergedSymbols (.table given) symbols = .ok merged)
    (hextra : extraSymbolsOf merged = .ok settings.extraSymbols) {name : String} {value : Value}
    (hvalue : given.lookup name = some value) :
    settings.HasTagsOf name value ↔
      ∀ other, inTable? symbols name = some other → SameTags name value other := by
  obtain ⟨entries, rfl, hlookup⟩ := lookup_of_mergedSymbols hmerged
  have hlookup := hlookup name
  rw [hvalue] at hlookup
  cases hother : inTable? symbols name with
  | none =>
    rw [hother, Option.none_or] at hlookup
    obtain ⟨held, hheld, hfind⟩ := find?_of_extraSymbolsOf hextra hlookup
    have hsame : SameTags name value value := ⟨held, held, hheld, hheld, fun _ => Iff.rfl⟩
    rw [hasTagsOf_iff hheld hfind]
    simp [hsame]
  | some other =>
    rw [hother, Option.some_or] at hlookup
    obtain ⟨held, hheld, hfind⟩ := find?_of_extraSymbolsOf hextra hlookup
    rw [hasTagsOf_iff hheld hfind]
    simp

/-! ### All sources -/

/-- What is merged holds under each key what is said by the source that counts most. -/
theorem last?_merged (personal project named exported stated : Entries) (key : String) :
    let files := ((Keyed.update [] personal).update project).update named
    let merged := (files.update exported).update stated
    merged.lookup key = merged.last? key ∧
      merged.last? key = (stated.last? key).or ((exported.last? key).or
        ([named, project, personal].findSome? fun file => file.last? key)) := by
  intro files merged
  constructor
  . simp only [merged, files, Keyed.lookup_update, Keyed.last?_update]
    rfl
  . -- The last update to speak of a key wins, and the files are listed the other way round.
    simp only [merged, files, Keyed.last?_update, List.findSome?_cons, List.findSome?_nil]
    cases named.last? key with
    | some value => simp
    | none =>
      cases project.last? key with
      | some value => simp
      | none =>
        cases personal.last? key with
        | some value => simp
        | none => simp [Keyed.last?]

theorem load_eq_ok {disk : Disk} {environment : Keyed String} {configFile : Option String}
    {stated : Entries} {settings : Settings}
    (h : load disk environment configFile stated = .ok settings) :
    ∃ personal project named, ∃ exported : Entries,
      inFileIfThere disk (disk.home.join (Path.ofString ".hostguard.toml")) = .ok personal ∧
      inFileIfThere disk (disk.here.join (Path.ofString "hostguard.toml")) = .ok project ∧
      inNamedFile disk configFile = .ok named ∧
      environmentEntries environment = .ok exported ∧
      let inFiles := ((({} : Stated).update personal).update project).update named
      ofMerged ((inFiles.update ⟨exported, []⟩).update ⟨statedEntries stated, []⟩) = .ok settings := by
  unfold load at h
  obtain ⟨personal, hpersonal, h⟩ := bind_eq_ok.mp h
  obtain ⟨project, hproject, h⟩ := bind_eq_ok.mp h
  cases configFile with
  | none =>
    obtain ⟨named, hnamed, h⟩ := bind_eq_ok.mp h
    obtain ⟨exported, hexported, h⟩ := bind_eq_ok.mp h
    exact ⟨personal, project, named, exported, hpersonal, hproject, hnamed, hexported, h⟩
  | some written =>
    obtain ⟨named, hnamed, h⟩ := bind_eq_ok.mp h
    obtain ⟨exported, hexported, h⟩ := bind_eq_ok.mp h
    exact ⟨personal, project, named, exported, hpersonal, hproject, hnamed, hexported, h⟩

theorem entries_update (stated others : Stated) :
    (stated.update others).entries = stated.entries.update others.entries := by
  have hstrays (strays : List (Value × Value)) (stated : Stated) :
      (strays.foldl (fun stated stray => stated.putStray stray.1 stray.2) stated).entries =
        stated.entries := by
    induction strays generalizing stated with
    | nil => rfl
    | cons stray strays ih =>
      rw [List.foldl_cons, ih, Stated.putStray]
      split
      . rfl
      . rfl
  exact hstrays _ _

/--
Settings that load are what the sources say: each of them has the value of the source that counts most
of those that speak of it, and if none does, its default. A symbol that the user gives for a run has
the tags of the user exactly if no table of symbols gives it others, whichever source has that table.
-/
theorem load_precedence {disk : Disk} {environment : Keyed String} {configFile : Option String}
    {stated : Entries} {settings : Settings}
    (h : load disk environment configFile stated = .ok settings) :
    ∃ personal project named,
      inFileIfThere disk (disk.home.join (Path.ofString ".hostguard.toml")) = .ok personal ∧
      inFileIfThere disk (disk.here.join (Path.ofString "hostguard.toml")) = .ok project ∧
      inNamedFile disk configFile = .ok named ∧
      let said := said? stated environment [named.entries, project.entries, personal.entries]
      settings.IsGivenBy (fun key => (said key).getD (standard key)) ∧
      ∀ given name value, override? stated "extra_symbols" = some (.table given) →
        given.lookup name = some value →
        (settings.HasTagsOf name value ↔
          ∀ other, inTable? (said "symbols") name = some other → SameTags name value other) := by
  obtain ⟨personal, project, named, exported, hpersonal, hproject, hnamed, hexported, h⟩ :=
    load_eq_ok h
  refine ⟨personal, project, named, hpersonal, hproject, hnamed, ?_⟩
  intro said
  obtain ⟨given, hgiven, hsettings⟩ := ofMerged_eq_ok h
  simp only [entries_update] at hgiven
  have hmerged := last?_merged personal.entries project.entries named.entries exported
    (statedEntries stated)
  have hsaid (key : String) (hverbose : key ≠ "verbose") (hquiet : key ≠ "quiet") :=
    calc
      _ = ((statedEntries stated).last? key).or ((exported.last? key).or _) := (hmerged key).2
      _ = said key := by
        rw [last?_statedEntries stated hverbose hquiet, last?_environmentEntries hexported]
        rfl
  obtain ⟨hothers, hsymbols⟩ := withSymbols_eq_ok (fun key => (hmerged key).1) hgiven
  rw [hsaid _ (by decide) (by decide), hsaid _ (by decide) (by decide)] at hsymbols
  obtain ⟨hgivenBy, hextra⟩ := ofEntries_isGivenBy hsettings
  constructor
  . -- The tables of symbols are put together under one key only, which is none of these.
    refine hgivenBy.congr ?_
    intro key hkey hextra
    have hnot (other : String) (hother : other ∉ keys) : key ≠ other := by
      rintro rfl
      exact hother hkey
    rw [hothers key hextra (hnot _ (by decide)),
      hsaid key (hnot _ (by decide)) (hnot _ (by decide))]
  . intro given' name value hoverride hvalue
    have hextraSaid : said "extra_symbols" = some (.table given') := by
      simp only [said, said?, hoverride, Option.some_or]
    rw [hextraSaid] at hsymbols
    exact hasTagsOf_of_merged hsymbols hextra hvalue

/--
The file of the current directory says more than that of the user, the environment more than both, and
the user most. The symbol that the user gives is in no table of symbols and keeps its tags.
-/
theorem load_precedence_switch :
    let personal := Text.encode "mode = \"fix\"\nfail_on = \"info\"\n"
    let project := Text.encode "fail_on = \"warning\"\n[symbols]\n\"Acme.Wait\" = [\"UiThreadSwitch\"]\n"
    let disk : Disk :=
      ⟨[("home", .directory [(".hostguard.toml", .file personal)]),
        ("work", .directory [("hostguard.toml", .file project)])], ⟨"/", ["work"]⟩, ⟨"/", ["home"]⟩⟩
    let environment := [("HOSTGUARD_MODE", "report")]
    let given : Entries := [("Acme.Run", .text "BlockingWait")]
    let stated : Entries :=
      [("verbose", .bool true), ("extra_symbols", .table given), ("max_file_size_mb", .int 5)]
    ∃ settings, load disk environment none stated = .ok settings ∧
      settings.mode = .report ∧ settings.failOn.meaning = .warning ∧ settings.verbosity = .verbose ∧
      ∃ personal project named,
        inFileIfThere disk (disk.home.join (Path.ofString ".hostguard.toml")) = .ok personal ∧
        inFileIfThere disk (disk.here.join (Path.ofString "hostguard.toml")) = .ok project ∧
        inNamedFile disk none = .ok named ∧
        let said := said? stated environment [named.entries, project.entries, personal.entries]
        settings.IsGivenBy (fun key => (said key).getD (standard key)) ∧
        (settings.HasTagsOf "Acme.Run" (.text "BlockingWait") ↔
          ∀ other, inTable? (said "symbols") "Acme.Run" = some other →
            SameTags "Acme.Run" (.text "BlockingWait") other) := by
  intro personal project disk environment given stated
  have hload : ((load disk environment none stated).toOption.map fun settings =>
      (settings.mode, settings.failOn.meaning, settings.verbosity)) =
        some (.report, .warning, .verbose) := by
    decide +kernel
  obtain ⟨settings, hsettings, hchosen⟩ := Option.map_eq_some_iff.mp hload
  have hsettings := eq_ok_of_toOption hsettings
  injection hchosen with hmode hchosen
  injection hchosen with hfailOn hverbosity
  obtain ⟨inHome, inWork, named, hhome, hwork, hnamed, hgivenBy, htags⟩ := load_precedence hsettings
  exact ⟨settings, hsettings, hmode, hfailOn, hverbosity, inHome, inWork, named, hhome, hwork, hnamed,
    hgivenBy, htags given _ _ rfl rfl⟩

/--
A table of symbols in the file of the current directory, which counts less than what the user says for
the run, takes the tags away that the user gives a symbol.
-/
theorem load_overrulesUser :
    let project := Text.encode "[symbols]\n\"Acme.Wait\" = [\"UiThreadSwitch\"]\n"
    let disk : Disk :=
      ⟨[("home", .directory []), ("work", .directory [("hostguard.toml", .file project)])],
        ⟨"/", ["work"]⟩, ⟨"/", ["home"]⟩⟩
    let given : Entries := [("Acme.Wait", textList ["BlockingWait"])]
    let stated : Entries := [("extra_symbols", .table given), ("max_file_size_mb", .int 5)]
    ∃ settings, load disk [] none stated = .ok settings ∧
      override? stated "extra_symbols" = some (.table given) ∧
      given.lookup "Acme.Wait" = some (textList ["BlockingWait"]) ∧
      ¬ settings.HasTagsOf "Acme.Wait" (textList ["BlockingWait"]) := by
  intro project disk given stated
  have hload : ((load disk [] none stated).toOption.map fun settings =>
      (settings.extraSymbols.find? (·.name == "Acme.Wait")).map ExtraSymbol.tags) =
        some (some [.uiThreadSwitch]) := by
    decide +kernel
  have hgiven : (extraSymbol "Acme.Wait" (textList ["BlockingWait"])).toOption.map ExtraSymbol.tags =
      some [.blockingWait] := by
    decide +kernel
  obtain ⟨settings, hsettings, htags⟩ := Option.map_eq_some_iff.mp hload
  refine ⟨settings, eq_ok_of_toOption hsettings, rfl, rfl, ?_⟩
  rintro ⟨extra, held, hextra, hheld, hsame⟩
  have hextraTags : extra.tags = [.blockingWait] := by simpa [hextra, Except.toOption] using hgiven
  have hheldTags : held.tags = [.uiThreadSwitch] := by simpa [hheld] using htags
  have hboth := (hsame .blockingWait).mp (by rw [hextraTags]; exact List.mem_cons_self)
  rw [hheldTags] at hboth
  exact absurd hboth (by decide)

end ThreadLint.Settings
