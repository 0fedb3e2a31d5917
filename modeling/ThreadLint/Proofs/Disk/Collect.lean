import Mathlib.Data.List.Nodup
import Mathlib.Data.String.Basic
import ThreadLint.Disk.Collect
import ThreadLint.Proofs.Except
import ThreadLint.Proofs.Glob
import ThreadLint.Proofs.Keyed
import ThreadLint.Proofs.Path
import ThreadLint.Proofs.Stable

/-!
This module contains which files are found below a directory. It makes no difference that hidden and
excluded directories are not entered: the files are those of a walk through all directories that pass
the filter, in the order of that walk.
-/

namespace ThreadLint

/-! ### Walks through all directories -/

namespace Item

/-- What is true of a directory once it is true of all items in it is true of every item. -/
theorem induction {P : Item → Prop} (file : ∀ content, P (.file content))
    (directory : ∀ items, (∀ entry ∈ items, P entry.2) → P (.directory items)) (item : Item) :
    P item := by
  match item with
  | .file content => exact file content
  | .directory items =>
    apply directory
    intro entry hentry
    exact induction file directory entry.2
termination_by sizeOf item
decreasing_by
  have hlt := List.sizeOf_lt_of_mem hentry
  obtain ⟨name, inner⟩ := entry
  simp only [Prod.mk.sizeOf_spec, Item.directory.sizeOf_spec] at hlt ⊢
  omega

variable {accepts enters : List String → Bool} {names : List String}

/--
What is found under a name of a directory.
-/
def branch (accepts enters : List String → Bool) (names : List String) (entry : String × Item) :
    Branch where
  isDirectory := entry.2.isDirectory
  name := entry.1
  found :=
    if entry.2.isDirectory && !enters (names ++ [entry.1]) then []
    else collect accepts enters (names ++ [entry.1]) entry.2

theorem collectAmong_eq (items : List (String × Item)) :
    collectAmong accepts enters names items = items.map (branch accepts enters names) := by
  induction items with
  | nil => rfl
  | cons entry rest ih => rw [collectAmong, ih, List.map_cons, branch]

theorem collect_directory (items : List (String × Item)) :
    collect accepts enters names (.directory items) =
      ((items.map (branch accepts enters names)).mergeSort Branch.precedes).flatMap Branch.found := by
  rw [collect, collectAmong_eq]

theorem mem_collect_directory {items : List (String × Item)} {inner : List String} :
    inner ∈ collect accepts enters names (.directory items) ↔
      ∃ entry ∈ items, inner ∈ (branch accepts enters names entry).found := by
  rw [collect_directory, List.mem_flatMap]
  simp [List.mem_mergeSort]

/-- What is found below an item is found below its name. -/
theorem prefix_of_mem_collect (item : Item) {inner : List String}
    (h : inner ∈ collect accepts enters names item) : names <+: inner := by
  induction item using induction generalizing names with
  | file content =>
    rw [collect, List.mem_ite_nil_right, List.mem_singleton] at h
    exact h.2 ▸ List.prefix_refl names
  | directory items ih =>
    obtain ⟨entry, hentry, hmem⟩ := mem_collect_directory.1 h
    rw [branch, List.mem_ite_nil_left] at hmem
    exact (List.prefix_append names [entry.1]).trans (ih entry hentry hmem.2)

/--
The files below an item, in the order in which they are found if every directory is entered.
-/
def walk (item : Item) : List (List String) :=
  item.collect (fun _ => true) (fun _ => true) []

theorem ne_nil_of_mem_walk {items : List (String × Item)} {inner : List String}
    (h : inner ∈ walk (.directory items)) : inner ≠ [] := by
  obtain ⟨entry, _, hmem⟩ := mem_collect_directory.1 h
  rw [branch, List.mem_ite_nil_left] at hmem
  have hprefix := prefix_of_mem_collect entry.2 hmem.2
  rintro rfl
  simp at hprefix

/-- A directory that is not entered makes no difference if no file below it is accepted. -/
theorem found_branch_of_collect {entry : String × Item}
    (hprune : ∀ rest, rest ≠ [] → enters (names ++ [entry.1]) = false →
      accepts (names ++ [entry.1] ++ rest) = false)
    (hcollect : collect accepts enters (names ++ [entry.1]) entry.2 =
      (entry.2.walk.map (names ++ [entry.1] ++ ·)).filter accepts) :
    (branch accepts enters names entry).found =
      (entry.2.walk.map (names ++ [entry.1] ++ ·)).filter accepts := by
  rw [branch]
  split
  . next hskipped =>
    rw [Bool.and_eq_true, Bool.not_eq_true'] at hskipped
    symm
    rw [List.filter_eq_nil_iff]
    intro inner hinner
    obtain ⟨rest, hrest, rfl⟩ := List.mem_map.1 hinner
    have hrest : rest ≠ [] := by
      cases hitem : entry.2 with
      | file content => simp [hitem, isDirectory] at hskipped
      | directory inner => exact ne_nil_of_mem_walk (hitem ▸ hrest)
    rw [hprune rest hrest hskipped.2]
    exact Bool.false_ne_true
  . exact hcollect

/-- The order of what is found does not depend on what is accepted. -/
theorem collect_directory_of_found {items : List (String × Item)}
    (hfound : ∀ entry ∈ items, (branch accepts enters names entry).found =
      ((branch (fun _ => true) (fun _ => true) [] entry).found.map (names ++ ·)).filter accepts) :
    collect accepts enters names (.directory items) =
      ((walk (.directory items)).map (names ++ ·)).filter accepts := by
  let keep (whole : Branch) : Branch :=
    { whole with found := (whole.found.map (names ++ ·)).filter accepts }
  have hkeep : items.map (branch accepts enters names) =
      (items.map (branch (fun _ => true) (fun _ => true) [])).map keep := by
    rw [List.map_map]
    apply List.map_congr_left
    intro entry hentry
    simp only [Function.comp_apply, keep, ← hfound entry hentry]
    rfl
  have hsort (wholes : List Branch) : (wholes.map keep).mergeSort Branch.precedes =
      (wholes.mergeSort Branch.precedes).map keep :=
    (List.map_mergeSort (f := keep) fun _ _ _ _ => rfl).symm
  rw [walk, collect_directory, collect_directory, hkeep, hsort, List.flatMap_map, List.map_flatMap,
    List.filter_flatMap]

/-- Directories without files that are accepted need not be entered. -/
theorem collect_eq_filter {accepts enters : List String → Bool}
    (hprune : ∀ names rest, names ≠ [] → rest ≠ [] → enters names = false →
      accepts (names ++ rest) = false) (names : List String) (item : Item) :
    collect accepts enters names item = (item.walk.map (names ++ ·)).filter accepts := by
  induction item using induction generalizing accepts enters names with
  | file content =>
    cases h : accepts names with
    | false => simp [walk, collect, h]
    | true => simp [walk, collect, h]
  | directory items ih =>
    apply collect_directory_of_found
    intro entry hentry
    -- the walk itself enters all directories and accepts all files
    have hall : (branch (fun _ => true) (fun _ => true) [] entry).found =
        (entry.2.walk.map ([entry.1] ++ ·)).filter fun _ => true :=
      found_branch_of_collect (by simp) (ih entry hentry (by simp) _)
    have hkept := found_branch_of_collect (fun rest => hprune (names ++ [entry.1]) rest (by simp))
      (ih entry hentry hprune _)
    rw [hkept, hall, List.filter_true, List.map_map]
    simp [Function.comp_def]

theorem found_branch (entry : String × Item) :
    (branch (fun _ => true) (fun _ => true) [] entry).found = entry.2.walk.map (entry.1 :: ·) := by
  simp [branch, collect_eq_filter]

theorem mem_walk_directory {items : List (String × Item)} {inner : List String} :
    inner ∈ walk (.directory items) ↔ ∃ entry ∈ items, ∃ rest ∈ entry.2.walk, entry.1 :: rest = inner := by
  simp only [walk, mem_collect_directory, found_branch, List.mem_map]

/-! ### Files in the order of a walk -/

/--
Whether the names in a directory and below it are names that can stand there: none of them twice, and
each of them fit for a path.
-/
inductive IsTree : Item → Prop
  | file (content : ByteArray) : IsTree (.file content)
  | directory {items : List (String × Item)} (hnodup : (items.map Prod.fst).Nodup)
      (hnames : ∀ entry ∈ items, Path.IsName entry.1) (hitems : ∀ entry ∈ items, IsTree entry.2) :
      IsTree (.directory items)

/--
Whether a file is found in front of another one, given the names that lead to them: a directory's
files come before its directories, and otherwise the names decide.
-/
inductive ComesBefore : List String → List String → Prop
  | files {name other : String} (h : name < other) : ComesBefore [name] [other]
  | file {name other next : String} {rest : List String} : ComesBefore [name] (other :: next :: rest)
  | directories {name other next next' : String} {rest rest' : List String} (h : name < other) :
      ComesBefore (name :: next :: rest) (other :: next' :: rest')
  | inside {name : String} {rest rest' : List String} (h : ComesBefore rest rest') :
      ComesBefore (name :: rest) (name :: rest')

theorem ComesBefore.ne {inner other : List String} (h : ComesBefore inner other) : inner ≠ other := by
  induction h with
  | files h =>
    rintro ⟨⟩
    exact lt_irrefl _ h
  | file => simp
  | directories h =>
    rintro ⟨⟩
    exact lt_irrefl _ h
  | inside _ ih =>
    rintro ⟨⟩
    exact ih rfl

/-- The files of a walk are those that names lead to. -/
theorem mem_walk_iff {item : Item} (h : item.IsTree) {inner : List String} :
    inner ∈ item.walk ↔ ∃ content, item.below? inner = some (.file content) := by
  induction item using induction generalizing inner with
  | file content =>
    cases inner with
    | nil => simp [walk, collect, below?]
    | cons name rest => simp [walk, collect, below?]
  | directory items ih =>
    cases h with
    | directory hnodup _ hitems =>
      rw [mem_walk_directory]
      constructor
      . rintro ⟨entry, hentry, rest, hrest, rfl⟩
        obtain ⟨content, hcontent⟩ := (ih entry hentry (hitems entry hentry)).1 hrest
        refine ⟨content, ?_⟩
        rw [below?, Keyed.lookup_of_mem hnodup hentry, Option.bind_some, hcontent]
      . rintro ⟨content, hcontent⟩
        cases inner with
        | nil => simp [below?] at hcontent
        | cons name rest =>
          rw [below?, Option.bind_eq_some_iff] at hcontent
          obtain ⟨item, hlookup, hcontent⟩ := hcontent
          have hentry := Keyed.mem_of_lookup hlookup
          exact ⟨_, hentry, rest, (ih _ hentry (hitems _ hentry)).2 ⟨content, hcontent⟩, rfl⟩

theorem Branch.precedes_iff {first second : Branch} :
    first.precedes second = true ↔
      (first.isDirectory = second.isDirectory ∧ first.name ≤ second.name) ∨
        (first.isDirectory = false ∧ second.isDirectory = true) := by
  unfold precedes
  cases first.isDirectory <;> cases second.isDirectory <;> simp

theorem Branch.precedes_trans (first second third : Branch) (h : first.precedes second = true)
    (h' : second.precedes third = true) : first.precedes third = true := by
  rw [precedes_iff] at *
  grind

theorem Branch.precedes_total (first second : Branch) :
    (first.precedes second || second.precedes first) = true := by
  rw [Bool.or_eq_true, precedes_iff, precedes_iff]
  grind

/-- Branches that are sorted have their files in order. -/
theorem comesBefore_of_precedes {entry entry' : String × Item} {accepts enters : List String → Bool}
    {names : List String}
    (h : (branch accepts enters names entry).precedes (branch accepts enters names entry') = true)
    (hne : entry.1 ≠ entry'.1) {inner other : List String}
    (hinner : inner ∈ entry.2.walk.map (entry.1 :: ·))
    (hother : other ∈ entry'.2.walk.map (entry'.1 :: ·)) : ComesBefore inner other := by
  obtain ⟨name, item⟩ := entry
  obtain ⟨name', item'⟩ := entry'
  obtain ⟨rest, hrest, rfl⟩ := List.mem_map.1 hinner
  obtain ⟨rest', hrest', rfl⟩ := List.mem_map.1 hother
  have hlt (hle : name ≤ name') : name < name' := lt_of_le_of_ne hle hne
  rw [Branch.precedes_iff] at h
  cases item with
  | file content =>
    obtain rfl : rest = [] := by simpa [walk, collect] using hrest
    cases item' with
    | file content' =>
      obtain rfl : rest' = [] := by simpa [walk, collect] using hrest'
      simp [branch, isDirectory] at h
      exact .files (hlt h)
    | directory items' =>
      obtain ⟨next, rest', rfl⟩ := List.exists_cons_of_ne_nil (ne_nil_of_mem_walk hrest')
      exact .file
  | directory items =>
    obtain ⟨next, rest, rfl⟩ := List.exists_cons_of_ne_nil (ne_nil_of_mem_walk hrest)
    cases item' with
    | file content' => simp [branch, isDirectory] at h
    | directory items' =>
      obtain ⟨next', rest', rfl⟩ := List.exists_cons_of_ne_nil (ne_nil_of_mem_walk hrest')
      simp [branch, isDirectory] at h
      exact .directories (hlt h)

/-- A walk finds the files in order. -/
theorem pairwise_walk {item : Item} (h : item.IsTree) : item.walk.Pairwise ComesBefore := by
  induction item using induction with
  | file content => exact List.pairwise_singleton _ _
  | directory items ih =>
    cases h with
    | directory hnodup _ hitems =>
      rw [walk, collect_directory, List.pairwise_flatMap]
      have hperm := List.mergeSort_perm
        (items.map (branch (fun _ => true) (fun _ => true) [])) Branch.precedes
      constructor
      . intro whole hwhole
        obtain ⟨entry, hentry, rfl⟩ := List.mem_map.1 (hperm.mem_iff.1 hwhole)
        rw [found_branch, List.pairwise_map]
        exact (ih entry hentry (hitems entry hentry)).imp .inside
      . have hsorted := List.pairwise_mergeSort Branch.precedes_trans Branch.precedes_total
          (items.map (branch (fun _ => true) (fun _ => true) []))
        have hnames : (items.map (branch (fun _ => true) (fun _ => true) [])).Pairwise
            fun first second => first.name ≠ second.name := by
          rw [List.pairwise_map]
          exact List.pairwise_map.1 hnodup
        have hnames := (hperm.pairwise_iff fun h => Ne.symm h).2 hnames
        refine (hsorted.and hnames).imp_of_mem ?_
        rintro first second hfirst hsecond ⟨hprecedes, hne⟩ inner hinner other hother
        obtain ⟨entry, _, rfl⟩ := List.mem_map.1 (hperm.mem_iff.1 hfirst)
        obtain ⟨entry', _, rfl⟩ := List.mem_map.1 (hperm.mem_iff.1 hsecond)
        rw [found_branch] at hinner hother
        exact comesBefore_of_precedes hprecedes hne hinner hother

theorem IsTree.below? {item found : Item} (h : item.IsTree) {names : List String}
    (hfound : item.below? names = some found) : found.IsTree := by
  induction names generalizing item with
  | nil =>
    cases hfound
    exact h
  | cons name rest ih =>
    cases h with
    | file content => cases hfound
    | directory _ _ hitems =>
      rw [Item.below?, Option.bind_eq_some_iff] at hfound
      obtain ⟨inner, hinner, hfound⟩ := hfound
      exact ih (hitems _ (Keyed.mem_of_lookup hinner)) hfound

theorem isName_of_mem_walk {item : Item} (h : item.IsTree) {inner : List String}
    (hinner : inner ∈ item.walk) : ∀ name ∈ inner, Path.IsName name := by
  induction item using induction generalizing inner with
  | file content =>
    obtain rfl : inner = [] := by simpa [walk, collect] using hinner
    simp
  | directory items ih =>
    cases h with
    | directory _ hnames hitems =>
      obtain ⟨entry, hentry, rest, hrest, rfl⟩ := mem_walk_directory.1 hinner
      rw [List.forall_mem_cons]
      exact ⟨hnames entry hentry, ih entry hentry (hitems entry hentry) hrest⟩

end Item

/-! ### Directories that are not entered -/

namespace FileFilter

variable {filter : FileFilter} {names rest : List String}

theorem isMatch_below {pattern : String} (h : isMatch pattern names = true) (hnames : names ≠ [])
    (hrest : rest ≠ []) : isMatch (pattern ++ "/*") (names ++ rest) = true := by
  unfold isMatch at *
  rw [Bool.or_eq_true] at h ⊢
  rw [String.intercalate_append_of_ne_nil hnames hrest, ← String.append_assoc]
  cases h with
  | inl h => exact .inl (Glob.isMatch_below h _)
  | inr h => exact .inr (Glob.isMatch_below h _)

theorem mem_directoryPatterns {pattern : String} (h : pattern ∈ filter.directoryPatterns) :
    pattern ++ "/*" ∈ filter.excludePatterns := by
  obtain ⟨whole, hwhole, h⟩ := List.mem_filterMap.1 h
  split at h
  . next front hreverse =>
    cases h
    have htext : whole = String.ofList front.reverse ++ "/*" := by
      rw [← String.toList_inj, ← List.reverse_reverse whole.toList, hreverse]
      simp
    rw [← htext]
    exact hwhole
  . cases h

/-- All that is below an excluded directory is excluded. -/
theorem excludesFile_below (h : filter.excludesDirectory names = true) (hnames : names ≠ [])
    (hrest : rest ≠ []) : filter.excludesFile (names ++ rest) = true := by
  obtain ⟨pattern, hpattern, hmatch⟩ := List.any_eq_true.1 h
  refine List.any_eq_true.2 ⟨_, mem_directoryPatterns hpattern, ?_⟩
  rw [isMatch_below hmatch hnames hrest, Bool.true_or]

theorem isHidden_below (h : filter.isHidden names = true) :
    filter.isHidden (names ++ rest) = true := by
  unfold isHidden at *
  rw [Bool.and_eq_true] at *
  exact ⟨h.1, by rw [List.any_append, h.2, Bool.true_or]⟩

/-- A directory that is not entered has no files that count. -/
theorem accepts_below (hnames : names ≠ []) (hrest : rest ≠ [])
    (h : filter.enters names = false) : filter.accepts (names ++ rest) = false := by
  unfold enters at h
  unfold accepts
  cases hhidden : filter.isHidden names with
  | true => simp [isHidden_below hhidden]
  | false =>
    rw [hhidden, Bool.not_false, Bool.true_and, Bool.not_eq_false'] at h
    simp [excludesFile_below h hnames hrest]

/-- The files that count are those of a walk through all directories that are accepted. -/
theorem collect_eq (filter : FileFilter) (item : Item) :
    item.collect filter.accepts filter.enters [] = item.walk.filter filter.accepts := by
  rw [Item.collect_eq_filter fun _ _ => accepts_below]
  simp

end FileFilter

/-! ### Files that paths stand for -/

/--
Whether a list has the files below an item in the order in which a walk through all directories
finds them, each of them once.
-/
structure Item.IsWalk (item : Item) (files : List (List String)) : Prop where
  mem_iff : ∀ names, names ∈ files ↔ ∃ content, item.below? names = some (.file content)
  pairwise : files.Pairwise ComesBefore

theorem Item.IsWalk.nodup {item : Item} {files : List (List String)} (h : item.IsWalk files) :
    files.Nodup :=
  h.pairwise.imp ComesBefore.ne

theorem Item.IsTree.isWalk {item : Item} (h : item.IsTree) : item.IsWalk item.walk :=
  ⟨fun _ => mem_walk_iff h, pairwise_walk h⟩

namespace Disk

variable {disk : Disk} {filter : FileFilter} {path : Path}

theorem isTree_of_item (hdisk : Item.IsTree (.directory disk.items)) {item : Item}
    (h : disk.item path = .ok item) : item.IsTree := by
  obtain ⟨names, _, h⟩ := bind_eq_ok.1 h
  split at h
  . next found hfound =>
    cases h
    exact hdisk.below? hfound
  . cases h

theorem expand_directory {items : List (String × Item)}
    (h : disk.item path = .ok (.directory items)) : disk.expand filter path =
      .ok (((Item.directory items).walk.filter filter.accepts).map fun names =>
        path.join ⟨"", names⟩) := by
  unfold expand
  rw [h]
  simp only [FileFilter.collect_eq]

theorem expand_of_not_directory (hdirectory : ∀ items, disk.item path ≠ .ok (.directory items))
    (hlong : ∀ text, disk.item path ≠ .error (.nameTooLong text)) :
    disk.expand filter path = .ok [path] := by
  unfold expand
  split
  . next items h => exact absurd h (hdirectory items)
  . next text h => exact absurd h (hlong text)
  . rfl

theorem exists_expand_iff :
    (∃ found, disk.expand filter path = .ok found) ↔
      ∀ text, disk.item path ≠ .error (.nameTooLong text) := by
  unfold expand
  split
  . next items h => simp [h]
  . next text h => simp [h]
  . next h => simpa using h

theorem mem_of_expand_eq_ok (hdirectory : ∀ items, disk.item path ≠ .ok (.directory items))
    {found : List Path} (h : disk.expand filter path = .ok found) : path ∈ found := by
  rw [expand_of_not_directory hdirectory (exists_expand_iff.1 ⟨found, h⟩)] at h
  cases h
  exact List.mem_singleton_self path

theorem isPlain_of_expand (hdisk : Item.IsTree (.directory disk.items)) (hpath : path.IsPlain)
    {found : List Path} (h : disk.expand filter path = .ok found) : ∀ file ∈ found, file.IsPlain := by
  by_cases hdirectory : ∃ items, disk.item path = .ok (.directory items)
  . obtain ⟨items, hitems⟩ := hdirectory
    rw [expand_directory hitems] at h
    cases h
    intro file hfile
    obtain ⟨names, hnames, rfl⟩ := List.mem_map.1 hfile
    exact hpath.join (Item.isName_of_mem_walk (isTree_of_item hdisk hitems) (List.mem_of_mem_filter hnames))
  . rw [not_exists] at hdirectory
    rw [expand_of_not_directory hdirectory (exists_expand_iff.1 ⟨found, h⟩)] at h
    cases h
    intro file hfile
    rw [List.mem_singleton.1 hfile]
    exact hpath

theorem collect_eq_ok {paths : List Path} {found : List Path}
    (h : disk.collect filter paths = .ok found) :
    ∃ groups, paths.mapM (disk.expand filter) = .ok groups ∧ found = groups.flatten.eraseDups := by
  obtain ⟨groups, hgroups, h⟩ := bind_eq_ok.1 h
  exact ⟨groups, hgroups, (Except.ok.inj h).symm⟩

theorem exists_collect_iff {paths : List Path} :
    (∃ found, disk.collect filter paths = .ok found) ↔
      ∀ path ∈ paths, ∀ text, disk.item path ≠ .error (.nameTooLong text) := by
  rw [← forall₂_congr fun _ _ => @exists_expand_iff disk filter _, ← exists_mapM_eq_ok]
  constructor
  . rintro ⟨found, h⟩
    obtain ⟨groups, hgroups, _⟩ := collect_eq_ok h
    exact ⟨groups, hgroups⟩
  . rintro ⟨groups, hgroups⟩
    exact ⟨_, bind_eq_ok.2 ⟨groups, hgroups, rfl⟩⟩

/--
The files that a directory stands for are those of a walk through all directories below it that are
accepted, in the order of the walk: that hidden and excluded directories are not entered makes no
difference. The files that some paths stand for are found unless one of the paths is too long. They
have distinct texts, and those of the paths that lead to no directory are among them.
-/
theorem collect_exact (hdisk : Item.IsTree (.directory disk.items)) (filter : FileFilter) :
    (∀ path items, disk.item path = .ok (.directory items) →
      ∃ files, (Item.directory items).IsWalk files ∧
        disk.collect filter [path] =
          .ok ((files.filter filter.accepts).map fun names => path.join ⟨"", names⟩)) ∧
    ∀ texts : List String,
      let paths := texts.map Path.ofString
      ((∃ found, disk.collect filter paths = .ok found) ↔
        ∀ path ∈ paths, ∀ text, disk.item path ≠ .error (.nameTooLong text)) ∧
      ∀ found, disk.collect filter paths = .ok found →
        (found.map Path.text).Nodup ∧
          ∀ path ∈ paths, (∀ items, disk.item path ≠ .ok (.directory items)) → path ∈ found := by
  constructor
  . intro path items h
    have hwalk := (isTree_of_item hdisk h).isWalk
    refine ⟨_, hwalk, ?_⟩
    have hnodup : (((Item.directory items).walk.filter filter.accepts).map fun names =>
        path.join ⟨"", names⟩).Nodup := by
      refine (hwalk.nodup.filter _).map ?_
      intro names names' heq
      exact List.append_cancel_left (congrArg Path.names heq)
    unfold collect
    rw [List.mapM_cons, expand_directory h]
    show Except.ok ([_].flatten.eraseDups) = _
    rw [List.flatten_singleton, eraseDups_of_nodup hnodup]
  . intro texts paths
    refine ⟨exists_collect_iff, ?_⟩
    intro found h
    obtain ⟨groups, hgroups, rfl⟩ := collect_eq_ok h
    constructor
    . have hplain : ∀ file ∈ groups.flatten.eraseDups, file.IsPlain := by
        intro file hfile
        obtain ⟨group, hgroup, hfile⟩ := List.mem_flatten.1 (List.mem_eraseDups.1 hfile)
        obtain ⟨path, hpath, hexpand⟩ := exists_of_mem_mapM hgroups group hgroup
        obtain ⟨text, _, rfl⟩ := List.mem_map.1 hpath
        exact isPlain_of_expand hdisk (Path.isPlain_ofString text) hexpand file hfile
      refine (nodup_eraseDups _).map_on ?_
      intro file hfile other hother heq
      rw [← Path.ofString_text (hplain file hfile), heq, Path.ofString_text (hplain other hother)]
    . intro path hpath hdirectory
      obtain ⟨group, hgroup, hexpand⟩ := exists_mem_of_mapM hgroups path hpath
      rw [List.mem_eraseDups, List.mem_flatten]
      exact ⟨group, hgroup, mem_of_expand_eq_ok hdirectory hexpand⟩

/-- The walk goes through a directory that is excluded, though the files in it do not count. -/
theorem collect_exact_pruned :
    let items := [("bin", Item.directory [("Gen.cs", .file .empty)]), ("A.cs", .file .empty)]
    let disk : Disk := ⟨[("src", .directory items)], ⟨"/", []⟩, ⟨"/", []⟩⟩
    let filter : FileFilter := { excludePatterns := ["bin/*"] }
    Item.IsTree (.directory disk.items) ∧ filter.enters ["bin"] = false ∧
      ∃ files, ["bin", "Gen.cs"] ∈ files ∧ (Item.directory items).IsWalk files ∧
        disk.collect filter [⟨"", ["src"]⟩] =
          .ok ((files.filter filter.accepts).map fun names => ⟨"", "src" :: names⟩) := by
  intro items disk filter
  have hname {name : String} (hne : name ≠ "") (hpoint : name ≠ ".")
      (havoids : Text.avoids ['/'] name = true) : Path.IsName name :=
    ⟨hne, hpoint, havoids⟩
  have hbin : Item.IsTree (.directory [("Gen.cs", .file .empty)]) :=
    .directory (by decide) (by simpa using hname (by decide) (by decide) (by decide))
      (by simpa using .file .empty)
  have hitems : Item.IsTree (.directory items) := by
    refine .directory (by decide) ?_ ?_
    . simp only [items, List.forall_mem_cons]
      exact ⟨hname (by decide) (by decide) (by decide), hname (by decide) (by decide) (by decide),
        by simp⟩
    . simp only [items, List.forall_mem_cons]
      exact ⟨hbin, .file _, by simp⟩
  have hdisk : Item.IsTree (.directory disk.items) :=
    .directory (by decide) (by simpa [disk] using hname (by decide) (by decide) (by decide))
      (by simpa [disk] using hitems)
  have hitem : disk.item ⟨"", ["src"]⟩ = .ok (.directory items) := by
    rfl
  obtain ⟨files, hwalk, hcollect⟩ := (collect_exact hdisk filter).1 _ items hitem
  exact ⟨hdisk, by decide, files, (hwalk.mem_iff _).2 ⟨.empty, rfl⟩, hwalk, hcollect⟩

end Disk

end ThreadLint
