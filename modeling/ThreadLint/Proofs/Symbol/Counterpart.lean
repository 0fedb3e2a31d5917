import ThreadLint.Proofs.Symbol.Normal
import ThreadLint.Proofs.Text.Pieces

/-!
This module contains when a name leads to the replacement for a type that it led to, once the short
name of the one is written for that of the other. That is so unless the name is an alias of the type
alone, or the short name was changed among type arguments.
-/

namespace ThreadLint

/--
Whether an entry is what a type is to be replaced by: the type of the same namespace that has the name
of the replacement and can initialise without the UI thread.
-/
structure SymbolEntry.IsCounterpart (other entry : SymbolEntry) : Prop where
  kind_eq : other.kind = .type
  isAsync : .asyncInit ∈ other.capabilities
  replacement_eq : entry.replacement = some other.shortName
  space_eq : ∃ space, entry.name = space ++ "." ++ entry.shortName ∧
    other.name = space ++ "." ++ other.shortName

namespace Symbol

/-! ### The built-in package types -/

/--
The type of packages that initialise on the UI thread.
-/
def oldPackage : SymbolEntry where
  name := shell ++ ".Package"
  kind := .type
  tags := [.asyncEntryPoint]
  replacement := some "AsyncPackage"

/--
The type of packages that can initialise without the UI thread.
-/
def newPackage : SymbolEntry where
  name := shell ++ ".AsyncPackage"
  kind := .type
  tags := [.asyncEntryPoint]
  capabilities := asyncPackage

/--
The dotted namespace of packages.
-/
def inShell : List Char :=
  (shell ++ ".").toList

theorem newPackage_isCounterpart : newPackage.IsCounterpart oldPackage where
  kind_eq := rfl
  isAsync := by decide
  replacement_eq := by decide
  space_eq := ⟨shell, by decide, by decide⟩

theorem isSimple_oldPackage : IsSimple oldPackage.shortName.toList := by decide

theorem isSimple_newPackage : IsSimple newPackage.shortName.toList := by decide

theorem oldPackage_ne_newPackage : oldPackage ≠ newPackage := by decide

theorem length_shortName_ne :
    oldPackage.shortName.toList.length ≠ newPackage.shortName.toList.length := by
  decide

theorem names_nodup : ((builtin ++ []).map SymbolEntry.name).Nodup := by decide

theorem name_oldPackage : oldPackage.name.toList = inShell ++ oldPackage.shortName.toList := by
  decide

theorem name_newPackage : newPackage.name.toList = inShell ++ newPackage.shortName.toList := by
  decide

theorem mem_builtin : oldPackage ∈ builtin ∧ newPackage ∈ builtin := by decide

/-- Only one type has the short name of the replacement in its name, and only at the end. -/
theorem eq_newPackage_of_prefix : ∀ entry ∈ builtin, entry.kind = .type →
    ∀ n ≤ entry.name.toList.length, newPackage.shortName.toList <+: entry.name.toList.drop n →
      entry = newPackage ∧ n = inShell.length := by
  decide

theorem eq_length_of_prefix : ∀ n ≤ oldPackage.name.toList.length,
    oldPackage.shortName.toList <+: oldPackage.name.toList.drop n → n = inShell.length := by
  decide

theorem isWhole_of_mem_builtin : ∀ entry ∈ builtin, entry.kind = .type → entry.isSuffix = false := by
  decide

end Symbol

namespace SymbolTable

open ThreadLint.Symbol

variable {whole : String} {entry : SymbolEntry} {front back : List Char}

theorem named?_type_eq_some_iff : (builtin []).named? whole (some .type) = some entry ↔
    entry ∈ Symbol.builtin ∧ entry.kind = .type ∧ entry.name = whole := by
  unfold builtin
  rw [named?_eq_some_iff names_nodup, List.append_nil]
  constructor
  . rintro ⟨hmem, _, hname, hkind⟩
    exact ⟨hmem, beq_iff_eq.1 hkind, hname⟩
  . rintro ⟨hmem, hkind, hname⟩
    exact ⟨hmem, isWhole_of_mem_builtin entry hmem hkind, hname, beq_iff_eq.2 hkind⟩

/-- No type is found by the end of its name. -/
theorem find?_suffixes_type (name : String) :
    ((builtin []).suffixes.find? fun entry =>
      entry.isOfKind (some .type) && entry.matchesSuffix name) = none := by
  unfold builtin
  rw [find?_suffixes_eq_none_iff, List.append_nil]
  intro other hmem hending
  have hwhole := isWhole_of_mem_builtin other hmem (beq_iff_eq.1 hending.isOfKind)
  rw [hending.isSuffix] at hwhole
  cases hwhole

theorem parts_of_name {part : List Char} (hlength : front.length = inShell.length)
    (h : inShell ++ part = front ++ (part ++ back)) : front = inShell ∧ back = [] := by
  obtain ⟨hfront, hback⟩ := List.append_inj h hlength.symm
  exact ⟨hfront.symm, List.append_right_eq_self.1 hback.symm⟩

theorem eq_of_named?_newPackage (h : (builtin []).named? whole (some .type) = some entry)
    (hwhole : whole.toList = front ++ (newPackage.shortName.toList ++ back)) :
    entry = newPackage ∧ front = inShell ∧ back = [] := by
  obtain ⟨hmem, hkind, rfl⟩ := named?_type_eq_some_iff.1 h
  obtain ⟨rfl, hlength⟩ := eq_newPackage_of_prefix entry hmem hkind front.length
    (by rw [hwhole, List.length_append]; exact Nat.le_add_right _ _)
    (by rw [hwhole, List.drop_left]; exact List.prefix_append _ _)
  exact ⟨rfl, parts_of_name hlength (name_newPackage.symm.trans hwhole)⟩

theorem eq_of_named?_oldPackage (h : (builtin []).named? whole (some .type) = some oldPackage)
    (hwhole : whole.toList = front ++ (oldPackage.shortName.toList ++ back)) :
    front = inShell ∧ back = [] := by
  obtain ⟨_, _, rfl⟩ := named?_type_eq_some_iff.1 h
  have hlength := eq_length_of_prefix front.length
    (by rw [hwhole, List.length_append]; exact Nat.le_add_right _ _)
    (by rw [hwhole, List.drop_left]; exact List.prefix_append _ _)
  exact parts_of_name hlength (name_oldPackage.symm.trans hwhole)

theorem named?_of_name (hmem : entry ∈ Symbol.builtin) (hkind : entry.kind = .type)
    (hname : entry.name.toList = whole.toList) :
    (builtin []).named? whole (some .type) = some entry :=
  named?_type_eq_some_iff.2 ⟨hmem, hkind, String.toList_injective hname⟩

theorem wholeNames_eq (name : String) (namespaces : List String) :
    wholeNames name namespaces
      = ("" :: namespaces.map fun space => space ++ ".").map fun space => space ++ name := by
  unfold wholeNames
  rw [List.map_cons, String.empty_append, List.map_map]
  rfl

/-- What leads to the one type leads to the other if their short names are exchanged. -/
theorem findSome?_exchange {name name' : String}
    (hname : name.toList = front ++ (oldPackage.shortName.toList ++ back))
    (hname' : name'.toList = front ++ (newPackage.shortName.toList ++ back))
    {namespaces : List String}
    (h : (wholeNames name namespaces).findSome? (fun whole => (builtin []).named? whole (some .type))
      = some oldPackage) :
    (wholeNames name' namespaces).findSome? (fun whole => (builtin []).named? whole (some .type))
      = some newPackage := by
  rw [wholeNames_eq, List.findSome?_map] at h ⊢
  obtain ⟨earlier, space, later, hspaces, hfound, hnone⟩ := List.findSome?_eq_some_iff.1 h
  rw [hspaces]
  refine List.findSome?_eq_some_iff.2 ⟨earlier, space, later, rfl, ?_, ?_⟩
  . obtain ⟨hfront, rfl⟩ := eq_of_named?_oldPackage hfound
      (by rw [String.toList_append, hname, ← List.append_assoc])
    apply named?_of_name mem_builtin.2 rfl
    rw [String.toList_append, hname', ← List.append_assoc, hfront, List.append_nil, name_newPackage]
  . intro other hother
    rw [Function.comp_apply, Option.eq_none_iff_forall_ne_some]
    intro entry hentry
    obtain ⟨_, hfront, rfl⟩ := eq_of_named?_newPackage hentry
      (by rw [String.toList_append, hname', ← List.append_assoc])
    have hnone := hnone other hother
    rw [Function.comp_apply, named?_of_name mem_builtin.1 rfl] at hnone
    . cases hnone
    . rw [String.toList_append, hname, ← List.append_assoc, hfront, List.append_nil, name_oldPackage]

end SymbolTable

/-! ### Written names -/

/--
Whether a written name has one segment only.
-/
def Symbol.IsOneWord (name : String) : Prop :=
  ∀ c ∈ (Symbol.normalize name).toList, Symbol.isPlain c = true

namespace Scope

open ThreadLint.Symbol

/--
The name that is looked up for a written one.
-/
def lookedUp (scope : Scope) (name : String) : String :=
  normalize (scope.expandAlias (normalize name))

/--
The first segment of a written name, in which an alias may stand.
-/
def headOf (name : String) : String :=
  Text.beforeFirst '.' (normalize name)

variable {scope : Scope} {name name' : String} {front back : List Char}

theorem lookup_type_eq (htable : scope.table = .builtin []) (hname : name ≠ "")
    (hlookedUp : scope.lookedUp name ≠ "") :
    scope.lookup (some name) (some .type)
      = (SymbolTable.wholeNames (scope.lookedUp name) scope.namespaces).findSome? fun whole =>
        (SymbolTable.builtin []).named? whole (some .type) := by
  unfold lookup
  unfold lookedUp at hlookedUp ⊢
  dsimp only
  rw [if_neg (mt String.isEmpty_iff.1 hname), htable, SymbolTable.lookup_eq,
    if_neg (mt String.isEmpty_iff.1 hlookedUp), SymbolTable.find?_suffixes_type, Option.or_none]

theorem ne_empty_of_lookup {entry : SymbolEntry}
    (h : scope.lookup (some name) (some .type) = some entry) :
    name ≠ "" ∧ scope.lookedUp name ≠ "" := by
  unfold lookup at h
  dsimp only at h
  split at h
  . cases h
  . next hname =>
    rw [SymbolTable.lookup_eq] at h
    split at h
    . cases h
    . next hlookedUp => exact ⟨mt String.isEmpty_iff.2 hname, mt String.isEmpty_iff.2 hlookedUp⟩

/-- A lookup asks a scope for no more than its table, its namespaces and its aliases. -/
theorem lookup_congr {other : Scope} (name : Option String) (kind : Option SymbolKind)
    (htable : scope.table = other.table) (hnamespaces : scope.namespaces = other.namespaces)
    (haliases : scope.aliases = other.aliases) :
    scope.lookup name kind = other.lookup name kind := by
  unfold lookup expandAlias
  rw [htable, hnamespaces, haliases]

/--
Whether an alias stands in front of a written name.
-/
def isAliased (scope : Scope) (name : String) : Bool :=
  (scope.aliases.lookup (headOf name)).isSome

/--
Whether two written names go through the same alias, or through none.
-/
def SameWay (scope : Scope) (name name' : String) : Prop :=
  headOf name = headOf name' ∨ scope.isAliased name = false ∧ scope.isAliased name' = false

instance (scope : Scope) (name name' : String) : Decidable (scope.SameWay name name') :=
  inferInstanceAs (Decidable (_ ∨ _))

/-- An alias in front of a dot gives way to what it stands for, and all behind the dot is kept. -/
theorem expandAlias_of_dot (scope : Scope) {front rest : List Char} (hfront : '.' ∉ front)
    (hrest : rest ≠ []) (h : name.toList = front ++ '.' :: rest) :
    (scope.expandAlias name).toList
      = ((scope.aliases.lookup (String.ofList front)).getD (String.ofList front)).toList
        ++ '.' :: rest := by
  unfold expandAlias Text.beforeFirst Text.afterFirst
  rw [h, Text.takeWhile_ne hfront, Text.dropWhile_ne hfront, List.drop_one, List.tail_cons]
  cases scope.aliases.lookup (String.ofList front) with
  | none => rw [Option.getD_none, String.toList_ofList, h]
  | some target =>
    have hne : (String.ofList rest).isEmpty = false := by
      rw [Bool.eq_false_iff, ne_eq, String.isEmpty_iff, String.ofList_eq_empty_iff]
      exact hrest
    dsimp only
    rw [hne, if_neg Bool.false_ne_true]
    simp

theorem expandAlias_of_not_isAliased (h : scope.isAliased name = false) :
    scope.expandAlias (normalize name) = normalize name := by
  unfold isAliased headOf at h
  unfold expandAlias
  rw [Option.isSome_eq_false_iff, Option.isNone_iff_eq_none] at h
  rw [h]

variable {word word' : List Char}

theorem headOf_ne (hlength : word.length ≠ word'.length) (hword : IsSimple word)
    (hword' : IsSimple word') (hfront : '.' ∉ front)
    (hname : (normalize name).toList = front ++ (word ++ back))
    (hname' : (normalize name').toList = front ++ (word' ++ back)) :
    headOf name ≠ headOf name' := by
  have htake {word : List Char} (hword : IsSimple word) :
      (front ++ (word ++ back)).takeWhile (· != '.')
        = front ++ (word ++ back.takeWhile (· != '.')) := by
    rw [List.takeWhile_append_of_pos, List.takeWhile_append_of_pos]
    . intro c hc
      exact bne_iff_ne.2 (isPlain_iff.1 (hword.isPlain c hc)).2.2.2.1
    . intro c hc
      rw [bne_iff_ne]
      rintro rfl
      exact hfront hc
  unfold headOf Text.beforeFirst
  rw [hname, hname', htake hword, htake hword', ne_eq, String.ofList_inj]
  intro heq
  have := congrArg List.length heq
  simp only [List.length_append] at this
  omega

/-- On the same way through the aliases a word fares like any other in its place. -/
theorem exists_lookedUp (hsame : scope.SameWay name name') (hlength : word.length ≠ word'.length)
    (hword : IsSimple word) (hword' : IsSimple word')
    (hname : (normalize name).toList = front ++ (word ++ back))
    (hname' : (normalize name').toList = front ++ (word' ++ back)) :
    scope.lookedUp name' = scope.lookedUp name ∨ ∃ front' back',
      (scope.lookedUp name).toList = front' ++ (word ++ back') ∧
        (scope.lookedUp name').toList = front' ++ (word' ++ back') := by
  have hexpand : ∃ front' back',
      (scope.expandAlias (normalize name)).toList = front' ++ (word ++ back') ∧
        (scope.expandAlias (normalize name')).toList = front' ++ (word' ++ back') := by
    by_cases hdot : '.' ∈ front
    -- The first segment ends in front of the word, so an alias says the same for both names.
    . obtain ⟨first, others, rfl, hfirst⟩ := List.eq_append_cons_of_mem hdot
      have hrest {word : List Char} (hword : IsSimple word) : others ++ (word ++ back) ≠ [] := by
        have := hword.ne_nil
        simp [this]
      rw [List.append_assoc, List.cons_append] at hname hname'
      rw [scope.expandAlias_of_dot hfirst (hrest hword) hname,
        scope.expandAlias_of_dot hfirst (hrest hword') hname']
      generalize ((scope.aliases.lookup (String.ofList first)).getD (String.ofList first)).toList
        = expanded
      refine ⟨expanded ++ '.' :: others, back, ?_, ?_⟩
      . rw [List.append_assoc, List.cons_append]
      . rw [List.append_assoc, List.cons_append]
    -- The word is in the first segment, so an alias can stand for one of the names only.
    . have hheads := headOf_ne hlength hword hword' hdot hname hname'
      obtain ⟨hplain, hplain'⟩ := hsame.resolve_left hheads
      exact ⟨front, back, by rw [expandAlias_of_not_isAliased hplain, hname],
        by rw [expandAlias_of_not_isAliased hplain', hname']⟩
  obtain ⟨front', back', hexpanded, hexpanded'⟩ := hexpand
  obtain ⟨front'', back'', hkeeps⟩ | ⟨rest, hdrops⟩ := normalize_treats front' back'
  . exact .inr ⟨front'', back'', hkeeps word _ hword hexpanded, hkeeps word' _ hword' hexpanded'⟩
  . exact .inl ((hdrops word' _ hword' hexpanded').trans (hdrops word _ hword hexpanded).symm)

/-! ### Short names exchanged -/

variable (htable : scope.table = .builtin [])
  (hname : name.toList = front ++ (oldPackage.shortName.toList ++ back))
  (hname' : name'.toList = front ++ (newPackage.shortName.toList ++ back))

include hname' in
theorem ne_empty_of_newPackage : name' ≠ "" := by
  rintro rfl
  have := isSimple_newPackage.ne_nil
  simp_all

include htable hname hname'

/--
If two names go the same way through the aliases, the new one leads to the replacement for what the
old one leads to exactly if it is another name that is looked up.
-/
theorem lookup_exchanged_iff (hsame : scope.SameWay name name')
    (hlookup : scope.lookup (some name) (some .type) = some oldPackage) :
    scope.lookup (some name') (some .type) = some newPackage ↔
      scope.lookedUp name' ≠ scope.lookedUp name := by
  obtain ⟨hne, hlookedUp⟩ := ne_empty_of_lookup hlookup
  have hne' := ne_empty_of_newPackage hname'
  rw [lookup_type_eq htable hne hlookedUp] at hlookup
  constructor
  . intro hlookup' heq
    have hlookedUp' : scope.lookedUp name' ≠ "" := by
      rw [heq]
      exact hlookedUp
    rw [lookup_type_eq htable hne' hlookedUp', heq, hlookup] at hlookup'
    exact oldPackage_ne_newPackage (Option.some.inj hlookup')
  . intro hdiffers
    have hparts : ∃ front' back',
        (scope.lookedUp name).toList = front' ++ (oldPackage.shortName.toList ++ back') ∧
          (scope.lookedUp name').toList = front' ++ (newPackage.shortName.toList ++ back') := by
      obtain ⟨front', back', hkeeps⟩ | ⟨rest, hdrops⟩ := normalize_treats front back
      . refine (exists_lookedUp hsame length_shortName_ne isSimple_oldPackage isSimple_newPackage
          (hkeeps _ _ isSimple_oldPackage hname)
          (hkeeps _ _ isSimple_newPackage hname')).resolve_left hdiffers
      . refine absurd ?_ hdiffers
        unfold lookedUp
        rw [hdrops _ _ isSimple_newPackage hname', hdrops _ _ isSimple_oldPackage hname]
    obtain ⟨front', back', hparts, hparts'⟩ := hparts
    rw [lookup_type_eq htable hne' (ne_empty_of_newPackage hparts')]
    exact SymbolTable.findSome?_exchange hparts hparts' hlookup

/--
A name of one word that is no alias leads to the replacement exactly if it is its short name and the
namespace of the replacement is used.
-/
theorem lookup_word_iff (hplain : IsOneWord name)
    (hdiffers : normalize name' ≠ normalize name) (halias : scope.isAliased name' = false) :
    scope.lookup (some name') (some .type) = some newPackage ↔
      normalize name = oldPackage.shortName ∧ shell ∈ scope.namespaces := by
  have hne' := ne_empty_of_newPackage hname'
  obtain ⟨front', back', hkeeps⟩ | ⟨rest, hdrops⟩ := normalize_treats front back
  case inr =>
    exact absurd ((hdrops _ _ isSimple_newPackage hname').trans
      (hdrops _ _ isSimple_oldPackage hname).symm) hdiffers
  have hparts := hkeeps _ _ isSimple_oldPackage hname
  have hparts' := hkeeps _ _ isSimple_newPackage hname'
  have hplain' : IsOneWord name' := by
    unfold IsOneWord at hplain ⊢
    rw [hparts, List.forall_mem_append, List.forall_mem_append] at hplain
    rw [hparts', List.forall_mem_append, List.forall_mem_append]
    exact ⟨hplain.1, isSimple_newPackage.isPlain, hplain.2.2⟩
  have hlookedUp : scope.lookedUp name' = normalize name' := by
    unfold lookedUp
    rw [expandAlias_of_not_isAliased halias, normalize_of_isPlain hplain']
  rw [lookup_type_eq htable hne' (hlookedUp ▸ ne_empty_of_newPackage hparts'), hlookedUp,
    SymbolTable.wholeNames_eq, List.findSome?_map]
  constructor
  . intro hfound
    obtain ⟨space, hspace, hfound⟩ := List.exists_of_findSome?_eq_some hfound
    obtain ⟨_, hfront, rfl⟩ := SymbolTable.eq_of_named?_newPackage hfound
      (by rw [String.toList_append, hparts', ← List.append_assoc])
    -- The dot at the end of the namespace is not in front of the short name.
    have hnil : front' = [] := by
      obtain rfl | ⟨others, c, rfl⟩ := List.eq_nil_or_concat front'
      . rfl
      . have hlast := congrArg List.getLast? hfront
        have hc := hplain c (by rw [hparts]; simp)
        rw [List.concat_eq_append, ← List.append_assoc, List.getLast?_concat] at hlast
        rw [show c = '.' from Option.some.inj (hlast.trans (by decide))] at hc
        exact absurd hc (by decide)
    rw [hnil, List.append_nil] at hfront
    constructor
    . apply String.toList_injective
      rw [hparts, hnil, List.nil_append, List.append_nil]
    . rw [List.mem_cons, List.mem_map] at hspace
      obtain rfl | ⟨space, hmem, rfl⟩ := hspace
      . exact absurd hfront (by decide)
      . unfold inShell at hfront
        rw [String.toList_append, String.toList_append] at hfront
        rwa [← String.toList_injective (List.append_cancel_right hfront)]
  . rintro ⟨hold, hshell⟩
    have hlength := congrArg String.length hold
    rw [← String.length_toList, hparts, List.length_append, List.length_append,
      String.length_toList] at hlength
    obtain rfl : front' = [] := List.eq_nil_of_length_eq_zero (by omega)
    obtain rfl : back' = [] := List.eq_nil_of_length_eq_zero (by omega)
    rw [List.nil_append, List.append_nil] at hparts'
    have hspace : (shell ++ ".") ∈ "" :: scope.namespaces.map fun space => space ++ "." :=
      List.mem_cons_of_mem _ (List.mem_map.2 ⟨shell, hshell, rfl⟩)
    cases hfind : ("" :: scope.namespaces.map fun space => space ++ ".").findSome?
        ((fun whole => (SymbolTable.builtin []).named? whole (some .type)) ∘
          fun space => space ++ normalize name') with
    | none =>
      have hnone := List.findSome?_eq_none_iff.1 hfind _ hspace
      rw [Function.comp_apply, SymbolTable.named?_of_name mem_builtin.2 rfl] at hnone
      . cases hnone
      . rw [String.toList_append, hparts', name_newPackage]
        rfl
    | some entry =>
      obtain ⟨space, _, hfound⟩ := List.exists_of_findSome?_eq_some hfind
      rw [(SymbolTable.eq_of_named?_newPackage hfound
        (by rw [String.toList_append, hparts', List.append_nil])).1]

end Scope

end ThreadLint
