import ThreadLint.Proofs.Stable
import ThreadLint.Proofs.Symbol
import ThreadLint.Settings

/-!
This module contains what the symbols that settings add do to the built-in types, properties and
attributes: as all of them are methods, they answer no question for these, but one that matches by its
whole name takes the place of the built-in entry of that name, whatever kind it is of.
-/

namespace ThreadLint

theorem SymbolEntry.kind_ofSetting (name : String) (tags : List SymbolTag) :
    (ofSetting name tags).kind = .method := by
  unfold ofSetting
  split <;> rfl

/-- All symbols that settings add are methods. -/
theorem Settings.kind_of_mem_symbolEntries {settings : Settings} {entry : SymbolEntry}
    (h : entry ∈ settings.symbolEntries) : entry.kind = .method := by
  obtain ⟨extra, _, rfl⟩ := List.mem_map.1 h
  exact SymbolEntry.kind_ofSetting extra.name extra.tags

/--
Whether a later entry takes the place of an earlier one: both match by their whole name, and it is the
same name.
-/
def SymbolEntry.Replaces (later earlier : SymbolEntry) : Prop :=
  later.isSuffix = false ∧ earlier.isSuffix = false ∧ later.name = earlier.name

namespace SymbolTable

/-! ### Entries that match by their whole name -/

theorem name_of_find? {entries : List SymbolEntry} {entry : SymbolEntry} {name : String}
    (h : entries.find? (·.name == name) = some entry) : entry.name = name := by
  have hname := List.find?_some h
  rwa [beq_iff_eq] at hname

theorem find?_insertExact (entries : List SymbolEntry) (entry : SymbolEntry) (name : String) :
    (insertExact entries entry).find? (·.name == name)
      = (([entry].find? (·.name == name)).or (entries.find? (·.name == name))) := by
  have hreplace (other : SymbolEntry) :
      (if other.name == entry.name then entry else other).name = other.name := by
    split
    . next heq => exact (beq_iff_eq.1 heq).symm
    . rfl
  unfold insertExact
  split
  . next hany =>
    simp only [List.find?_map, Function.comp_def, hreplace]
    by_cases hname : entry.name = name
    . -- The first entry of the name is the one that gives way.
      obtain ⟨other, hmem, hother⟩ := List.any_eq_true.1 hany
      rw [hname] at hother
      cases hfind : entries.find? (·.name == name) with
      | none => exact absurd hother (List.find?_eq_none.1 hfind other hmem)
      | some found => simp [hname, name_of_find? hfind]
    . cases hfind : entries.find? (·.name == name) with
      | none => simp [hname]
      | some found => simp [hname, name_of_find? hfind, Ne.symm hname]
  . next hany =>
    rw [List.find?_append]
    by_cases hname : entry.name = name
    . have hnone : entries.find? (·.name == name) = none := by
        simpa [hname] using hany
      simp [hnone]
    . simp [hname]

/-- Of the entries with a whole name the last one is found. -/
theorem find?_foldl_insertExact (entries found : List SymbolEntry) (name : String) :
    (entries.foldl insertExact found).find? (·.name == name)
      = (entries.reverse.find? (·.name == name)).or (found.find? (·.name == name)) := by
  induction entries generalizing found with
  | nil => simp
  | cons entry rest ih =>
    rw [List.foldl_cons, ih, find?_insertExact, List.reverse_cons, List.find?_append, Option.or_assoc]

theorem isSuffix_of_mem_exact {entries : List SymbolEntry} {entry : SymbolEntry}
    (h : entry ∈ (ofEntries entries).exact) : entry.isSuffix = false := by
  have hmem := (mem_of_mem_foldl_insertExact h).resolve_left List.not_mem_nil
  simpa using (List.mem_filter.1 hmem).2

theorem isSuffix_of_mem_suffixes {entries : List SymbolEntry} {entry : SymbolEntry}
    (h : entry ∈ (ofEntries entries).suffixes) : entry.isSuffix = true :=
  (List.mem_filter.1 (List.mem_mergeSort.1 h)).2

section

variable {others : List SymbolEntry} (hothers : ∀ other ∈ others, other.kind = .method)
  {kind : SymbolKind} (hkind : kind ≠ .method)

include hothers hkind

theorem isOfKind_eq_false {other : SymbolEntry} (h : other ∈ others) :
    other.isOfKind (some kind) = false := by
  simpa [SymbolEntry.isOfKind, hothers other h] using hkind.symm

/-- An added method leaves no entry of another kind under its whole name. -/
theorem named?_builtin (name : String) :
    (builtin others).named? name (some kind)
      = if others.any (fun other => !other.isSuffix && other.name == name) then none
        else (builtin []).named? name (some kind) := by
  unfold named? builtin ofEntries
  simp only [List.append_nil, find?_foldl_insertExact, List.find?_nil, Option.or_none,
    List.filter_append, List.reverse_append, List.find?_append]
  cases hfind : (others.filter fun other => !other.isSuffix).reverse.find? (·.name == name) with
  | none =>
    have hany : others.any (fun other => !other.isSuffix && other.name == name) = false := by
      simpa using hfind
    simp [hany]
  | some found =>
    have hmem := List.mem_filter.1 (List.mem_reverse.1 (List.mem_of_find?_eq_some hfind))
    have hany : others.any (fun other => !other.isSuffix && other.name == name) = true := by
      rw [List.any_eq_true]
      exact ⟨found, hmem.1, by rw [hmem.2, List.find?_some hfind, Bool.and_self]⟩
    simp [hany, isOfKind_eq_false hothers hkind hmem.1]

/-- An added method does not come between a name and the entries of another kind that it ends in. -/
theorem find?_suffixes_builtin (name : String) :
    ((builtin others).suffixes.find? fun entry =>
        entry.isOfKind (some kind) && entry.matchesSuffix name)
      = (builtin []).suffixes.find? fun entry =>
        entry.isOfKind (some kind) && entry.matchesSuffix name := by
  have hnone : (others.filter (·.isSuffix)).filter (fun entry =>
      entry.isOfKind (some kind) && entry.matchesSuffix name) = [] := by
    rw [List.filter_eq_nil_iff]
    intro other hmem
    simp [isOfKind_eq_false hothers hkind (List.mem_filter.1 hmem).1]
  unfold builtin ofEntries
  dsimp only
  rw [← List.head?_filter, ← List.head?_filter, filter_mergeSort precedes_trans precedes_total,
    filter_mergeSort precedes_trans precedes_total, List.append_nil, List.filter_append,
    List.filter_append, hnone, List.append_nil]

end

/-! ### Lookups -/

/--
The whole names that a name may stand for, in the order in which they are looked up.
-/
def wholeNames (name : String) (namespaces : List String) : List String :=
  name :: namespaces.map fun space => space ++ "." ++ name

theorem lookup_eq (table : SymbolTable) (name : String) (kind : Option SymbolKind)
    (namespaces : List String) :
    table.lookup name kind namespaces
      = if (Symbol.normalize name).isEmpty then none
        else ((wholeNames (Symbol.normalize name) namespaces).findSome?
          fun whole => table.named? whole kind).or
            (table.suffixes.find? fun entry =>
              entry.isOfKind kind && entry.matchesSuffix (Symbol.normalize name)) := by
  unfold lookup wholeNames
  dsimp only
  rw [List.findSome?_cons, List.findSome?_map]
  cases table.named? (Symbol.normalize name) kind <;> rfl

/--
If some names are taken away, a search gives what it gave before exactly if the name of what it gave
is not one of them.
-/
theorem findSome?_or_eq_iff {taken : String → Bool} {plain : String → Option SymbolEntry}
    {suffix : Option SymbolEntry}
    (hplain : ∀ whole entry, plain whole = some entry →
      entry.name = whole ∧ entry.isSuffix = false)
    (hsuffix : ∀ entry, suffix = some entry → entry.isSuffix = true) (wholes : List String) :
    (wholes.findSome? fun whole => if taken whole then none else plain whole).or suffix
        = (wholes.findSome? plain).or suffix ↔
      ∀ entry, (wholes.findSome? plain).or suffix = some entry →
        entry.isSuffix = false → taken entry.name = false := by
  induction wholes with
  | nil =>
    simp only [List.findSome?_nil, Option.none_or, true_iff]
    intro entry hentry hexact
    rw [hsuffix entry hentry] at hexact
    cases hexact
  | cons whole rest ih =>
    cases hwhole : plain whole with
    | none => simpa [hwhole] using ih
    | some entry =>
      obtain ⟨hname, hexact⟩ := hplain whole entry hwhole
      cases htaken : taken whole with
      | false => simp [hwhole, htaken, hname]
      | true =>
        -- Nothing else leads to the entry: other names have other entries, and it is no suffix.
        have hother : (rest.findSome? fun whole => if taken whole then none else plain whole).or
            suffix ≠ some entry := by
          intro h
          rw [Option.or_eq_some_iff] at h
          rcases h with h | ⟨_, h⟩
          . obtain ⟨other, _, h⟩ := List.exists_of_findSome?_eq_some h
            split at h
            . cases h
            . next hfree => exact hfree (by rw [← (hplain other entry h).1, hname, htaken])
          . rw [hsuffix entry h] at hexact
            cases hexact
        simp [hwhole, htaken, hname, hexact, hother]

/-- An added method changes what a name of another kind leads to exactly if it replaces that. -/
theorem lookup_builtin_eq_iff {others : List SymbolEntry}
    (hothers : ∀ other ∈ others, other.kind = .method) {kind : SymbolKind} (hkind : kind ≠ .method)
    (name : String) (namespaces : List String) :
    (builtin others).lookup name (some kind) namespaces
        = (builtin []).lookup name (some kind) namespaces ↔
      ∀ entry, (builtin []).lookup name (some kind) namespaces = some entry →
        ∀ other ∈ others, ¬other.Replaces entry := by
  rw [lookup_eq, lookup_eq]
  split
  . simp
  simp only [named?_builtin hothers hkind, find?_suffixes_builtin hothers hkind]
  rw [findSome?_or_eq_iff]
  . apply forall₂_congr
    intro entry _
    simp only [List.any_eq_false, SymbolEntry.Replaces]
    grind
  . intro whole entry h
    obtain ⟨hmem, hname, _⟩ := named?_eq_some h
    exact ⟨hname, isSuffix_of_mem_exact hmem⟩
  . intro entry h
    exact isSuffix_of_mem_suffixes (List.mem_of_find?_eq_some h)

end SymbolTable

/--
The symbols of settings leave what a file finds for a name of another kind than methods as it is,
exactly if none of them replaces the built-in entry that it finds.
-/
theorem Scope.lookup_symbolEntries (settings : Settings) (scope : Scope) (name : Option String)
    {kind : SymbolKind} (hkind : kind ≠ .method) :
    { scope with table := .builtin settings.symbolEntries }.lookup name (some kind)
        = { scope with table := .builtin [] }.lookup name (some kind) ↔
      ∀ entry, { scope with table := .builtin [] }.lookup name (some kind) = some entry →
        ∀ other ∈ settings.symbolEntries, ¬other.Replaces entry := by
  unfold lookup
  cases name with
  | none => simp
  | some name =>
    dsimp only
    split
    . simp
    . exact SymbolTable.lookup_builtin_eq_iff
        (fun _ h => Settings.kind_of_mem_symbolEntries h) hkind _ _

/--
What a file without any names of its own sees of a table through a namespace.
-/
def Scope.through (space : String) (table : SymbolTable) : Scope where
  table := table
  namespaces := [space]
  aliases := []
  locals := []

/--
The settings that add one symbol that blocks.
-/
def Settings.blockingIn (name : String) : Settings where
  __ := (default : Settings)
  extraSymbols := [⟨name, .list [.text "BlockingWait"], [.blockingWait]⟩]

theorem Settings.symbolEntries_blockingIn (name : String) :
    (blockingIn name).symbolEntries = [.ofSetting name [.blockingWait]] := by
  unfold symbolEntries blockingIn
  rw [List.mergeSort_singleton]
  rfl

/-- A type is found as before if the symbol that blocks is another one. -/
theorem Scope.lookup_symbolEntries_wait :
    ∃ entry, Symbol.builtin.contains entry = true ∧
      (Scope.through Symbol.shell
        (.builtin (Settings.blockingIn "Acme.Wait").symbolEntries)).lookup (some "AsyncPackage")
          (some .type) = some entry := by
  have hplain : ((Scope.through Symbol.shell (.builtin [])).lookup (some "AsyncPackage")
      (some .type)).any (fun entry => Symbol.builtin.contains entry && entry.name != "Acme.Wait")
        = true := by
    rw [SymbolTable.builtin_eq]
    decide +kernel
  rw [Option.any_eq_true] at hplain
  obtain ⟨entry, hentry, hknown⟩ := hplain
  rw [Bool.and_eq_true, bne_iff_ne] at hknown
  refine ⟨entry, hknown.1, ?_⟩
  rw [← hentry]
  refine (Scope.lookup_symbolEntries (Settings.blockingIn "Acme.Wait")
    (Scope.through Symbol.shell (.builtin [])) (some "AsyncPackage") (by decide)).2 ?_
  intro found hfound other hother hreplaces
  rw [Settings.symbolEntries_blockingIn, List.mem_singleton] at hother
  rw [Option.some.inj (hfound.symm.trans hentry), hother] at hreplaces
  exact hknown.2 (hreplaces.2.2.symm.trans (by decide +kernel))

/-- A type is not found any more if it has the name of a symbol that settings may add. -/
theorem Scope.lookup_replaced :
    Settings.extraSymbolsOf
        (.table [("Microsoft.VisualStudio.Shell.AsyncPackage", .list [.text "BlockingWait"])])
          = .ok (Settings.blockingIn "Microsoft.VisualStudio.Shell.AsyncPackage").extraSymbols ∧
      (∃ entry, (Scope.through Symbol.shell (.builtin [])).lookup (some "AsyncPackage")
        (some .type) = some entry) ∧
      (Scope.through Symbol.shell (.builtin
        (Settings.blockingIn "Microsoft.VisualStudio.Shell.AsyncPackage").symbolEntries)).lookup
          (some "AsyncPackage") (some .type) = none := by
  have hothers : ∀ other ∈ [SymbolEntry.ofSetting "Microsoft.VisualStudio.Shell.AsyncPackage"
      [.blockingWait]], other.kind = .method := by
    simp [SymbolEntry.kind_ofSetting]
  refine ⟨by rfl, ?_, ?_⟩
  . rw [← Option.isSome_iff_exists, SymbolTable.builtin_eq]
    decide +kernel
  . rw [Settings.symbolEntries_blockingIn]
    unfold lookup Scope.through
    dsimp only
    rw [SymbolTable.lookup_eq]
    simp only [SymbolTable.named?_builtin hothers (by decide : SymbolKind.type ≠ .method),
      SymbolTable.find?_suffixes_builtin hothers (by decide : SymbolKind.type ≠ .method),
      SymbolTable.builtin_eq]
    decide +kernel

end ThreadLint
