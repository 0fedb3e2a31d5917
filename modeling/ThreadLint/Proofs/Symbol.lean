import Mathlib.Data.List.Sort
import Mathlib.Data.String.Basic
import ThreadLint.Binding

/-!
This module contains which entries of the table of built-in symbols a name can lead to, and the order
in which the table has those that match as suffixes.
-/

namespace ThreadLint

namespace SymbolTable

theorem mem_of_mem_foldl_insertExact {entries found : List SymbolEntry} {entry : SymbolEntry}
    (h : entry ∈ entries.foldl insertExact found) : entry ∈ found ∨ entry ∈ entries := by
  induction entries generalizing found with
  | nil => exact .inl h
  | cons first rest ih =>
    rw [List.foldl_cons] at h
    cases ih h with
    | inl hmem =>
      unfold insertExact at hmem
      split at hmem
      . rw [List.mem_map] at hmem
        obtain ⟨other, hother, heq⟩ := hmem
        split at heq
        . exact .inr (List.mem_cons.2 (.inl heq.symm))
        . exact .inl (heq ▸ hother)
      . rw [List.mem_append, List.mem_singleton] at hmem
        cases hmem with
        | inl hmem => exact .inl hmem
        | inr heq => exact .inr (List.mem_cons.2 (.inl heq))
    | inr hmem => exact .inr (List.mem_cons_of_mem _ hmem)

/-- The table holds nothing but the entries that it is made of. -/
theorem mem_of_mem_ofEntries {entries : List SymbolEntry} {entry : SymbolEntry}
    (h : entry ∈ (ofEntries entries).exact ∨ entry ∈ (ofEntries entries).suffixes) :
    entry ∈ entries := by
  cases h with
  | inl h =>
    have hmem := (mem_of_mem_foldl_insertExact h).resolve_left List.not_mem_nil
    exact (List.mem_filter.1 hmem).1
  | inr h => exact (List.mem_filter.1 (List.mem_mergeSort.1 h)).1

theorem named?_eq_some {table : SymbolTable} {name : String} {kind : Option SymbolKind}
    {entry : SymbolEntry} (h : table.named? name kind = some entry) :
    entry ∈ table.exact ∧ entry.name = name ∧ entry.isOfKind kind = true := by
  unfold named? at h
  rw [Option.filter_eq_some_iff] at h
  have hname := List.find?_some h.1
  rw [beq_iff_eq] at hname
  exact ⟨List.mem_of_find?_eq_some h.1, hname, h.2⟩

/-- What a name leads to is an entry whose name ends the name or ends in it. -/
theorem lookup_eq_some {table : SymbolTable} {name : String} {kind : Option SymbolKind}
    {namespaces : List String} {entry : SymbolEntry}
    (h : table.lookup name kind namespaces = some entry) :
    entry.isOfKind kind = true ∧
      ((entry ∈ table.exact ∧ ∃ front, entry.name = front ++ Symbol.normalize name) ∨
        (entry ∈ table.suffixes ∧ entry.matchesSuffix (Symbol.normalize name) = true)) := by
  unfold lookup at h
  dsimp only at h
  split at h
  . cases h
  . rw [Option.or_eq_some_iff, Option.or_eq_some_iff] at h
    rcases h with h | ⟨_, h | ⟨_, h⟩⟩
    . obtain ⟨hmem, hname, hkind⟩ := named?_eq_some h
      exact ⟨hkind, .inl ⟨hmem, "", by rw [hname, String.empty_append]⟩⟩
    . obtain ⟨space, _, h⟩ := List.exists_of_findSome?_eq_some h
      obtain ⟨hmem, hname, hkind⟩ := named?_eq_some h
      exact ⟨hkind, .inl ⟨hmem, _, hname⟩⟩
    . have hfound := List.find?_some h
      rw [Bool.and_eq_true] at hfound
      exact ⟨hfound.1, .inr ⟨List.mem_of_find?_eq_some h, hfound.2⟩⟩

theorem mem_of_lookup {entries : List SymbolEntry} {name : String} {kind : Option SymbolKind}
    {namespaces : List String} {entry : SymbolEntry}
    (h : (ofEntries entries).lookup name kind namespaces = some entry) : entry ∈ entries := by
  apply mem_of_mem_ofEntries
  cases (lookup_eq_some h).2 with
  | inl h => exact .inl h.1
  | inr h => exact .inr h.1

/-! ### The order of suffixes -/

theorem precedes_iff {entry other : SymbolEntry} :
    precedes entry other = true ↔
      dots other.name < dots entry.name ∨ dots entry.name = dots other.name ∧
        (other.name.length < entry.name.length ∨
          entry.name.length = other.name.length ∧ entry.name ≤ other.name) := by
  unfold precedes
  split
  . next hdots =>
    rw [decide_eq_true_eq]
    simp [hdots]
  . next hdots =>
    rw [ne_eq, Decidable.not_not] at hdots
    split
    . next hlength =>
      rw [decide_eq_true_eq]
      simp [hdots, hlength]
    . next hlength =>
      rw [ne_eq, Decidable.not_not] at hlength
      rw [decide_eq_true_eq]
      simp [hdots, hlength]

theorem precedes_trans (first second third : SymbolEntry) (h : precedes first second = true)
    (h' : precedes second third = true) : precedes first third = true := by
  rw [precedes_iff] at *
  rcases h with h | ⟨hdots, h⟩
  . left
    omega
  rcases h' with h' | ⟨hdots', h'⟩
  . left
    omega
  refine .inr ⟨hdots.trans hdots', ?_⟩
  rcases h with h | ⟨hlength, h⟩
  . left
    omega
  rcases h' with h' | ⟨hlength', h'⟩
  . left
    omega
  exact .inr ⟨hlength.trans hlength', String.le_trans h h'⟩

theorem precedes_total (entry other : SymbolEntry) :
    (precedes entry other || precedes other entry) = true := by
  rw [Bool.or_eq_true, precedes_iff, precedes_iff]
  rcases Nat.lt_trichotomy (dots other.name) (dots entry.name) with h | hdots | h
  . exact .inl (.inl h)
  . rcases Nat.lt_trichotomy other.name.length entry.name.length with h | hlength | h
    . exact .inl (.inr ⟨hdots.symm, .inl h⟩)
    . cases String.le_total entry.name other.name with
      | inl h => exact .inl (.inr ⟨hdots.symm, .inr ⟨hlength.symm, h⟩⟩)
      | inr h => exact .inr (.inr ⟨hdots, .inr ⟨hlength, h⟩⟩)
    . exact .inr (.inr ⟨hdots, .inl h⟩)
  . exact .inr (.inl h)

theorem name_eq_of_precedes {entry other : SymbolEntry} (h : precedes entry other = true)
    (h' : precedes other entry = true) : entry.name = other.name := by
  rw [precedes_iff] at *
  have h := (h.resolve_left (by omega)).2
  have h' := (h'.resolve_left (by omega)).2
  exact String.le_antisymm (h.resolve_left (by omega)).2 (h'.resolve_left (by omega)).2

/-- The suffixes are in order, which leaves no choice if no two of them share their name. -/
theorem suffixes_ofEntries {entries sorted : List SymbolEntry}
    (hperm : sorted.Perm (entries.filter (·.isSuffix)))
    (hsorted : sorted.Pairwise fun entry other => precedes entry other = true)
    (hapart : ∀ entry ∈ sorted, ∀ other ∈ sorted, entry.name = other.name → entry = other) :
    (ofEntries entries).suffixes = sorted := by
  have hmerged := (List.mergeSort_perm (entries.filter (·.isSuffix)) precedes).trans hperm.symm
  apply List.Perm.eq_of_pairwise _ (List.pairwise_mergeSort precedes_trans precedes_total _) hsorted
    hmerged
  intro entry other hentry hother h h'
  exact hapart entry (hmerged.mem_iff.1 hentry) other hother (name_eq_of_precedes h h')

theorem builtin_eq :
    builtin [] = ⟨(Symbol.builtin.filter fun entry => !entry.isSuffix).foldl insertExact [],
      (Symbol.builtin.filter (·.isSuffix)).insertionSort fun entry other =>
        precedes entry other = true⟩ := by
  unfold builtin
  rw [List.append_nil]
  have hsuffixes : (ofEntries Symbol.builtin).suffixes
      = (Symbol.builtin.filter (·.isSuffix)).insertionSort fun entry other =>
        precedes entry other = true := by
    apply suffixes_ofEntries (List.perm_insertionSort _ _)
    . decide +kernel
    . decide +kernel
  rw [← hsuffixes]
  rfl

end SymbolTable

theorem Scope.lookup_eq_some {scope : Scope} {name : Option String} {kind : Option SymbolKind}
    {entry : SymbolEntry} (h : scope.lookup name kind = some entry) :
    ∃ written, name = some written ∧ scope.table.lookup
      (scope.expandAlias (Symbol.normalize written)) kind scope.namespaces = some entry := by
  unfold lookup at h
  split at h
  . cases h
  . next written =>
    split at h
    . cases h
    . exact ⟨written, rfl, h⟩

end ThreadLint
