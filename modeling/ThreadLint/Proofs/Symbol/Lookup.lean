import ThreadLint.Proofs.Symbol.Extension

/-!
This module contains which entry a name leads to, said of the entries alone: the one that it names as a
whole, by itself or inside a namespace, and otherwise the longest one that it ends in. The order of the
entries has no say in it, as long as no two of them share their name.
-/

namespace ThreadLint

/-! ### Answers -/

namespace SymbolEntry

/--
Whether a whole name stands for an entry of a kind.
-/
structure IsNamed (entry : SymbolEntry) (name : String) (kind : Option SymbolKind) : Prop where
  isWhole : entry.isSuffix = false
  name_eq : entry.name = name
  isOfKind : entry.isOfKind kind = true

/--
Whether a name ends in an entry of a kind that stands for all such names: it is the name of the entry,
or that follows a dot at its end.
-/
structure IsEnding (entry : SymbolEntry) (name : String) (kind : Option SymbolKind) : Prop where
  isSuffix : entry.isSuffix = true
  ends : name = entry.name ∨ ∃ front, name = front ++ "." ++ entry.name
  isOfKind : entry.isOfKind kind = true

end SymbolEntry

/--
What a name leads to among some entries, seen from some namespaces: an entry of the kind with that whole
name, else one whose whole name it is inside the first namespace in which there is one, else the longest
one that it ends in, else nothing.
-/
inductive SymbolTable.Answers (entries : List SymbolEntry) (namespaces : List String) (name : String)
    (kind : Option SymbolKind) : Option SymbolEntry → Prop where
  | whole {entry : SymbolEntry} (hmem : entry ∈ entries) (hnamed : entry.IsNamed name kind) :
    Answers entries namespaces name kind (some entry)
  | inside {entry : SymbolEntry} {front back : List String} {space : String}
    (hwhole : ∀ other ∈ entries, ¬other.IsNamed name kind)
    (hspaces : namespaces = front ++ space :: back)
    (hfront : ∀ earlier ∈ front, ∀ other ∈ entries, ¬other.IsNamed (earlier ++ "." ++ name) kind)
    (hmem : entry ∈ entries) (hnamed : entry.IsNamed (space ++ "." ++ name) kind) :
    Answers entries namespaces name kind (some entry)
  | ending {entry : SymbolEntry} (hwhole : ∀ other ∈ entries, ¬other.IsNamed name kind)
    (hinside : ∀ space ∈ namespaces, ∀ other ∈ entries, ¬other.IsNamed (space ++ "." ++ name) kind)
    (hmem : entry ∈ entries) (hending : entry.IsEnding name kind)
    (hlongest : ∀ other ∈ entries, other.IsEnding name kind →
      other.name.length ≤ entry.name.length) :
    Answers entries namespaces name kind (some entry)
  | nothing (hwhole : ∀ other ∈ entries, ¬other.IsNamed name kind)
    (hinside : ∀ space ∈ namespaces, ∀ other ∈ entries, ¬other.IsNamed (space ++ "." ++ name) kind)
    (hending : ∀ other ∈ entries, ¬other.IsEnding name kind) :
    Answers entries namespaces name kind none

/-! ### Whole names -/

namespace SymbolTable

instance (entry : SymbolEntry) (name : String) (kind : Option SymbolKind) :
    Decidable (entry.IsNamed name kind) :=
  decidable_of_iff (entry.isSuffix = false ∧ entry.name = name ∧ entry.isOfKind kind = true)
    ⟨fun ⟨hwhole, hname, hkind⟩ => ⟨hwhole, hname, hkind⟩,
      fun ⟨hwhole, hname, hkind⟩ => ⟨hwhole, hname, hkind⟩⟩

variable {entries : List SymbolEntry} {kind : Option SymbolKind} {name : String}

theorem find?_exact_eq_some_iff (hdistinct : (entries.map SymbolEntry.name).Nodup)
    {entry : SymbolEntry} :
    (ofEntries entries).exact.find? (·.name == name) = some entry ↔
      entry ∈ entries ∧ entry.isSuffix = false ∧ entry.name = name := by
  unfold ofEntries
  dsimp only
  rw [find?_foldl_insertExact, List.find?_nil, Option.or_none]
  constructor
  . intro h
    have hmem := List.mem_filter.1 (List.mem_reverse.1 (List.mem_of_find?_eq_some h))
    exact ⟨hmem.1, by simpa using hmem.2, name_of_find? h⟩
  . rintro ⟨hmem, hwhole, rfl⟩
    cases hfind : (entries.filter fun entry => !entry.isSuffix).reverse.find?
        (·.name == entry.name) with
    | none =>
      rw [List.find?_eq_none] at hfind
      have := hfind entry (List.mem_reverse.2 (List.mem_filter.2 ⟨hmem, by simp [hwhole]⟩))
      simp at this
    | some found =>
      have hfound := List.mem_filter.1 (List.mem_reverse.1 (List.mem_of_find?_eq_some hfind))
      rw [List.inj_on_of_nodup_map hdistinct hfound.1 hmem (name_of_find? hfind)]

theorem named?_eq_some_iff (hdistinct : (entries.map SymbolEntry.name).Nodup) {entry : SymbolEntry} :
    (ofEntries entries).named? name kind = some entry ↔
      entry ∈ entries ∧ entry.IsNamed name kind := by
  unfold named?
  rw [Option.filter_eq_some_iff, find?_exact_eq_some_iff hdistinct]
  constructor
  . rintro ⟨⟨hmem, hwhole, hname⟩, hkind⟩
    exact ⟨hmem, hwhole, hname, hkind⟩
  . rintro ⟨hmem, hwhole, hname, hkind⟩
    exact ⟨⟨hmem, hwhole, hname⟩, hkind⟩

theorem named?_eq_none_iff (hdistinct : (entries.map SymbolEntry.name).Nodup) :
    (ofEntries entries).named? name kind = none ↔ ∀ other ∈ entries, ¬other.IsNamed name kind := by
  rw [Option.eq_none_iff_forall_ne_some]
  simp only [ne_eq, named?_eq_some_iff hdistinct, not_and]

/-! ### Endings -/

theorem endsWith_iff_exists {text ending : String} :
    Text.endsWith text ("." ++ ending) = true ↔ ∃ front, text = front ++ "." ++ ending := by
  unfold Text.endsWith
  rw [List.isSuffixOf_iff_suffix]
  constructor
  . rintro ⟨front, hfront⟩
    refine ⟨String.ofList front, String.toList_injective ?_⟩
    rw [← hfront]
    simp
  . rintro ⟨front, rfl⟩
    exact ⟨front.toList, by simp⟩

theorem isEnding_iff {entry : SymbolEntry} :
    entry.IsEnding name kind ↔
      entry.isSuffix = true ∧ (entry.isOfKind kind && entry.matchesSuffix name) = true := by
  unfold SymbolEntry.matchesSuffix
  rw [Bool.and_eq_true, Bool.or_eq_true, beq_iff_eq, endsWith_iff_exists]
  constructor
  . rintro ⟨hsuffix, hends, hkind⟩
    exact ⟨hsuffix, hkind, hends⟩
  . rintro ⟨hsuffix, hkind, hends⟩
    exact ⟨hsuffix, hends, hkind⟩

instance (entry : SymbolEntry) (name : String) (kind : Option SymbolKind) :
    Decidable (entry.IsEnding name kind) :=
  decidable_of_iff _ isEnding_iff.symm

theorem suffix_of_isEnding {entry : SymbolEntry} (h : entry.IsEnding name kind) :
    entry.name.toList <:+ name.toList := by
  obtain hname | ⟨front, hname⟩ := h.ends
  . exact hname ▸ List.suffix_rfl
  . rw [hname, String.toList_append]
    exact List.suffix_append _ _

/-- Of two entries that a name ends in, the shorter one has no more dots. -/
theorem length_le_of_precedes {entry other : SymbolEntry} (h : entry.IsEnding name kind)
    (hother : other.IsEnding name kind) (hprecedes : precedes entry other = true) :
    other.name.length ≤ entry.name.length := by
  rw [precedes_iff] at hprecedes
  rcases hprecedes with hdots | ⟨_, hlength | ⟨hlength, _⟩⟩
  . by_contra hlt
    have hshort : entry.name.toList.length ≤ other.name.toList.length := by
      rw [String.length_toList, String.length_toList]
      omega
    have hsuffix := List.suffix_of_suffix_length_le (suffix_of_isEnding h)
      (suffix_of_isEnding hother) hshort
    have : dots entry.name ≤ dots other.name := hsuffix.sublist.count_le '.'
    omega
  . omega
  . omega

theorem name_eq_of_isEnding {entry other : SymbolEntry} (h : entry.IsEnding name kind)
    (hother : other.IsEnding name kind) (hlength : entry.name.length = other.name.length) :
    entry.name = other.name := by
  have hsuffix := List.suffix_of_suffix_length_le (suffix_of_isEnding h) (suffix_of_isEnding hother)
    (by rw [String.length_toList, String.length_toList, hlength])
  exact String.toList_injective (hsuffix.eq_of_length
    (by rw [String.length_toList, String.length_toList, hlength]))

/-- The first suffix that fits a name is the longest one. -/
theorem find?_suffixes_eq_some_iff (hdistinct : (entries.map SymbolEntry.name).Nodup)
    {entry : SymbolEntry} :
    ((ofEntries entries).suffixes.find? fun entry =>
        entry.isOfKind kind && entry.matchesSuffix name) = some entry ↔
      entry ∈ entries ∧ entry.IsEnding name kind ∧
        ∀ other ∈ entries, other.IsEnding name kind → other.name.length ≤ entry.name.length := by
  have hmem {other : SymbolEntry} :
      other ∈ (ofEntries entries).suffixes ↔ other ∈ entries ∧ other.isSuffix = true := by
    unfold ofEntries
    rw [List.mem_mergeSort, List.mem_filter]
  have hfound {found : SymbolEntry} (h : ((ofEntries entries).suffixes.find? fun entry =>
        entry.isOfKind kind && entry.matchesSuffix name) = some found) :
      found ∈ entries ∧ found.IsEnding name kind ∧
        ∀ other ∈ entries, other.IsEnding name kind → other.name.length ≤ found.name.length := by
    obtain ⟨hfits, front, back, hsplit, hfront⟩ := List.find?_eq_some_iff_append.1 h
    have hin := hmem.1 (List.mem_of_find?_eq_some h)
    have hending := isEnding_iff.2 ⟨hin.2, hfits⟩
    refine ⟨hin.1, hending, ?_⟩
    intro other hother hends
    -- What fits and is not in front of the entry found comes behind it in the order.
    have hsorted : (ofEntries entries).suffixes.Pairwise fun entry other =>
        precedes entry other = true := List.pairwise_mergeSort precedes_trans precedes_total _
    have hplace := hmem.2 ⟨hother, hends.isSuffix⟩
    rw [hsplit, List.pairwise_append, List.pairwise_cons] at hsorted
    rw [hsplit, List.mem_append, List.mem_cons] at hplace
    rcases hplace with hplace | rfl | hplace
    . have := hfront other hplace
      rw [(isEnding_iff.1 hends).2] at this
      cases this
    . exact Nat.le_refl _
    . exact length_le_of_precedes hending hends (hsorted.2.1.1 other hplace)
  constructor
  . exact hfound
  . rintro ⟨hentry, hending, hlongest⟩
    cases hfind : (ofEntries entries).suffixes.find? fun entry =>
        entry.isOfKind kind && entry.matchesSuffix name with
    | none =>
      rw [List.find?_eq_none] at hfind
      have hfits := isEnding_iff.1 hending
      exact absurd hfits.2 (hfind entry (hmem.2 ⟨hentry, hfits.1⟩))
    | some found =>
      obtain ⟨hin, hends, hmost⟩ := hfound hfind
      have hlength := Nat.le_antisymm (hlongest found hin hends) (hmost entry hentry hending)
      rw [List.inj_on_of_nodup_map hdistinct hin hentry (name_eq_of_isEnding hends hending hlength)]

theorem find?_suffixes_eq_none_iff :
    ((ofEntries entries).suffixes.find? fun entry =>
        entry.isOfKind kind && entry.matchesSuffix name) = none ↔
      ∀ other ∈ entries, ¬other.IsEnding name kind := by
  rw [List.find?_eq_none]
  constructor
  . intro h other hother hending
    have hfits := isEnding_iff.1 hending
    refine h other ?_ hfits.2
    exact List.mem_mergeSort.2 (List.mem_filter.2 ⟨hother, hfits.1⟩)
  . intro h other hother hfits
    have hmem := List.mem_filter.1 (List.mem_mergeSort.1 hother)
    exact h other hmem.1 (isEnding_iff.2 ⟨hmem.2, hfits⟩)

/-! ### Lookups -/

variable {namespaces : List String} {answer : Option SymbolEntry}

/-- What a lookup gives is an answer. -/
theorem answers_lookup (hdistinct : (entries.map SymbolEntry.name).Nodup)
    (hname : Symbol.normalize name ≠ "") :
    Answers entries namespaces (Symbol.normalize name) kind
      ((ofEntries entries).lookup name kind namespaces) := by
  unfold lookup
  dsimp only
  rw [if_neg (by simpa using hname)]
  cases hwhole : (ofEntries entries).named? (Symbol.normalize name) kind with
  | some entry =>
    obtain ⟨hmem, hnamed⟩ := (named?_eq_some_iff hdistinct).1 hwhole
    exact .whole hmem hnamed
  | none =>
    rw [Option.none_or]
    rw [named?_eq_none_iff hdistinct] at hwhole
    cases hinside : namespaces.findSome? fun space =>
        (ofEntries entries).named? (space ++ "." ++ Symbol.normalize name) kind with
    | some entry =>
      obtain ⟨front, space, back, hspaces, hfound, hfront⟩ := List.findSome?_eq_some_iff.1 hinside
      obtain ⟨hmem, hnamed⟩ := (named?_eq_some_iff hdistinct).1 hfound
      refine .inside hwhole hspaces ?_ hmem hnamed
      intro earlier hearlier
      exact (named?_eq_none_iff hdistinct).1 (hfront earlier hearlier)
    | none =>
      rw [Option.none_or]
      rw [List.findSome?_eq_none_iff] at hinside
      have hinside : ∀ space ∈ namespaces, ∀ other ∈ entries,
          ¬other.IsNamed (space ++ "." ++ Symbol.normalize name) kind :=
        fun space hspace => (named?_eq_none_iff hdistinct).1 (hinside space hspace)
      cases hending : (ofEntries entries).suffixes.find? fun entry =>
          entry.isOfKind kind && entry.matchesSuffix (Symbol.normalize name) with
      | some entry =>
        obtain ⟨hmem, hends, hlongest⟩ := (find?_suffixes_eq_some_iff hdistinct).1 hending
        exact .ending hwhole hinside hmem hends hlongest
      | none => exact .nothing hwhole hinside (find?_suffixes_eq_none_iff.1 hending)

/-- An answer is what a lookup gives. -/
theorem lookup_of_answers (hdistinct : (entries.map SymbolEntry.name).Nodup)
    (hname : Symbol.normalize name ≠ "")
    (h : Answers entries namespaces (Symbol.normalize name) kind answer) :
    (ofEntries entries).lookup name kind namespaces = answer := by
  have hnone {spaces : List String}
      (h : ∀ space ∈ spaces, ∀ other ∈ entries,
        ¬other.IsNamed (space ++ "." ++ Symbol.normalize name) kind) :
      ∀ space ∈ spaces,
        (ofEntries entries).named? (space ++ "." ++ Symbol.normalize name) kind = none :=
    fun space hspace => (named?_eq_none_iff hdistinct).2 (h space hspace)
  unfold lookup
  dsimp only
  rw [if_neg (by simpa using hname)]
  cases h with
  | whole hmem hnamed =>
    rw [(named?_eq_some_iff hdistinct).2 ⟨hmem, hnamed⟩, Option.some_or]
  | inside hwhole hspaces hfront hmem hnamed =>
    rw [(named?_eq_none_iff hdistinct).2 hwhole, Option.none_or, List.findSome?_eq_some_iff.2
      ⟨_, _, _, hspaces, (named?_eq_some_iff hdistinct).2 ⟨hmem, hnamed⟩, hnone hfront⟩, Option.some_or]
  | ending hwhole hinside hmem hending hlongest =>
    rw [(named?_eq_none_iff hdistinct).2 hwhole, Option.none_or,
      List.findSome?_eq_none_iff.2 (hnone hinside), Option.none_or]
    exact (find?_suffixes_eq_some_iff hdistinct).2 ⟨hmem, hending, hlongest⟩
  | nothing hwhole hinside hending =>
    rw [(named?_eq_none_iff hdistinct).2 hwhole, Option.none_or,
      List.findSome?_eq_none_iff.2 (hnone hinside), Option.none_or]
    exact find?_suffixes_eq_none_iff.2 hending

/-- Which answers a name has does not depend on the order of the entries. -/
theorem Answers.perm {others : List SymbolEntry} (hperm : entries.Perm others)
    (h : Answers entries namespaces name kind answer) :
    Answers others namespaces name kind answer := by
  have hnone {P : SymbolEntry → Prop} (h : ∀ other ∈ entries, P other) :
      ∀ other ∈ others, P other := fun other hother => h other (hperm.mem_iff.2 hother)
  cases h with
  | whole hmem hnamed => exact .whole (hperm.mem_iff.1 hmem) hnamed
  | inside hwhole hspaces hfront hmem hnamed =>
    exact .inside (hnone hwhole) hspaces (fun space hspace => hnone (hfront space hspace))
      (hperm.mem_iff.1 hmem) hnamed
  | ending hwhole hinside hmem hending hlongest =>
    exact .ending (hnone hwhole) (fun space hspace => hnone (hinside space hspace))
      (hperm.mem_iff.1 hmem) hending (hnone hlongest)
  | nothing hwhole hinside hending =>
    exact .nothing (hnone hwhole) (fun space hspace => hnone (hinside space hspace)) (hnone hending)

/--
If no two entries share their name, a lookup of a name gives its one answer, in whatever order the
entries come.
-/
theorem lookup_eq_iff_answers (hdistinct : (entries.map SymbolEntry.name).Nodup)
    (hname : Symbol.normalize name ≠ "") :
    ((ofEntries entries).lookup name kind namespaces = answer ↔
        Answers entries namespaces (Symbol.normalize name) kind answer) ∧
      ∀ others, entries.Perm others →
        (ofEntries others).lookup name kind namespaces
          = (ofEntries entries).lookup name kind namespaces := by
  have hlookup : Answers entries namespaces (Symbol.normalize name) kind
      ((ofEntries entries).lookup name kind namespaces) := answers_lookup hdistinct hname
  constructor
  . constructor
    . rintro rfl
      exact hlookup
    . exact lookup_of_answers hdistinct hname
  . intro others hperm
    have hothers : (others.map SymbolEntry.name).Nodup := (hperm.map _).nodup_iff.1 hdistinct
    exact lookup_of_answers hothers hname (hlookup.perm hperm)

/-- A type with the whole name is of the wrong kind, and of two methods the longer one answers. -/
theorem lookup_eq_iff_answers_ending :
    let wait : SymbolEntry := { name := "Wait", kind := .method, isSuffix := true }
    let taskWait : SymbolEntry := { name := "Task.Wait", kind := .method, isSuffix := true }
    let type : SymbolEntry := { name := "Shell.job.Task.Wait", kind := .type }
    ([wait, type, taskWait].map SymbolEntry.name).Nodup ∧
      Symbol.normalize "job.Task<int>.Wait" = "job.Task.Wait" ∧
      Answers [wait, type, taskWait] ["Shell"] "job.Task.Wait" (some .method) (some taskWait) ∧
      (ofEntries [taskWait, type, wait]).lookup "job.Task<int>.Wait" (some .method) ["Shell"]
        = some taskWait := by
  intro wait taskWait type
  have hdistinct : ([wait, type, taskWait].map SymbolEntry.name).Nodup := by decide
  have hname : Symbol.normalize "job.Task<int>.Wait" = "job.Task.Wait" := by decide +kernel
  have hanswer : Answers [wait, type, taskWait] ["Shell"] "job.Task.Wait" (some .method)
      (some taskWait) := by
    apply Answers.ending
    . decide
    . decide
    . decide
    . decide
    . decide
  have hperm : [wait, type, taskWait].Perm [taskWait, type, wait] :=
    List.reverse_perm [taskWait, type, wait]
  obtain ⟨hiff, horder⟩ := lookup_eq_iff_answers hdistinct (by rw [hname]; decide)
  refine ⟨hdistinct, hname, hanswer, (horder _ hperm).trans (hiff.2 ?_)⟩
  rw [hname]
  exact hanswer

end SymbolTable

end ThreadLint
