import ThreadLint.Keyed

/-!
This module contains what stands under the keys of a table when one of them has been set, or when the
entries of another table have been put on top.
-/

namespace ThreadLint.Keyed

variable {α : Type}

theorem lookup_cons (table : Keyed α) (key name : String) (value : α) :
    List.lookup name ((key, value) :: table) =
      if name = key then some value else table.lookup name := by
  rw [List.lookup_cons]
  by_cases h : name = key
  . simp [h]
  . rw [beq_eq_false_iff_ne.mpr h, if_neg h]

theorem mem_of_lookup {table : Keyed α} {key : String} {value : α}
    (h : table.lookup key = some value) : (key, value) ∈ table := by
  induction table with
  | nil => cases h
  | cons entry table ih =>
    rw [lookup_cons] at h
    split at h
    . next heq =>
      cases h
      rw [heq]
      exact List.mem_cons_self
    . exact List.mem_cons_of_mem _ (ih h)

theorem lookup_of_mem {table : Keyed α} (hnodup : (table.map Prod.fst).Nodup)
    {entry : String × α} (h : entry ∈ table) : table.lookup entry.1 = some entry.2 := by
  induction table with
  | nil => cases h
  | cons first table ih =>
    rw [List.map_cons, List.nodup_cons] at hnodup
    rw [lookup_cons]
    cases h with
    | head => exact if_pos rfl
    | tail _ h =>
      rw [if_neg, ih hnodup.2 h]
      rintro heq
      exact hnodup.1 (heq ▸ List.mem_map_of_mem h)

theorem has_eq_isSome_lookup (table : Keyed α) (key : String) :
    table.has key = (table.lookup key).isSome := by
  induction table with
  | nil => rfl
  | cons entry table ih =>
    obtain ⟨other, held⟩ := entry
    rw [lookup_cons, has, List.any_cons, ← has, ih]
    by_cases h : key = other
    . simp [h]
    . simp [h, Ne.symm h]

theorem lookup_map (table : Keyed α) (key name : String) (value : α) :
    (table.map fun entry => if entry.1 == key then (key, value) else entry).lookup name =
      if name = key then (table.lookup key).map fun _ => value else table.lookup name := by
  induction table with
  | nil => simp
  | cons entry table ih =>
    obtain ⟨other, held⟩ := entry
    rw [List.map_cons]
    by_cases hother : other = key
    . simp only [hother, beq_self_eq_true, if_true, lookup_cons, ih]
      split
      . rfl
      . rfl
    . rw [if_neg (by simpa using hother), lookup_cons, lookup_cons, lookup_cons, ih]
      rw [if_neg (Ne.symm hother)]
      by_cases hname : name = key
      . rw [if_pos hname, hname, if_neg (Ne.symm hother)]
        simp
      . rw [if_neg hname, if_neg hname]

theorem lookup_put (table : Keyed α) (key name : String) (value : α) :
    (table.put key value).lookup name = if name = key then some value else table.lookup name := by
  unfold put
  rw [has_eq_isSome_lookup]
  split
  . next h =>
    rw [lookup_map]
    obtain ⟨held, hheld⟩ := Option.isSome_iff_exists.mp h
    rw [hheld, Option.map_some]
  . next h =>
    rw [List.lookup_append, lookup_cons, List.lookup_nil]
    have hnone : table.lookup key = none := Option.not_isSome_iff_eq_none.mp h
    by_cases hname : name = key
    . rw [if_pos hname, if_pos hname, hname, hnone, Option.none_or]
    . rw [if_neg hname, if_neg hname, Option.or_none]

/-! ### Tables on top of others -/

/--
What stands last under a key. In a table whose keys are single it is what stands there.
-/
def last? (table : Keyed α) (key : String) : Option α :=
  (table.filter fun entry => entry.1 == key).getLast?.map Prod.snd

theorem last?_append (table others : Keyed α) (name : String) :
    last? (table ++ others) name = (others.last? name).or (table.last? name) := by
  rw [last?, List.filter_append, List.getLast?_append]
  cases h : (others.filter fun entry => entry.1 == name).getLast? with
  | none => simp [last?, h]
  | some entry => simp [last?, h]

theorem last?_singleton (key name : String) (value : α) :
    last? [(key, value)] name = if name = key then some value else none := by
  by_cases h : name = key
  . simp [last?, h]
  . simp [last?, h, Ne.symm h]

theorem last?_cons (table : Keyed α) (key name : String) (value : α) :
    last? ((key, value) :: table) name =
      (table.last? name).or (if name = key then some value else none) := by
  rw [← List.singleton_append, last?_append, last?_singleton]

theorem filter_map_of_ne (table : Keyed α) {key name : String} (value : α) (h : name ≠ key) :
    ((table.map fun entry => if entry.1 == key then (key, value) else entry).filter
      fun entry => entry.1 == name) = table.filter fun entry => entry.1 == name := by
  induction table with
  | nil => rfl
  | cons entry table ih =>
    rw [List.map_cons, List.filter_cons, List.filter_cons, ih]
    by_cases hkey : entry.1 = key
    . simp [hkey, Ne.symm h]
    . simp [hkey]

/-- What stands under other keys remains when a key is set. -/
theorem filter_put_of_ne (table : Keyed α) {key name : String} (value : α) (h : name ≠ key) :
    ((table.put key value).filter fun entry => entry.1 == name) =
      table.filter fun entry => entry.1 == name := by
  unfold put
  split
  . exact filter_map_of_ne table value h
  . simp [List.filter_append, Ne.symm h]

theorem mem_put_self (table : Keyed α) (key : String) (value : α) :
    (key, value) ∈ table.put key value := by
  unfold put
  split
  . next hhas =>
    obtain ⟨entry, hmem, hentry⟩ := List.any_eq_true.mp hhas
    exact List.mem_map.mpr ⟨entry, hmem, if_pos hentry⟩
  . exact List.mem_append_right _ List.mem_cons_self

/-- Under a key that is set stands nothing but what it is set to. -/
theorem eq_of_mem_put {table : Keyed α} {key : String} {value : α} {entry : String × α}
    (h : entry ∈ table.put key value) (hkey : entry.1 = key) : entry = (key, value) := by
  unfold put at h
  split at h
  . obtain ⟨old, _, rfl⟩ := List.mem_map.mp h
    split
    . rfl
    . next hne =>
      rw [if_neg hne] at hkey
      exact absurd (beq_iff_eq.mpr hkey) hne
  . next hnot =>
    rw [List.mem_append, List.mem_singleton] at h
    cases h with
    | inl hmem =>
      have hhas : table.has key = true :=
        List.any_eq_true.mpr ⟨entry, hmem, beq_iff_eq.mpr hkey⟩
      exact absurd hhas hnot
    | inr heq => exact heq

/-- Setting a key to what is kept of a table sets it in what is kept of the table. -/
theorem last?_filter_put {table : Keyed α} {key : String} {value : α} {keep : String × α → Bool}
    (hkeep : keep (key, value) = true) (name : String) :
    last? ((table.put key value).filter keep) name =
      if name = key then some value else last? (table.filter keep) name := by
  have hcomm (entries : Keyed α) :
      (entries.filter keep).filter (fun entry => entry.1 == name) =
        (entries.filter fun entry => entry.1 == name).filter keep := by
    rw [List.filter_filter, List.filter_filter]
    exact List.filter_congr fun entry _ => Bool.and_comm _ _
  rw [last?, last?, hcomm, hcomm]
  split
  . next hname =>
    subst hname
    have hmem : (name, value) ∈
        ((table.put name value).filter fun entry => entry.1 == name).filter keep := by
      simp [mem_put_self, hkeep]
    obtain ⟨entry, hentry⟩ :=
      Option.isSome_iff_exists.mp (List.getLast?_isSome.mpr (List.ne_nil_of_mem hmem))
    have hlast := List.mem_of_getLast? hentry
    rw [List.mem_filter, List.mem_filter, beq_iff_eq] at hlast
    rw [hentry, eq_of_mem_put hlast.1.1 hlast.1.2]
    rfl
  . next hne => rw [filter_put_of_ne table value hne]

theorem last?_put (table : Keyed α) (key name : String) (value : α) :
    (table.put key value).last? name = if name = key then some value else table.last? name := by
  have h := @last?_filter_put _ table key value (fun _ => true) rfl name
  simpa only [List.filter_eq_self.mpr fun _ _ => rfl] using h

theorem last?_update (table others : Keyed α) (name : String) :
    (table.update others).last? name = (others.last? name).or (table.last? name) := by
  unfold update
  induction others generalizing table with
  | nil => rfl
  | cons entry others ih =>
    obtain ⟨key, value⟩ := entry
    rw [List.foldl_cons, ih, last?_put, last?_cons, Option.or_assoc]
    split
    . rfl
    . rfl

theorem lookup_update (table others : Keyed α) (name : String) :
    (table.update others).lookup name = (others.last? name).or (table.lookup name) := by
  unfold update
  induction others generalizing table with
  | nil => rfl
  | cons entry others ih =>
    obtain ⟨key, value⟩ := entry
    rw [List.foldl_cons, ih, lookup_put, last?_cons, Option.or_assoc]
    split
    . rfl
    . rfl

theorem last?_erase_of_ne (table : Keyed α) {key name : String} (h : name ≠ key) :
    (table.erase key).last? name = table.last? name := by
  have hfilter : ((table.erase key).filter fun entry => entry.1 == name) =
      table.filter fun entry => entry.1 == name := by
    rw [erase, List.filter_filter]
    apply List.filter_congr
    intro entry _
    by_cases hname : entry.1 = name
    . simp [hname, h]
    . simp [hname]
  rw [last?, last?, hfilter]

end ThreadLint.Keyed
