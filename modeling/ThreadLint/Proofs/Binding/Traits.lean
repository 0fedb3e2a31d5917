import Mathlib.Data.List.Nodup
import ThreadLint.Binding

/-!
This module contains which tags and capabilities a type of a file has by itself, and what one step of
inheritance adds to them. Tags and capabilities go the same way, so both are traits here.
-/

namespace ThreadLint

/-! ### Tags and capabilities alike -/

/--
A tag or a capability.
-/
inductive Trait where
  | tag (tag : SymbolTag)
  | capability (capability : Capability)
  deriving DecidableEq

namespace Trait

/--
All tags and capabilities.
-/
def all : List Trait :=
  SymbolTag.all.map tag ++ [capability .backgroundLoad, capability .asyncInit]

theorem mem_all (trait : Trait) : trait ∈ all := by
  cases trait with
  | tag tag => cases tag <;> decide
  | capability capability => cases capability <;> decide

/--
Whether a trait is handed down. Exports are not.
-/
def IsInherited (trait : Trait) : Prop :=
  trait ≠ .tag .mefExport

end Trait

namespace Traits

/--
Whether a trait is among some others.
-/
def has (traits : Traits) : Trait → Bool
  | .tag tag => traits.tags.contains tag
  | .capability capability => traits.capabilities.contains capability

theorem contains_joined {α : Type} [BEq α] [LawfulBEq α] (first second : List α) (item : α) :
    (joined first second).contains item = (first.contains item || second.contains item) := by
  rw [Bool.eq_iff_iff, Bool.or_eq_true, List.contains_iff_mem, List.contains_iff_mem,
    List.contains_iff_mem]
  unfold joined
  rw [List.mem_append, List.mem_filter]
  by_cases hfirst : item ∈ first <;> simp [hfirst]

example : joined ["a", "b"] ["b", "c"] = ["a", "b", "c"] := by
  decide +kernel

variable (first second traits : Traits) (trait : Trait)

@[simp]
theorem has_none : none.has trait = false := by
  cases trait <;> rfl

@[simp]
theorem has_union : (first.union second).has trait = (first.has trait || second.has trait) := by
  cases trait with
  | tag tag => exact contains_joined ..
  | capability capability => exact contains_joined ..

@[simp]
theorem union_none : traits.union none = traits := by
  simp [union, none, joined]

theorem inheritable_none : none.inheritable = none :=
  rfl

theorem has_inheritable :
    traits.inheritable.has trait = true ↔ trait.IsInherited ∧ traits.has trait = true := by
  unfold Trait.IsInherited
  cases trait with
  | tag tag => simp [has, inheritable, and_comm]
  | capability capability => simp [has, inheritable]

theorem includes_iff {outer inner : Traits} :
    outer.includes inner = true ↔ ∀ trait, inner.has trait = true → outer.has trait = true := by
  unfold includes
  rw [Bool.and_eq_true, List.all_eq_true, List.all_eq_true]
  constructor
  . rintro ⟨htags, hcapabilities⟩ (tag | capability) h
    . exact htags tag (List.contains_iff_mem.1 h)
    . exact hcapabilities capability (List.contains_iff_mem.1 h)
  . intro h
    constructor
    . intro tag hmem
      exact h (.tag tag) (List.contains_iff_mem.2 hmem)
    . intro capability hmem
      exact h (.capability capability) (List.contains_iff_mem.2 hmem)

/-! ### What a type has by itself -/

/--
Whether a type declaration has a tag by itself: from a known base or from a known attribute.
-/
def OwnsTag (scope : Scope) (declaration : Node × TypeHead) (tag : SymbolTag) : Prop :=
  (∃ base ∈ declaration.2.bases, ∃ entry,
    scope.lookup (some base.1) (some .type) = some entry ∧ tag ∈ entry.tags) ∨
  ∃ child ∈ declaration.1.children, ∃ name stop close entry,
    child.form = .attributeUse name stop close ∧
      scope.lookupAttribute name = some entry ∧ tag ∈ entry.tags

/--
Whether a type declaration has a capability by itself: from a known base.
-/
def OwnsCapability (scope : Scope) (declaration : Node × TypeHead) (capability : Capability) : Prop :=
  ∃ base ∈ declaration.2.bases, ∃ entry,
    scope.lookup (some base.1) (some .type) = some entry ∧ capability ∈ entry.capabilities

/--
Whether a type declaration has a trait by itself.
-/
def Owns (scope : Scope) (declaration : Node × TypeHead) : Trait → Prop
  | .tag tag => OwnsTag scope declaration tag
  | .capability capability => OwnsCapability scope declaration capability

variable {traits trait}

theorem has_foldl_union {α : Type} (items : List α) (view : α → Traits) :
    (items.foldl (fun traits item => traits.union (view item)) traits).has trait = true ↔
      traits.has trait = true ∨ ∃ item ∈ items, (view item).has trait = true := by
  induction items generalizing traits with
  | nil => simp
  | cons item rest ih =>
    rw [List.foldl_cons, ih, has_union, Bool.or_eq_true, or_assoc]
    simp

theorem has_ofEntry {entry : Option SymbolEntry} :
    (ofEntry entry).has trait = true ↔
      ∃ found, entry = some found ∧ (Traits.mk found.tags found.capabilities).has trait = true := by
  cases entry with
  | none => simp [ofEntry]
  | some entry => simp [ofEntry]

theorem mem_attributeTags {scope : Scope} {node : Node} {tag : SymbolTag} :
    tag ∈ attributeTags scope node ↔ ∃ name stop close entry,
      node.form = .attributeUse name stop close ∧
        scope.lookupAttribute name = some entry ∧ tag ∈ entry.tags := by
  unfold attributeTags
  split
  . next name stop close hform =>
    rw [hform]
    split
    . next entry hentry => simp [hentry]
    . next hnone => simp [hnone]
  . next hother =>
    simp only [List.not_mem_nil, false_iff]
    rintro ⟨name, stop, close, _, hform, _⟩
    exact hother _ _ _ hform

theorem exists_mem_bases {scope : Scope} {head : TypeHead} {view : SymbolEntry → Prop} :
    (∃ base ∈ bases scope head, ∃ entry, base = some entry ∧ view entry) ↔
      ∃ base ∈ head.bases, ∃ entry,
        scope.lookup (some base.1) (some .type) = some entry ∧ view entry := by
  unfold bases
  constructor
  . rintro ⟨_, hbase, entry, rfl, hview⟩
    obtain ⟨base, hmem, hlookup⟩ := List.mem_map.1 hbase
    exact ⟨base, hmem, entry, hlookup, hview⟩
  . rintro ⟨base, hmem, entry, hlookup, hview⟩
    exact ⟨_, List.mem_map_of_mem hmem, entry, hlookup, hview⟩

/-- What a type starts with is what it has by itself. -/
theorem has_direct {scope : Scope} {declaration : Node × TypeHead} :
    (direct scope declaration.1 declaration.2).has trait = true ↔ Owns scope declaration trait := by
  unfold direct
  rw [has_foldl_union, has_foldl_union, has_none]
  simp only [has_ofEntry, Bool.false_eq_true, false_or, exists_mem_bases]
  cases trait with
  | tag tag =>
    simp only [has, List.contains_iff_mem, mem_attributeTags, Owns, OwnsTag, Node.childrenOf,
      List.mem_filter, Node.kind, beq_iff_eq]
    apply or_congr_right
    apply exists_congr
    intro child
    constructor
    . rintro ⟨⟨hmem, _⟩, h⟩
      exact ⟨hmem, h⟩
    . rintro ⟨hmem, name, stop, close, entry, hform, h⟩
      exact ⟨⟨hmem, by rw [hform]; rfl⟩, name, stop, close, entry, hform, h⟩
  | capability capability =>
    simp [has, Owns, OwnsCapability]

end Traits

namespace TypeTable

/-! ### Tables -/

/--
Whether a table says that a type has a trait.
-/
def has (table : TypeTable) (name : String) (trait : Trait) : Bool :=
  ((table.lookup name).getD Traits.none).has trait

theorem lookup_map_set (table : TypeTable) (name other : String) (traits : Traits) :
    (table.map fun entry => if entry.1 == name then (name, traits) else entry).lookup other
      = if other = name then (table.lookup other).map fun _ => traits else table.lookup other := by
  induction table with
  | nil => simp
  | cons entry rest ih =>
    obtain ⟨key, found⟩ := entry
    rw [List.map_cons]
    by_cases hkey : key = name
    . subst hkey
      rw [if_pos (beq_self_eq_true _), List.lookup_cons, List.lookup_cons, ih]
      by_cases hother : other = key
      . simp [hother]
      . simp [hother, beq_eq_false_iff_ne.2 hother]
    . rw [if_neg (by simpa using hkey), List.lookup_cons, List.lookup_cons, ih]
      by_cases hother : other = key
      . subst hother
        simp [hkey]
      . simp [beq_eq_false_iff_ne.2 hother]

theorem lookup_put (table : TypeTable) (name other : String) (traits : Traits) :
    (table.put name traits).lookup other
      = if other = name then some traits else table.lookup other := by
  unfold put
  split
  . next hany =>
    rw [lookup_map_set]
    split
    . next heq =>
      subst heq
      obtain ⟨⟨key, found⟩, hentry, hname⟩ := List.any_eq_true.1 hany
      cases hlookup : table.lookup other with
      | none =>
        have hne := List.lookup_eq_none_iff.1 hlookup _ hentry
        rw [beq_iff_eq.1 hname] at hne
        simp at hne
      | some found => rfl
    . rfl
  . next hany =>
    rw [List.lookup_append]
    by_cases heq : other = name
    . subst heq
      have hnone : table.lookup other = none := by
        rw [List.lookup_eq_none_iff]
        intro entry hentry
        rw [bne_iff_ne]
        intro heq
        exact hany (List.any_eq_true.2 ⟨entry, hentry, beq_iff_eq.2 heq.symm⟩)
      simp [hnone]
    . simp [heq, List.lookup_cons, beq_eq_false_iff_ne.2 heq]

variable {table : TypeTable} {trait : Trait}

theorem has_put {name other : String} {traits : Traits} :
    (table.put name traits).has other trait
      = if other = name then traits.has trait else table.has other trait := by
  unfold has
  rw [lookup_put]
  split <;> rfl

/--
What a type of the file hands down. Another type hands down nothing.
-/
def handedDown (table : TypeTable) (name : String) : Traits :=
  ((table.lookup name).getD Traits.none).inheritable

theorem inherit_eq (head : TypeHead) :
    table.inherit head
      = head.bases.foldl (fun traits base => traits.union (table.handedDown (baseName base.1)))
          ((table.lookup head.name).getD Traits.none) := by
  unfold inherit
  congr 1
  funext traits base
  unfold handedDown
  split
  . next inherited hlookup => rw [hlookup, Option.getD_some]
  . next hnone => rw [hnone, Option.getD_none, Traits.inheritable_none, Traits.union_none]

/-- A type takes over what the types of the file that are its bases have and hand down. -/
theorem has_inherit {head : TypeHead} :
    (table.inherit head).has trait = true ↔
      table.has head.name trait = true ∨
        ∃ base ∈ head.bases, trait.IsInherited ∧ table.has (baseName base.1) trait = true := by
  rw [inherit_eq, Traits.has_foldl_union]
  apply or_congr_right
  apply exists_congr
  intro base
  unfold handedDown
  rw [Traits.has_inheritable]
  rfl

theorem exists_of_has_foldl_put {α : Type} {items : List α} {key : α → String} {view : α → Traits}
    {name : String}
    (h : (items.foldl (fun table item => table.put (key item) (view item)) table).has name trait
      = true) :
    (∃ item ∈ items, key item = name ∧ (view item).has trait = true) ∨
      table.has name trait = true := by
  induction items generalizing table with
  | nil => exact .inr h
  | cons item rest ih =>
    rw [List.foldl_cons] at h
    rcases ih h with ⟨other, hmem, hother⟩ | h
    . exact .inl ⟨other, List.mem_cons_of_mem _ hmem, hother⟩
    . rw [has_put] at h
      split at h
      . next hname => exact .inl ⟨item, List.mem_cons_self, hname.symm, h⟩
      . exact .inr h

theorem has_foldl_put {α : Type} {items : List α} {key : α → String} {view : α → Traits}
    {name : String} (h : (items.map key).Nodup) :
    (items.foldl (fun table item => table.put (key item) (view item)) table).has name trait = true ↔
      (∃ item ∈ items, key item = name ∧ (view item).has trait = true) ∨
        name ∉ items.map key ∧ table.has name trait = true := by
  induction items generalizing table with
  | nil => simp
  | cons item rest ih =>
    rw [List.map_cons, List.nodup_cons] at h
    rw [List.foldl_cons, ih h.2, has_put]
    by_cases hname : name = key item
    . subst hname
      have hrest : ¬∃ other ∈ rest, key other = key item ∧ (view other).has trait = true := by
        rintro ⟨other, hmem, hkey, _⟩
        exact h.1 (hkey ▸ List.mem_map_of_mem hmem)
      simp [hrest, h.1]
    . simp [hname, Ne.symm hname]

/-- A type starts with nothing that no declaration of it has by itself. -/
theorem exists_of_has_ofDeclarations {scope : Scope} {declarations : List (Node × TypeHead)}
    {name : String} (h : (ofDeclarations scope declarations).has name trait = true) :
    ∃ declaration ∈ declarations,
      declaration.2.name = name ∧ Traits.Owns scope declaration trait := by
  rcases exists_of_has_foldl_put h with ⟨declaration, hmem, hname, hhas⟩ | h
  . exact ⟨declaration, hmem, hname, Traits.has_direct.1 hhas⟩
  . rw [has, List.lookup_nil, Option.getD_none, Traits.has_none] at h
    cases h

/-- If no name is declared twice, the types of a file start with what they have by themselves. -/
theorem has_ofDeclarations {scope : Scope} {declarations : List (Node × TypeHead)} {name : String}
    (h : (declarations.map (·.2.name)).Nodup) :
    (ofDeclarations scope declarations).has name trait = true ↔
      ∃ declaration ∈ declarations,
        declaration.2.name = name ∧ Traits.Owns scope declaration trait := by
  have hstart : has [] name trait = false := Traits.has_none trait
  unfold ofDeclarations
  rw [has_foldl_put h, hstart]
  simp only [Traits.has_direct, Bool.false_eq_true, and_false, or_false]

end TypeTable

end ThreadLint
