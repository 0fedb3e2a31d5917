import ThreadLint.Proofs.Binding.Inheritance
import ThreadLint.Proofs.Symbol

/-!
This module contains what names stand for if no symbol is known: none of them has an entry, no type
has a trait, and the only tag is that of methods of the file whose result is awaited.
-/

namespace ThreadLint

/-! ### Names -/

namespace SymbolTable

/--
The table without any symbol.
-/
def empty : SymbolTable :=
  .ofEntries []

theorem lookup_empty (name : String) (kind : Option SymbolKind) (namespaces : List String) :
    empty.lookup name kind namespaces = none := by
  rw [Option.eq_none_iff_forall_not_mem]
  intro entry hentry
  exact List.not_mem_nil (mem_of_lookup hentry)

end SymbolTable

namespace Scope

variable {scope : Scope} (h : scope.table = .empty)

include h

theorem lookup_eq_none (name : Option String) (kind : Option SymbolKind) :
    scope.lookup name kind = none := by
  rw [Option.eq_none_iff_forall_not_mem]
  intro entry hentry
  obtain ⟨_, _, hlookup⟩ := lookup_eq_some hentry
  rw [h, SymbolTable.lookup_empty] at hlookup
  cases hlookup

theorem lookupAttribute_eq_none (name : String) : scope.lookupAttribute name = none := by
  unfold lookupAttribute
  simp only [lookup_eq_none h, Option.or_none, ite_self]

/-- Only methods of the file have tags. -/
theorem exists_local_of_mem_resolve {name : Option String} {kind : Option SymbolKind}
    {tag : SymbolTag} (hmem : tag ∈ scope.resolve name kind) :
    (kind = none ∨ kind = some .method) ∧
      ∃ own tags, scope.locals.lookup own = some tags ∧ tag ∈ tags := by
  unfold resolve at hmem
  split at hmem
  . cases hmem
  . next written =>
    split at hmem
    . cases hmem
    . dsimp only at hmem
      split at hmem
      . next tags hown =>
        split at hown
        . next hkind => exact ⟨hkind, _, tags, hown, hmem⟩
        . cases hown
      . rw [lookup_eq_none h] at hmem
        cases hmem

end Scope

namespace Binding

variable {root : Node}

/--
The binding of a tree if no symbol is known.
-/
def unknowing (root : Node) : Binding :=
  ofRoot root .empty

theorem table_unknowing : (unknowing root).scope.table = .empty :=
  rfl

theorem eq_of_lookup_locals {name : String} {tags : List SymbolTag}
    (h : (unknowing root).scope.locals.lookup name = some tags) : tags = [.asyncEntryPoint] := by
  obtain ⟨own, hmem⟩ : ∃ own, (own, tags) ∈ (unknowing root).scope.locals := by
    rw [List.lookup_eq_some_iff] at h
    obtain ⟨front, back, heq, _⟩ := h
    exact ⟨name, by rw [heq]; simp⟩
  obtain ⟨_, _, heq⟩ := List.mem_map.1 hmem
  exact (Prod.mk.inj heq).2.symm

theorem eq_of_mem_resolve {name : Option String} {kind : Option SymbolKind} {tag : SymbolTag}
    (h : tag ∈ (unknowing root).scope.resolve name kind) : tag = .asyncEntryPoint := by
  obtain ⟨_, own, tags, hlookup, hmem⟩ := Scope.exists_local_of_mem_resolve table_unknowing h
  rw [eq_of_lookup_locals hlookup] at hmem
  exact List.mem_singleton.1 hmem

/-! ### Types -/

theorem not_owns_unknowing (declaration : Node × TypeHead) (trait : Trait) :
    ¬ Traits.Owns (unknowing root).scope declaration trait := by
  have hbases {base : String} {entry : SymbolEntry}
      (h : (unknowing root).scope.lookup (some base) (some .type) = some entry) : False := by
    rw [Scope.lookup_eq_none table_unknowing] at h
    cases h
  cases trait with
  | tag tag =>
    rintro (⟨_, _, _, hlookup, _⟩ | ⟨_, _, name, _, _, _, _, hlookup, _⟩)
    . exact hbases hlookup
    . rw [Scope.lookupAttribute_eq_none table_unknowing] at hlookup
      cases hlookup
  | capability capability =>
    rintro ⟨_, _, _, hlookup, _⟩
    exact hbases hlookup

/-- No type has a trait, since none has one by itself and there is nothing to inherit. -/
theorem types_unknowing (name : String) (trait : Trait) :
    (unknowing root).types.has name trait = false := by
  rw [← Bool.not_eq_true]
  intro hhas
  have hclosed : TypeTable.IsClosed ((TypeTable.declarations root).map Prod.snd)
      fun _ _ => False := by
    intro _ _ _ _ _ _ h
    exact h
  refine (TypeTable.comesTo_ofRoot (unknowing root).scope root).holds_of_has hclosed ?_ hhas
  intro name trait hstart
  obtain ⟨declaration, _, _, howns⟩ := TypeTable.exists_of_has_ofDeclarations hstart
  exact not_owns_unknowing declaration trait howns

theorem not_mem_tags_unknowing (head : TypeHead) (tag : SymbolTag) :
    tag ∉ ((unknowing root).traits head).tags := by
  intro hmem
  have hhas : (unknowing root).types.has head.name (.tag tag) = true := List.contains_iff_mem.2 hmem
  rw [types_unknowing] at hhas
  cases hhas

theorem not_mem_capabilities_unknowing (head : TypeHead) (capability : Capability) :
    capability ∉ ((unknowing root).traits head).capabilities := by
  intro hmem
  have hhas : (unknowing root).types.has head.name (.capability capability) = true :=
    List.contains_iff_mem.2 hmem
  rw [types_unknowing] at hhas
  cases hhas

/-! ### Nodes -/

/-- What is not called by the name of a method has no tag. -/
theorem contains_resolve_unknowing {name : Option String} {kind : SymbolKind} {tag : SymbolTag}
    (h : kind ≠ .method) : ((unknowing root).scope.resolve name (some kind)).contains tag = false := by
  rw [← Bool.not_eq_true, List.contains_iff_mem]
  intro hmem
  obtain ⟨hkind, _⟩ := Scope.exists_local_of_mem_resolve table_unknowing hmem
  simp [h] at hkind

theorem commandHandlers_unknowing : (unknowing root).commandHandlers = [] := by
  have hnone (node : Node) : node.commandHandlers (unknowing root).scope = [] := by
    unfold Node.commandHandlers
    split
    . dsimp only
      rw [contains_resolve_unknowing (by decide), if_neg (by simp)]
    . rfl
  have heq : (unknowing root).commandHandlers
      = Imports.distinct (root.walk.flatMap (Node.commandHandlers (unknowing root).scope)) := rfl
  rw [heq, List.flatMap_eq_nil_iff.2 fun node _ => hnone node]
  rfl

/-- The only tag is that of methods whose result is awaited. -/
theorem eq_of_mem_tags {node : Node} {isCallee : Bool} {tag : SymbolTag}
    (h : tag ∈ (unknowing root).tags node isCallee) : tag = .asyncEntryPoint := by
  unfold tags at h
  split at h
  . next head _ => exact absurd h (not_mem_tags_unknowing head tag)
  . next head _ =>
    unfold methodTags at h
    rw [commandHandlers_unknowing, List.contains_nil, if_neg Bool.false_ne_true, List.append_nil] at h
    split at h
    . exact List.mem_singleton.1 h
    . cases h
  . rw [Scope.lookupAttribute_eq_none table_unknowing] at h
    cases h
  . exact eq_of_mem_resolve h
  . split at h
    . cases h
    . exact eq_of_mem_resolve h
  . exact eq_of_mem_resolve h
  . exact eq_of_mem_resolve h
  . cases h

theorem contains_tags_unknowing {node : Node} {isCallee : Bool} {tag : SymbolTag}
    (h : tag ≠ .asyncEntryPoint) : ((unknowing root).tags node isCallee).contains tag = false := by
  rw [← Bool.not_eq_true, List.contains_iff_mem]
  intro hmem
  exact h (eq_of_mem_tags hmem)

theorem isCallTagged_unknowing {tag : SymbolTag} (h : tag ≠ .asyncEntryPoint) (node : Node) :
    (unknowing root).isCallTagged tag node = false := by
  rw [← Bool.not_eq_true, isCallTagged, Bool.and_eq_true, List.contains_iff_mem]
  rintro ⟨_, hmem⟩
  exact h (eq_of_mem_resolve hmem)

end Binding

end ThreadLint
