import Mathlib.Data.List.Induction
import ThreadLint.Proofs.Binding.Inheritance
import ThreadLint.Proofs.Builtin
import ThreadLint.Proofs.Tree.Walk

/-!
This module contains what becomes of the traits of types whose name is declared more than once. The
table of a file has one entry for each name, and of several declarations the last one says what the
entry starts with. So an earlier declaration loses what it has by itself, unless its name comes to
that in another way.
-/

namespace ThreadLint

namespace TypeTable

variable {scope : Scope} {declarations : List (Node × TypeHead)} {declaration : Node × TypeHead}
  {result : TypeTable} {name : String} {trait : Trait}

/--
The last declaration of a name.
-/
def last? (declarations : List (Node × TypeHead)) (name : String) : Option (Node × TypeHead) :=
  declarations.reverse.find? fun declaration => declaration.2.name == name

/--
Whether the last declaration of a name has a trait by itself.
-/
def BeginsWith (scope : Scope) (declarations : List (Node × TypeHead)) (name : String)
    (trait : Trait) : Prop :=
  ∃ declaration, last? declarations name = some declaration ∧ Traits.Owns scope declaration trait

/--
Whether some declaration of a name has a base whose last segment is another name.
-/
def Derives (declarations : List (Node × TypeHead)) (name other : String) : Prop :=
  ∃ declaration ∈ declarations, declaration.2.name = name ∧
    ∃ base ∈ declaration.2.bases, baseName base.1 = other

/--
Whether a name comes to a trait: its last declaration has the trait by itself, or the last one of a
name that is reached from it has the trait and hands it down.
-/
def Gathers (scope : Scope) (declarations : List (Node × TypeHead)) (name : String)
    (trait : Trait) : Prop :=
  BeginsWith scope declarations name trait ∨
    trait.IsInherited ∧ ∃ other,
      Relation.TransGen (Derives declarations) name other ∧ BeginsWith scope declarations other trait

/-- Of several declarations of one name the last one counts. -/
theorem has_ofDeclarations_iff :
    (ofDeclarations scope declarations).has name trait = true ↔
      BeginsWith scope declarations name trait := by
  -- The table is made in the order of the declarations, so the last one is taken off.
  induction declarations using List.reverseRecOn with
  | nil => simp [ofDeclarations, has, BeginsWith, last?]
  | append_singleton front declaration ih =>
    have hput : ofDeclarations scope (front ++ [declaration]) = (ofDeclarations scope front).put
        declaration.2.name (Traits.direct scope declaration.1 declaration.2) := by
      unfold ofDeclarations
      rw [List.foldl_append]
      rfl
    have hlast : last? (front ++ [declaration]) name
        = if declaration.2.name = name then some declaration else last? front name := by
      unfold last?
      rw [List.reverse_append, List.reverse_singleton, List.singleton_append]
      split
      . next hname => exact List.find?_cons_of_pos (beq_iff_eq.2 hname)
      . next hname => exact List.find?_cons_of_neg (by rwa [beq_iff_eq])
    rw [hput, has_put]
    unfold BeginsWith at ih ⊢
    rw [hlast]
    by_cases hname : declaration.2.name = name
    . simp [hname, Traits.has_direct]
    . simp [hname, Ne.symm hname, ih]

theorem isClosed_gathers :
    IsClosed (declarations.map Prod.snd) fun name trait => Gathers scope declarations name trait := by
  intro head hhead base hbase trait hinherited hgathers
  obtain ⟨declaration, hmem, rfl⟩ := List.mem_map.1 hhead
  have hderives : Derives declarations declaration.2.name (baseName base.1) :=
    ⟨declaration, hmem, rfl, base, hbase, rfl⟩
  refine .inr ⟨hinherited, ?_⟩
  rcases hgathers with hbegins | ⟨_, other, hreach, hbegins⟩
  . exact ⟨_, .single hderives, hbegins⟩
  . exact ⟨other, .head hderives hreach, hbegins⟩

/-- What a name of a table reaches hands down all that it has in the end. -/
theorem ComesTo.has_of_derives (h : ComesTo (declarations.map Prod.snd)
      (ofDeclarations scope declarations) result) (hinherited : trait.IsInherited) {other : String}
    (hreach : Relation.TransGen (Derives declarations) name other)
    (hhas : result.has other trait = true) : result.has name trait = true := by
  have hstep {name other : String} (hderives : Derives declarations name other)
      (hhas : result.has other trait = true) : result.has name trait = true := by
    obtain ⟨declaration, hmem, rfl, base, hbase, rfl⟩ := hderives
    exact h.isClosed _ (List.mem_map_of_mem hmem) base hbase trait hinherited hhas
  induction hreach using Relation.TransGen.head_induction_on with
  | single hderives => exact hstep hderives hhas
  | head hderives _ ih => exact hstep hderives ih

/-- What the rounds come to, also if names are declared more than once. -/
theorem ComesTo.has_iff_gathers (h : ComesTo (declarations.map Prod.snd)
      (ofDeclarations scope declarations) result) :
    result.has name trait = true ↔ Gathers scope declarations name trait := by
  constructor
  . exact h.holds_of_has isClosed_gathers fun _ _ hhas => .inl (has_ofDeclarations_iff.1 hhas)
  . have hbegin {name : String} (hbegins : BeginsWith scope declarations name trait) :
        result.has name trait = true :=
      h.has_of_has (has_ofDeclarations_iff.2 hbegins)
    rintro (hbegins | ⟨hinherited, other, hreach, hbegins⟩)
    . exact hbegin hbegins
    . exact h.has_of_derives hinherited hreach (hbegin hbegins)

end TypeTable

/--
Whether a type declaration has in a binding the tags of its known bases and attributes and the
capabilities of its known bases.
-/
structure Binding.KeepsOwn (binding : Binding) (declaration : Node × TypeHead) : Prop where
  tags : ∀ tag, Traits.OwnsTag binding.scope declaration tag →
    tag ∈ binding.tags declaration.1 false
  capabilities : ∀ capability, Traits.OwnsCapability binding.scope declaration capability →
    capability ∈ (binding.traits declaration.2).capabilities

theorem TypeTable.mem_declarations_iff {root : Node} {declaration : Node × TypeHead} :
    declaration ∈ declarations root ↔
      declaration.1 ∈ root.preorder ∧ declaration.1.form = .classDecl declaration.2 := by
  unfold declarations
  rw [Node.walk_eq, List.mem_filterMap]
  constructor
  . rintro ⟨node, hmem, hnode⟩
    split at hnode
    . next head hform =>
      cases hnode
      exact ⟨hmem, hform⟩
    . cases hnode
  . rintro ⟨hmem, hform⟩
    exact ⟨declaration.1, hmem, by rw [hform]⟩

/-- A type declaration keeps its own traits if the entry of its name has them. -/
theorem Binding.keepsOwn_iff {binding : Binding} {declaration : Node × TypeHead}
    (hform : declaration.1.form = .classDecl declaration.2) :
    binding.KeepsOwn declaration ↔ ∀ trait, Traits.Owns binding.scope declaration trait →
      (binding.traits declaration.2).has trait = true := by
  have htags : binding.tags declaration.1 false = (binding.traits declaration.2).tags := by
    rw [tags, hform]
  constructor
  . rintro ⟨hkeepsTags, hkeepsCapabilities⟩ (tag | capability) howns
    . exact List.contains_iff_mem.2 (htags ▸ hkeepsTags tag howns)
    . exact List.contains_iff_mem.2 (hkeepsCapabilities capability howns)
  . intro h
    constructor
    case tags =>
      intro tag howns
      rw [htags]
      exact List.contains_iff_mem.1 (h (.tag tag) howns)
    case capabilities =>
      intro capability howns
      exact List.contains_iff_mem.1 (h (.capability capability) howns)

/--
A type declaration has the tags of its known bases and attributes and the capabilities of its known
bases exactly if its name comes to each of them: the last declaration of the name has it by itself, or
it is no export and the last one of a name that is reached through bases of the file has it. So the
last declaration of a name, and each declaration of a name of its own, has all of them.
-/
theorem keepsOwn_exact (root : Node) (table : SymbolTable) :
    let binding := Binding.ofRoot root table
    let declarations := TypeTable.declarations root
    ∀ declaration ∈ declarations,
      (binding.KeepsOwn declaration ↔ ∀ trait, Traits.Owns binding.scope declaration trait →
        TypeTable.Gathers binding.scope declarations declaration.2.name trait) ∧
      (TypeTable.last? declarations declaration.2.name = some declaration →
        binding.KeepsOwn declaration) := by
  intro binding declarations declaration hmem
  have hform := (TypeTable.mem_declarations_iff.1 hmem).2
  have hhas (trait : Trait) : (binding.traits declaration.2).has trait = true ↔
      TypeTable.Gathers binding.scope declarations declaration.2.name trait :=
    (TypeTable.comesTo_ofRoot binding.scope root).has_iff_gathers
  have hiff : binding.KeepsOwn declaration ↔ ∀ trait, Traits.Owns binding.scope declaration trait →
      TypeTable.Gathers binding.scope declarations declaration.2.name trait := by
    rw [Binding.keepsOwn_iff hform]
    simp only [hhas]
  refine ⟨hiff, ?_⟩
  intro hlast
  rw [hiff]
  intro trait howns
  exact .inl ⟨declaration, hlast, howns⟩

/-- The first part of a type loses its base to the second one and has it back from another type. -/
theorem keepsOwn_exact_regained :
    let text := "class P : Package \x7b \x7d class P : B \x7b \x7d class B : Package \x7b \x7d"
    ∃ parsed, parse text none = .ok parsed ∧
      let binding := Binding.ofRoot parsed.root .packages
      ∃ first second third, TypeTable.declarations parsed.root = [first, second, third] ∧
        first.2.name = "P" ∧ second.2.name = "P" ∧ binding.KeepsOwn first := by
  intro text
  have hrun : ((parse text none).toOption.map fun parsed =>
      (TypeTable.declarations parsed.root).map fun declaration =>
        let traits := Traits.direct (Binding.ofRoot parsed.root .packages).scope declaration.1
          declaration.2
        ((declaration.2.name, declaration.2.bases.map fun base => TypeTable.baseName base.1),
          traits.tags, traits.capabilities))
      = some [(("P", ["Package"]), [.asyncEntryPoint], [.backgroundLoad]), (("P", ["B"]), [], []),
        (("B", ["Package"]), [.asyncEntryPoint], [.backgroundLoad])] := by
    decide +kernel
  obtain ⟨parsed, hparse, hfound⟩ := Option.map_eq_some_iff.1 hrun
  obtain ⟨first, _, hall, hfirst, hfound⟩ := List.map_eq_cons_iff.1 hfound
  obtain ⟨second, _, rfl, hsecond, hfound⟩ := List.map_eq_cons_iff.1 hfound
  obtain ⟨third, _, rfl, hthird, hfound⟩ := List.map_eq_cons_iff.1 hfound
  rw [List.map_eq_nil_iff] at hfound
  subst hfound
  simp only [Prod.mk.injEq] at hfirst hsecond hthird
  refine ⟨parsed, eq_ok_of_toOption hparse, first, second, third, hall, hfirst.1.1, hsecond.1.1, ?_⟩
  obtain ⟨hkeeps, _⟩ := keepsOwn_exact parsed.root .packages first (by simp [hall])
  rw [hkeeps, hall, hfirst.1.1]
  intro trait howns
  have hderives : TypeTable.Derives [first, second, third] "P" "B" := by
    obtain ⟨base, hbase, hname⟩ := List.mem_map.1 (hsecond.1.2 ▸ List.mem_singleton_self "B")
    exact ⟨second, by simp, hsecond.1.1, base, hbase, hname⟩
  have hdirect : (Traits.direct (Binding.ofRoot parsed.root .packages).scope first.1 first.2).has trait
      = (Traits.direct (Binding.ofRoot parsed.root .packages).scope third.1 third.2).has trait := by
    cases trait with
    | tag tag => simp only [Traits.has, hfirst.2.1, hthird.2.1]
    | capability capability => simp only [Traits.has, hfirst.2.2, hthird.2.2]
  rw [← Traits.has_direct, hdirect] at howns
  refine .inr ⟨?_, "B", .single hderives, third, ?_, Traits.has_direct.1 howns⟩
  . rintro rfl
    simp [Traits.has, hthird.2.1] at howns
  . simp [TypeTable.last?, hthird.1.1]

/-- The second part of a type takes from the first one what it has from its base. -/
theorem keepsOwn_loses_base :
    let text := "using Microsoft.VisualStudio.Shell; " ++
      "partial class P : AsyncPackage \x7b \x7d partial class P \x7b \x7d"
    ∃ parsed, parse text none = .ok parsed ∧
      let binding := Binding.ofRoot parsed.root (.builtin [])
      ∃ declaration ∈ TypeTable.declarations parsed.root,
        Traits.OwnsTag binding.scope declaration .asyncEntryPoint ∧
          Traits.OwnsCapability binding.scope declaration .asyncInit ∧
          binding.tags declaration.1 false = [] ∧ (binding.traits declaration.2).capabilities = [] ∧
          ¬binding.KeepsOwn declaration := by
  intro text
  have hrun : ((parse text none).toOption.map fun parsed =>
      let binding := Binding.ofRoot parsed.root Analyzer.unrestricted.table
      (TypeTable.declarations parsed.root).map fun declaration =>
        let traits := Traits.direct binding.scope declaration.1 declaration.2
        ((traits.has (.tag .asyncEntryPoint), traits.has (.capability .asyncInit)),
          binding.tags declaration.1 false, (binding.traits declaration.2).capabilities))
      = some [((true, true), [], []), ((false, false), [], [])] := by
    decide +kernel
  have htable : SymbolTable.builtin [] = Analyzer.unrestricted.table := SymbolTable.builtin_eq
  rw [← htable] at hrun
  obtain ⟨parsed, hparse, hfound⟩ := Option.map_eq_some_iff.1 hrun
  obtain ⟨first, _, hall, hfirst, _⟩ := List.map_eq_cons_iff.1 hfound
  simp only [Prod.mk.injEq] at hfirst
  obtain ⟨⟨htag, hcapability⟩, htags, hcapabilities⟩ := hfirst
  have hownsTag := Traits.has_direct.1 htag
  refine ⟨parsed, eq_ok_of_toOption hparse, first, hall ▸ List.mem_cons_self, hownsTag,
    Traits.has_direct.1 hcapability, htags, hcapabilities, ?_⟩
  intro hkeeps
  exact List.not_mem_nil (htags ▸ hkeeps.tags _ hownsTag)

end ThreadLint
