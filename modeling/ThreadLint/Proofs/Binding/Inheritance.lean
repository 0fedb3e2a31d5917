import Mathlib.Data.List.Count
import Mathlib.Data.List.Perm.Basic
import Mathlib.Data.List.ProdSigma
import Mathlib.Logic.Relation
import ThreadLint.Proofs.Binding.Traits
import ThreadLint.Proofs.Except
import ThreadLint.Grammar

/-!
This module contains what the types of a file inherit from each other: the rounds of inheritance come
to an end by themselves, and then each type has exactly what it has by itself and what is handed down
to it from the types that it reaches through bases of the file.
-/

namespace ThreadLint

namespace TypeTable

variable {table after result : TypeTable} {head : TypeHead} {heads : List TypeHead} {name : String}
  {trait : Trait}

/-! ### Steps -/

/--
The table after a type has taken over the traits of its bases.
-/
def step (table : TypeTable) (head : TypeHead) : TypeTable :=
  table.put head.name (table.inherit head)

/--
Whether a type would take over something new.
-/
def isStale (table : TypeTable) (head : TypeHead) : Bool :=
  !((table.lookup head.name).getD Traits.none).includes (table.inherit head)

theorem has_step :
    (table.step head).has name trait = true ↔
      table.has name trait = true ∨
        name = head.name ∧ ∃ base ∈ head.bases,
          trait.IsInherited ∧ table.has (baseName base.1) trait = true := by
  unfold step
  rw [has_put]
  split
  . next heq =>
    subst heq
    rw [has_inherit]
    simp
  . next hne => simp [hne]

theorem isStale_iff :
    table.isStale head = true ↔
      ∃ trait, (table.step head).has head.name trait = true ∧ table.has head.name trait = false := by
  unfold isStale step
  rw [Bool.not_eq_true', ← Bool.not_eq_true, Traits.includes_iff]
  simp only [has_put, if_true, not_forall, Bool.not_eq_true, exists_prop]
  rfl

/-! ### Rounds -/

/--
Whether types have all that their bases hand down to them, for types that have what a predicate says.
-/
def IsClosed (heads : List TypeHead) (holds : String → Trait → Prop) : Prop :=
  ∀ head ∈ heads, ∀ base ∈ head.bases, ∀ trait : Trait,
    trait.IsInherited → holds (baseName base.1) trait → holds head.name trait

/--
A round that goes on from a table and from whether it has changed anything yet.
-/
def roundFrom (start : TypeTable × Bool) (heads : List TypeHead) : TypeTable × Bool :=
  heads.foldl (fun current head =>
    (current.1.step head, current.2 || current.1.isStale head)) start

theorem round_eq (table : TypeTable) (heads : List TypeHead) :
    table.round heads = roundFrom (table, false) heads :=
  rfl

variable {changed changes : Bool}

theorem roundFrom_cons :
    roundFrom (table, changed) (head :: heads)
      = roundFrom (table.step head, changed || table.isStale head) heads :=
  rfl

theorem has_of_roundFrom (hround : roundFrom (table, changed) heads = (after, changes))
    (h : table.has name trait = true) : after.has name trait = true := by
  induction heads generalizing table changed with
  | nil =>
    cases hround
    exact h
  | cons head rest ih =>
    rw [roundFrom_cons] at hround
    exact ih hround (has_step.2 (.inl h))

/-- A round gives a type nothing that it does not have wherever types have what they inherit. -/
theorem holds_of_roundFrom {holds : String → Trait → Prop}
    (hround : roundFrom (table, changed) heads = (after, changes)) (hclosed : IsClosed heads holds)
    (htable : ∀ name trait, table.has name trait = true → holds name trait)
    (h : after.has name trait = true) : holds name trait := by
  induction heads generalizing table changed with
  | nil =>
    cases hround
    exact htable name trait h
  | cons head rest ih =>
    rw [roundFrom_cons] at hround
    apply ih hround (fun other hmem => hclosed other (List.mem_cons_of_mem _ hmem))
    intro name trait hstep
    rcases has_step.1 hstep with hhas | ⟨rfl, base, hbase, hinherited, hhas⟩
    . exact htable name trait hhas
    . exact hclosed head List.mem_cons_self base hbase trait hinherited (htable _ _ hhas)

/-- A round that changes nothing leaves a table in which types have what they inherit. -/
theorem of_roundFrom_eq_false
    (h : roundFrom (table, changed) heads = (after, false)) :
    changed = false ∧ (∀ name trait, after.has name trait = table.has name trait) ∧
      IsClosed heads fun name trait => table.has name trait = true := by
  induction heads generalizing table changed with
  | nil =>
    cases h
    exact ⟨rfl, fun _ _ => rfl, by intro head hmem; cases hmem⟩
  | cons head rest ih =>
    rw [roundFrom_cons] at h
    obtain ⟨hchanged, hsame, hrest⟩ := ih h
    rw [Bool.or_eq_false_iff] at hchanged
    have hstep (name : String) (trait : Trait) :
        (table.step head).has name trait = table.has name trait := by
      rw [Bool.eq_iff_iff]
      constructor
      . intro hhas
        rcases has_step.1 hhas with hhas' | ⟨rfl, _⟩
        . exact hhas'
        . by_contra hnot
          rw [Bool.not_eq_true] at hnot
          rw [isStale_iff.2 ⟨trait, hhas, hnot⟩] at hchanged
          cases hchanged.2
      . intro hhas
        exact has_step.2 (.inl hhas)
    simp only [hstep] at hsame hrest
    refine ⟨hchanged.1, hsame, ?_⟩
    intro other hmem base hbase trait hinherited hhas
    cases List.mem_cons.1 hmem with
    | inl heq =>
      subst heq
      rw [← hstep]
      exact has_step.2 (.inr ⟨rfl, base, hbase, hinherited, hhas⟩)
    | inr hmem => exact hrest other hmem base hbase trait hinherited hhas

/-- A round that changes something adds a trait to some type. -/
theorem of_roundFrom_eq_true
    (h : roundFrom (table, changed) heads = (after, true)) :
    changed = true ∨ ∃ head ∈ heads, ∃ trait : Trait,
      table.has head.name trait = false ∧ after.has head.name trait = true := by
  induction heads generalizing table changed with
  | nil =>
    cases h
    exact .inl rfl
  | cons head rest ih =>
    rw [roundFrom_cons] at h
    cases ih h with
    | inl hchanged =>
      rw [Bool.or_eq_true] at hchanged
      apply hchanged.imp_right
      intro hstale
      obtain ⟨trait, hhas, hnot⟩ := isStale_iff.1 hstale
      exact ⟨head, List.mem_cons_self, trait, hnot, has_of_roundFrom h hhas⟩
    | inr hnew =>
      obtain ⟨other, hmem, trait, hnot, hhas⟩ := hnew
      refine .inr ⟨other, List.mem_cons_of_mem _ hmem, trait, ?_, hhas⟩
      by_contra hbefore
      rw [Bool.not_eq_false] at hbefore
      rw [has_step.2 (.inl hbefore)] at hnot
      cases hnot

/-! ### The end of the rounds -/

/--
How many traits the types of some heads do not have.
-/
def room (heads : List TypeHead) (table : TypeTable) : Nat :=
  ((heads.map (·.name)) ×ˢ Trait.all).countP fun place => !table.has place.1 place.2

theorem room_le : room heads table ≤ 9 * heads.length := by
  apply Nat.le_trans List.countP_le_length
  rw [List.length_product, List.length_map, Nat.mul_comm]
  exact Nat.le_refl _

/-- Each round but the last one leaves less room. -/
theorem room_lt (h : table.round heads = (after, true)) : room heads after < room heads table := by
  rw [round_eq] at h
  obtain ⟨head, hhead, trait, hnot, hhas⟩ := (of_roundFrom_eq_true h).resolve_left Bool.false_ne_true
  have hgrow (place : String × Trait) (hplace : (!after.has place.1 place.2) = true) :
      (!table.has place.1 place.2) = true := by
    rw [Bool.not_eq_true'] at *
    by_contra hbefore
    rw [Bool.not_eq_false] at hbefore
    rw [has_of_roundFrom h hbefore] at hplace
    cases hplace
  -- nothing comes back into the room, and the trait that is new to the type leaves it
  have hmem : (head.name, trait) ∈ (heads.map (·.name)) ×ˢ Trait.all :=
    List.mem_product.2 ⟨List.mem_map_of_mem hhead, Trait.mem_all trait⟩
  obtain ⟨front, back, hsplit⟩ := List.append_of_mem hmem
  have hfront := List.countP_mono_left (l := front) fun place _ => hgrow place
  have hback := List.countP_mono_left (l := back) fun place _ => hgrow place
  unfold room
  rw [hsplit, List.countP_append, List.countP_append, List.countP_cons, List.countP_cons]
  simp only [hnot, hhas, Bool.not_true, Bool.not_false, if_true, Bool.false_eq_true, if_false]
  omega

/--
One table comes to another by rounds of inheritance up to the first one that changes nothing.
-/
inductive ComesTo (heads : List TypeHead) : TypeTable → TypeTable → Prop where
  | last {table after : TypeTable} (h : table.round heads = (after, false)) :
      ComesTo heads table after
  | more {table after result : TypeTable} (h : table.round heads = (after, true))
      (hrest : ComesTo heads after result) : ComesTo heads table result

/-- The rounds come to an end by themselves if there may be more of them than there is room. -/
theorem comesTo_settle {rounds : Nat} (h : room heads table < rounds) :
    ComesTo heads table (settle heads rounds table) := by
  induction rounds generalizing table with
  | zero => omega
  | succ rounds ih =>
    unfold settle
    split
    . next after hround =>
      have hlt := room_lt hround
      exact .more hround (ih (by omega))
    . next after hround => exact .last hround

theorem comesTo_ofRoot (scope : Scope) (root : Node) :
    ComesTo ((declarations root).map Prod.snd) (ofDeclarations scope (declarations root))
      (ofRoot scope root) := by
  apply comesTo_settle
  have hroom : room ((declarations root).map Prod.snd) (ofDeclarations scope (declarations root))
      ≤ 9 * ((declarations root).map Prod.snd).length := room_le
  rw [List.length_map] at hroom
  omega

namespace ComesTo

theorem has_of_has (h : ComesTo heads table result) (hhas : table.has name trait = true) :
    result.has name trait = true := by
  induction h with
  | last h => exact has_of_roundFrom h hhas
  | more h _ ih => exact ih (has_of_roundFrom h hhas)

theorem holds_of_has {holds : String → Trait → Prop} (h : ComesTo heads table result)
    (hclosed : IsClosed heads holds)
    (htable : ∀ name trait, table.has name trait = true → holds name trait)
    (hhas : result.has name trait = true) : holds name trait := by
  induction h with
  | last h => exact holds_of_roundFrom h hclosed htable hhas
  | more h _ ih =>
    apply ih _ hhas
    intro name trait hafter
    exact holds_of_roundFrom h hclosed htable hafter

theorem isClosed (h : ComesTo heads table result) :
    IsClosed heads fun name trait => result.has name trait = true := by
  induction h with
  | last h =>
    obtain ⟨_, hsame, hclosed⟩ := of_roundFrom_eq_false h
    simp only [hsame]
    exact hclosed
  | more _ _ ih => exact ih

end ComesTo

/-! ### The closure -/

/--
One type declaration has a base whose last segment is the name of another declaration of the file.
-/
def Extends (declarations : List (Node × TypeHead)) (declaration other : Node × TypeHead) : Prop :=
  other ∈ declarations ∧ ∃ base ∈ declaration.2.bases, baseName base.1 = other.2.name

/--
Whether a type declaration has a trait by itself, or a declaration that is reached from it has it and
hands it down.
-/
def Obtains (scope : Scope) (declarations : List (Node × TypeHead)) (declaration : Node × TypeHead)
    (trait : Trait) : Prop :=
  Traits.Owns scope declaration trait ∨
    trait.IsInherited ∧ ∃ other,
      Relation.TransGen (Extends declarations) declaration other ∧ Traits.Owns scope other trait

variable {scope : Scope} {declarations : List (Node × TypeHead)} {declaration : Node × TypeHead}

theorem isClosed_obtains :
    IsClosed (declarations.map Prod.snd) fun name trait =>
      ∃ declaration ∈ declarations,
        declaration.2.name = name ∧ Obtains scope declarations declaration trait := by
  intro head hhead base hbase trait hinherited hobtains
  obtain ⟨declaration, hmem, rfl⟩ := List.mem_map.1 hhead
  obtain ⟨other, hother, hname, hobtains⟩ := hobtains
  have hextends : Extends declarations declaration other := ⟨hother, base, hbase, hname.symm⟩
  refine ⟨declaration, hmem, rfl, .inr ⟨hinherited, ?_⟩⟩
  rcases hobtains with howns | ⟨_, last, hreach, howns⟩
  . exact ⟨other, .single hextends, howns⟩
  . exact ⟨last, .head hextends hreach, howns⟩

theorem has_of_reaches {other : Node × TypeHead} (hmem : declaration ∈ declarations)
    (hclosed : IsClosed (declarations.map Prod.snd) fun name trait => table.has name trait = true)
    (hinherited : trait.IsInherited)
    (hreach : Relation.TransGen (Extends declarations) declaration other)
    (hhas : table.has other.2.name trait = true) : table.has declaration.2.name trait = true := by
  induction hreach using Relation.TransGen.head_induction_on with
  | single h =>
    obtain ⟨_, base, hbase, hname⟩ := h
    exact hclosed _ (List.mem_map_of_mem hmem) base hbase trait hinherited (hname ▸ hhas)
  | head h _ ih =>
    obtain ⟨hnext, base, hbase, hname⟩ := h
    exact hclosed _ (List.mem_map_of_mem hmem) base hbase trait hinherited (hname ▸ ih hnext)

theorem exists_mem_of_transGen {other : Node × TypeHead}
    (hreach : Relation.TransGen (Extends declarations) declaration other) :
    other ∈ declarations := by
  cases hreach with
  | single h => exact h.1
  | tail _ h => exact h.1

/-- What the rounds come to is the closure. -/
theorem ComesTo.has_iff (hapart : (declarations.map (·.2.name)).Nodup)
    (h : ComesTo (declarations.map Prod.snd) (ofDeclarations scope declarations) result)
    (hmem : declaration ∈ declarations) :
    result.has declaration.2.name trait = true ↔ Obtains scope declarations declaration trait := by
  constructor
  . -- the closure has what each round adds, so the rounds stay inside of it
    intro hhas
    have hstart (name : String) (trait : Trait)
        (hhas : (ofDeclarations scope declarations).has name trait = true) :
        ∃ declaration ∈ declarations,
          declaration.2.name = name ∧ Obtains scope declarations declaration trait := by
      obtain ⟨other, hother, hname, howns⟩ := (has_ofDeclarations hapart).1 hhas
      exact ⟨other, hother, hname, .inl howns⟩
    obtain ⟨other, hother, hname, hobtains⟩ := h.holds_of_has isClosed_obtains hstart hhas
    rw [← List.inj_on_of_nodup_map hapart hother hmem hname]
    exact hobtains
  . -- the last round changes nothing, so what is owned at the end of a chain has come all the way
    have hown {other : Node × TypeHead} (hother : other ∈ declarations)
        (howns : Traits.Owns scope other trait) : result.has other.2.name trait = true :=
      h.has_of_has ((has_ofDeclarations hapart).2 ⟨other, hother, rfl, howns⟩)
    rintro (howns | ⟨hinherited, other, hreach, howns⟩)
    . exact hown hmem howns
    . exact has_of_reaches hmem h.isClosed hinherited hreach
        (hown (exists_mem_of_transGen hreach) howns)

theorem obtains_perm {order : List (Node × TypeHead)} (hperm : order.Perm declarations) :
    Obtains scope order declaration trait ↔ Obtains scope declarations declaration trait := by
  have hextends : Extends order = Extends declarations := by
    funext declaration other
    unfold Extends
    rw [hperm.mem_iff]
  unfold Obtains
  rw [hextends]

end TypeTable

/--
The rounds of inheritance come to an end, and then each type of a file whose types have names of their
own has the tags that it has by itself and those of the types reached from it that are not exports, and
the capabilities that it has by itself and those of the types reached from it. In any other order of
the declarations they come to an end as well, with the same tags and capabilities.
-/
theorem inheritance_exact (root : Node) (table : SymbolTable)
    (hapart : ((TypeTable.declarations root).map (·.2.name)).Nodup) :
    let binding := Binding.ofRoot root table
    let declarations := TypeTable.declarations root
    TypeTable.ComesTo (declarations.map Prod.snd)
        (TypeTable.ofDeclarations binding.scope declarations) binding.types ∧
      (∀ declaration ∈ declarations,
        (∀ tag, tag ∈ (binding.traits declaration.2).tags ↔
          Traits.OwnsTag binding.scope declaration tag ∨
            tag ≠ .mefExport ∧ ∃ other,
              Relation.TransGen (TypeTable.Extends declarations) declaration other ∧
                Traits.OwnsTag binding.scope other tag) ∧
        (∀ capability, capability ∈ (binding.traits declaration.2).capabilities ↔
          Traits.OwnsCapability binding.scope declaration capability ∨
            ∃ other, Relation.TransGen (TypeTable.Extends declarations) declaration other ∧
              Traits.OwnsCapability binding.scope other capability)) ∧
      ∀ order : List (Node × TypeHead), order.Perm declarations →
        ∃ types,
          TypeTable.ComesTo (order.map Prod.snd) (TypeTable.ofDeclarations binding.scope order)
              types ∧
            ∀ declaration ∈ declarations, ∀ trait,
              types.has declaration.2.name trait = binding.types.has declaration.2.name trait := by
  intro binding declarations
  have hcomes := TypeTable.comesTo_ofRoot binding.scope root
  have hhas {declaration : Node × TypeHead} (hmem : declaration ∈ declarations) (trait : Trait) :
      (binding.traits declaration.2).has trait = true ↔
        TypeTable.Obtains binding.scope declarations declaration trait :=
    hcomes.has_iff hapart hmem
  refine ⟨hcomes, ?_, ?_⟩
  . intro declaration hmem
    constructor
    . intro tag
      rw [← List.contains_iff_mem]
      apply (hhas hmem (.tag tag)).trans
      unfold TypeTable.Obtains Trait.IsInherited
      rw [ne_eq, Trait.tag.injEq]
      rfl
    . intro capability
      rw [← List.contains_iff_mem]
      apply (hhas hmem (.capability capability)).trans
      unfold TypeTable.Obtains Trait.IsInherited
      simp only [ne_eq, reduceCtorEq, not_false_eq_true, true_and]
      rfl
  . intro order hperm
    refine ⟨_, TypeTable.comesTo_settle (Nat.lt_succ_of_le TypeTable.room_le), ?_⟩
    intro declaration hmem trait
    have horder : (order.map (·.2.name)).Nodup := (hperm.map _).nodup_iff.2 hapart
    rw [Bool.eq_iff_iff]
    apply (TypeTable.ComesTo.has_iff horder
      (TypeTable.comesTo_settle (Nat.lt_succ_of_le TypeTable.room_le)) (hperm.mem_iff.2 hmem)).trans
    rw [TypeTable.obtains_perm hperm]
    exact (hhas hmem trait).symm

/--
Symbols for a package that loads in the background and for an attribute that exports.
-/
def SymbolTable.packages : SymbolTable :=
  .ofEntries [
    { name := "Package", kind := .type, tags := [.asyncEntryPoint], capabilities := [.backgroundLoad] },
    { name := "Export", kind := .attributeType, tags := [.mefExport] }]

/-- The first two types derive from each other and the last one from itself. -/
theorem inheritance_exact_cycle :
    let text := "[Export] class A : N.B \x7b \x7d class B : A, C \x7b \x7d class C : C, Package \x7b \x7d"
    ∃ parsed, parse text none = .ok parsed ∧
      let binding := Binding.ofRoot parsed.root .packages
      let declarations := TypeTable.declarations parsed.root
      (declarations.map (·.2.name)).Nodup ∧
        (declarations.map fun declaration => (binding.traits declaration.2).tags)
          = [[.mefExport, .asyncEntryPoint], [.asyncEntryPoint], [.asyncEntryPoint]] ∧
        TypeTable.ComesTo (declarations.map Prod.snd)
          (TypeTable.ofDeclarations binding.scope declarations) binding.types := by
  intro text
  have hrun :
      ((parse text none).toOption.map fun parsed =>
        (TypeTable.declarations parsed.root).map fun declaration =>
          (declaration.2.name,
            ((Binding.ofRoot parsed.root .packages).traits declaration.2).tags)) =
        some [("A", [.mefExport, .asyncEntryPoint]), ("B", [.asyncEntryPoint]),
          ("C", [.asyncEntryPoint])] := by
    decide +kernel
  rw [Option.map_eq_some_iff] at hrun
  obtain ⟨parsed, hparse, hfound⟩ := hrun
  have hnames := congrArg (List.map Prod.fst) hfound
  have htags := congrArg (List.map Prod.snd) hfound
  rw [List.map_map] at hnames htags
  have hapart : ((TypeTable.declarations parsed.root).map (·.2.name)).Nodup :=
    hnames ▸ (by decide : ["A", "B", "C"].Nodup)
  exact ⟨parsed, eq_ok_of_toOption hparse, hapart, htags,
    (inheritance_exact parsed.root .packages hapart).1⟩

end ThreadLint
