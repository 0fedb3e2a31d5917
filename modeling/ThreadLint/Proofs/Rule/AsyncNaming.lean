import ThreadLint.Proofs.Rule
import ThreadLint.Proofs.Token.Word
import ThreadLint.Proofs.Tree.Walk
import ThreadLint.Rule.AsyncNaming

/-!
This module contains that the rule about the names of methods keeps its promises. Its fix is made of
as many edits as the method is mentioned. None of them reaches beyond the token at which it begins,
and no two of them begin at the same one.
-/

namespace ThreadLint

namespace AsyncNaming

open ThreadLint.Parser

/--
Whether an edit replaces the beginning of a token.
-/
def OnToken (tokens : Array Token) (edit : Edit) : Prop :=
  ∃ index, index < last tokens ∧ edit.start = startAt tokens index ∧ edit.start < edit.stop ∧
    edit.stop ≤ stopAt tokens index

theorem OnToken.conflictsWith {tokens : Array Token} [Lawful tokens] {edit other : Edit}
    (hedit : OnToken tokens edit) (hother : OnToken tokens other) (h : edit.start ≠ other.start) :
    edit.conflictsWith other = false := by
  obtain ⟨i, hi, hstart, hlt, hstop⟩ := hedit
  obtain ⟨j, hj, hstart', hlt', hstop'⟩ := hother
  have hapart : edit.stop ≤ other.start ∨ other.stop ≤ edit.start := by
    by_cases hij : i < j
    . have : stopAt tokens i ≤ startAt tokens j := stop_le_start hij (by omega)
      omega
    . have hne : i ≠ j := by
        intro heq
        apply h
        rw [hstart, hstart', heq]
      have : stopAt tokens j ≤ startAt tokens i := stop_le_start (by omega) (by omega)
      omega
  unfold Edit.conflictsWith
  simp only [Bool.or_eq_false_iff, Bool.and_eq_false_iff, decide_eq_false_iff_not, beq_eq_false_iff_ne]
  exact ⟨by omega, .inl h⟩

theorem OnToken.inside {source : Source} {tokens : List Token} {edit : Edit}
    (tiles : Token.Tiles source.chars 0 tokens) (h : OnToken tokens.toArray edit) :
    edit.Inside source.length := by
  obtain ⟨index, hindex, hstart, hlt, hstop⟩ := h
  have : stopAt tokens.toArray index ≤ source.length := stopAt_le_of_tiles tiles (by omega)
  constructor
  case start_nonneg => omega
  case start_le_stop => omega
  case stop_le => omega

/-! ### Edits without repetitions -/

/--
Some edits with one more, unless one of them begins where it does.
-/
def keepNew (kept : List Edit) (edit : Edit) : List Edit :=
  if kept.any (·.start == edit.start) then kept else kept ++ [edit]

/--
Whether some edits are as expected and begin at different offsets.
-/
def Apart (P : Edit → Prop) (edits : List Edit) : Prop :=
  (∀ edit ∈ edits, P edit) ∧ edits.Pairwise fun edit other => edit.start ≠ other.start

theorem Apart.keepNew {P : Edit → Prop} {kept : List Edit} {edit : Edit} (h : Apart P kept)
    (hedit : P edit) : Apart P (keepNew kept edit) := by
  unfold AsyncNaming.keepNew
  split
  . exact h
  . next hnew =>
    constructor
    . intro other hother
      rw [List.mem_append, List.mem_singleton] at hother
      cases hother with
      | inl hmem => exact h.1 other hmem
      | inr heq =>
        rw [heq]
        exact hedit
    . rw [List.pairwise_append]
      refine ⟨h.2, List.pairwise_singleton _ _, ?_⟩
      intro other hother edit' hedit'
      rw [List.mem_singleton] at hedit'
      rw [hedit']
      intro heq
      apply hnew
      rw [List.any_eq_true]
      exact ⟨other, hother, by simpa using heq⟩

theorem keepNew_ne_nil (kept : List Edit) (edit : Edit) : keepNew kept edit ≠ [] := by
  unfold keepNew
  split
  . next hany =>
    intro heq
    rw [heq] at hany
    simp at hany
  . simp

theorem Apart.foldl {P : Edit → Prop} {edits kept : List Edit} (h : Apart P kept)
    (hedits : ∀ edit ∈ edits, P edit) : Apart P (edits.foldl AsyncNaming.keepNew kept) := by
  induction edits generalizing kept with
  | nil => exact h
  | cons edit rest ih =>
    rw [List.foldl_cons]
    apply ih (h.keepNew (hedits edit List.mem_cons_self))
    exact fun other hother => hedits other (List.mem_cons_of_mem _ hother)

theorem foldl_ne_nil {edits kept : List Edit} (h : kept ≠ []) : edits.foldl keepNew kept ≠ [] := by
  induction edits generalizing kept with
  | nil => exact h
  | cons edit rest ih =>
    rw [List.foldl_cons]
    exact ih (keepNew_ne_nil kept edit)

theorem distinctEdits_perm (edits : List Edit) :
    (distinctEdits edits).Perm (edits.foldl keepNew []) :=
  List.mergeSort_perm _ _

theorem distinctEdits_apart {P : Edit → Prop} {edits : List Edit} (h : ∀ edit ∈ edits, P edit) :
    Apart P (distinctEdits edits) := by
  have hfold : Apart P (edits.foldl keepNew []) := Apart.foldl ⟨by simp, .nil⟩ h
  constructor
  . intro edit hedit
    exact hfold.1 edit ((distinctEdits_perm edits).mem_iff.1 hedit)
  . rw [(distinctEdits_perm edits).pairwise_iff fun h => h.symm]
    exact hfold.2

theorem distinctEdits_ne_nil {edit : Edit} {edits : List Edit} :
    distinctEdits (edit :: edits) ≠ [] := by
  intro h
  have hperm := distinctEdits_perm (edit :: edits)
  rw [h, List.nil_perm, List.foldl_cons] at hperm
  exact foldl_ne_nil (keepNew_ne_nil [] edit) hperm

/-! ### The mentions of a method -/

section

variable {source : Source} {tokens : List Token} {root : Node} (hsited : Sited source tokens root)

include hsited

theorem onToken_of_isName {index : Nat} {name replacement : String} {extent : Extent}
    (h : IsName tokens.toArray index name extent) :
    OnToken tokens.toArray ⟨extent.start, extent.stop, replacement⟩ := by
  have := hsited.lawful
  obtain ⟨hidentifier, _, rfl⟩ := h
  have hindex := lt_last_of_isIdentifier hidentifier
  have : startAt tokens.toArray index < stopAt tokens.toArray index :=
    Lawful.start_lt_stop index hindex
  exact ⟨index, hindex, rfl, Int.ofNat_lt.2 this, Int.le_refl _⟩

theorem mention?_start {name : String} {node : Node} {start : Nat} (hmem : node ∈ root.preorder)
    (h : mention? name node = some start) :
    ∃ index, index < last tokens.toArray ∧ start = startAt tokens.toArray index := by
  have := hsited.lawful
  unfold mention? at h
  split at h
  . next found role hform =>
    have hstart : node.extent.start = start := by
      split at h
      . simp at h
      . split at h
        . simpa using h
        . simp at h
    have hkind : node.kind = .identifier := by simp [Node.kind, hform, Form.kind]
    obtain ⟨first, stop, hwhole⟩ := (hsited.located hmem (by simp [hkind])).whole (by simp [hkind])
    obtain ⟨hlt, hlast, hextent, _⟩ := whole_iff.1 hwhole
    exact ⟨first, by omega, by rw [← hstart, hextent, extentOf]⟩
  . next found extent conditional typeArguments hform =>
    have hstart : extent.start = start := by
      split at h
      . split at h
        . simpa using h
        . simp at h
      . simp at h
    obtain ⟨_, stop, hlast, index, _, hindex, ⟨_, _, rfl⟩, _⟩ :=
      hsited.fits hmem hform (by simp [Form.kind])
    exact ⟨index, by omega, hstart.symm⟩
  . simp at h

theorem onToken_of_mem_mentionEdits {file : BoundFile} (hfile : file.source = source) {name : String}
    (hname : Token.IsWord name) {scope : Node} (hscope : scope ∈ root.preorder) :
    ∀ edit ∈ mentionEdits file name scope, OnToken tokens.toArray edit := by
  have := hsited.lawful
  intro edit hedit
  unfold mentionEdits at hedit
  rw [Node.walk_eq] at hedit
  obtain ⟨start, hstart, hedit⟩ := List.mem_filterMap.1 hedit
  obtain ⟨node, hnode, hmention⟩ := List.mem_filterMap.1 hstart
  obtain ⟨index, hindex, rfl⟩ :=
    mention?_start hsited (Node.preorder_subset hscope node hnode) hmention
  dsimp only at hedit
  split at hedit
  . next hslice =>
    cases hedit
    rw [hfile] at hslice
    have hmem := tokenAt_mem_of_tiles hsited.tiles (Nat.le_of_lt hindex)
    have hle : name.length ≤ (tokenAt tokens.toArray index).text.length :=
      hsited.tiles.length_le_of_slice hmem (not_isEnd_of_lt_last hindex) hname hslice
    have := hname.length_pos
    refine ⟨index, hindex, rfl, ?_, ?_⟩
    . dsimp only
      omega
    . unfold stopAt startAt Token.stop
      dsimp only
      omega
  . simp at hedit

end

/-! ### The fix -/

theorem scopeOf_mem {root : Node} {place : Place} (h : place.Within root) :
    scopeOf place ∈ root.preorder := by
  unfold scopeOf
  split
  . next owner howner => exact (h.of_type? howner).node
  . split
    . next parent hparent => exact (h.of_parent? hparent).node
    . exact h.node

theorem fix_keeps {root : Node} {tokens : List Token} {file : BoundFile} {place : Place}
    {head : MethodHead} (hsited : Sited file.source tokens root) (hplace : place.Within root)
    (hform : place.node.form = .methodDecl head) :
    Keeps (fun fix => ∀ made ∈ fix, made.Inside file.source.length) (fix file place head) := by
  have := hsited.lawful
  obtain ⟨index, _, hname, _⟩ := hsited.methodDecl hplace.node hform
  unfold fix
  extract_lets renamed scope declaration
  apply Keeps.ite (fun _ => keeps_none)
  intro _
  have hedits : ∀ edit ∈ declaration :: mentionEdits file head.name scope,
      OnToken tokens.toArray edit := by
    intro edit hedit
    rw [List.mem_cons] at hedit
    cases hedit with
    | inl heq =>
      rw [heq]
      exact onToken_of_isName hsited hname
    | inr hmem =>
      exact onToken_of_mem_mentionEdits hsited rfl (hsited.isWord_of_isName hname)
        (scopeOf_mem hplace) edit hmem
  obtain ⟨honToken, hapart⟩ := distinctEdits_apart hedits
  apply Fix.some_ofEdits_keeps distinctEdits_ne_nil
  . apply hapart.imp_of_mem
    intro edit other hedit hother hne
    exact (honToken edit hedit).conflictsWith (honToken other hother) hne
  . intro edit hedit
    exact (honToken edit hedit).inside hsited.tiles

theorem matcher_sound : Matcher.Sound matcher ["name", "suggested"] := by
  intro root tokens file place hsited hplace
  unfold matcher
  split
  . next head hform =>
    split
    . apply Keeps.ite (fun _ => keeps_none)
      intro _
      apply Keeps.ite (fun _ => keeps_none)
      intro _
      apply Hit.spanOf_keeps (hsited.nameExtent_le hplace.node (by rw [hform]; rfl))
      exact fix_keeps hsited hplace hform
    . exact keeps_none
  . exact keeps_none

end AsyncNaming

end ThreadLint
