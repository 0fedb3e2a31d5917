import ThreadLint.Proofs.Rule
import ThreadLint.Proofs.Token.Tiling
import ThreadLint.Rule.UnobservedResult
import ThreadLint.Rule.PackageBase
import ThreadLint.Rule.BlockingWait
import ThreadLint.Rule.ServiceLookup
import ThreadLint.Rule.VisualResource

/-!
This module contains that the rules keep the promises about their findings, apart from the one that
renames methods.
-/

namespace ThreadLint

theorem AsyncVoid.matcher_sound : Matcher.Sound matcher ["name"] := by
  intro root tokens file place hsited hplace
  unfold matcher
  split
  . next head hform =>
    apply Keeps.ite (fun _ => keeps_none)
    intro _
    split
    . next result hresult =>
      apply Keeps.ite (fun _ => keeps_none)
      intro _
      obtain ⟨_, _, _, hresults⟩ := hsited.methodDecl hplace.node hform
      have hbefore : result.start ≤ result.stop ∧ result.stop ≤ head.nameExtent.start :=
        hresults _ hresult
      obtain ⟨hname, hlast⟩ := hsited.nameExtent_le hplace.node (by rw [hform]; rfl)
      apply Hit.span_keeps (by omega) hlast
      exact Fix.single_keeps (Edit.inside_of_le hbefore.1 (by omega))
    . exact keeps_none
  . exact keeps_none

/-! ### Background loading -/

namespace BackgroundLoad

variable {root : Node} {tokens : List Token} {file : BoundFile}

theorem registration?_mem {type registration : Node}
    (h : registration? file type = some registration) : registration ∈ type.children := by
  unfold registration? Node.childrenOf at h
  exact (List.mem_filter.1 (List.mem_of_find?_eq_some h)).1

theorem setting?_mem {registration setting : Node} (h : setting? registration = some setting) :
    setting ∈ registration.children :=
  List.mem_of_find?_eq_some h

theorem edit_inside {registration : Node} (hsited : Sited file.source tokens root)
    (hmem : registration ∈ root.preorder) :
    (edit registration (setting? registration)).Inside file.source.length := by
  unfold edit
  split
  . next value hvalue =>
    rw [Option.bind_eq_some_iff] at hvalue
    obtain ⟨setting, hsetting, hvalue⟩ := hvalue
    have hsettingMem := Node.mem_preorder_of_mem_children hmem (setting?_mem hsetting)
    have := hsited.extent_le_of_mem_children hsettingMem (List.mem_of_getLast? hvalue)
    exact Edit.inside_of_le this.1 this.2
  . split
    . next close hform =>
      have := (hsited.attributeUse hmem hform).2 close rfl
      exact Edit.inside_of_le (Nat.le_refl _) this
    . next stop hform =>
      have := (hsited.attributeUse hmem hform).1
      exact Edit.inside_of_le (Nat.le_refl _) this
    . exact Edit.inside_of_le (Nat.le_refl _) (hsited.extent_le hmem).2

theorem matcher_sound : Matcher.Sound matcher ["name"] := by
  intro root tokens file place hsited hplace
  unfold matcher
  split
  . apply Keeps.ite (fun _ => keeps_none)
    intro _
    split
    . next registration hregistration =>
      have hmem := Node.mem_preorder_of_mem_children hplace.node (registration?_mem hregistration)
      apply Keeps.ite (fun _ => keeps_none)
      intro _
      apply Hit.spanOf_keeps (hsited.extent_le hmem)
      exact Fix.single_keeps (edit_inside hsited hmem)
    . exact keeps_none
  . exact keeps_none

end BackgroundLoad

/-! ### Blocking waits -/

namespace BlockingWait

theorem combined?_keeps {file : BoundFile} {place : Place} {replacement : String} :
    Keeps (fun _ => True) (combined? file place replacement) := by
  unfold combined?
  extract_lets node
  split
  . split
    . apply Keeps.ite (fun _ => Keeps.pure trivial)
      intro _
      split
      . split
        . exact Keeps.throw rfl
        . apply Keeps.ite (fun _ => Keeps.pure trivial)
          intro _
          exact Keeps.pure trivial
      . exact Keeps.pure trivial
    . exact Keeps.pure trivial
  . exact Keeps.pure trivial

theorem awaiting?_keeps {file : BoundFile} {place : Place} {entry : Option SymbolEntry} :
    Keeps (fun _ => True) (awaiting? file place entry) := by
  unfold awaiting?
  split
  . exact Keeps.pure trivial
  . split
    . exact Keeps.pure trivial
    . next strategy _ =>
      unfold awaitingBy?
      cases strategy
      case whenAll => exact combined?_keeps
      case whenAny => exact combined?_keeps
      all_goals exact Keeps.pure trivial

theorem matcher_sound : Matcher.Sound matcher ["call", "remedy"] := by
  intro root tokens file place hsited hplace
  have hextent := hsited.extent_le hplace.node
  unfold matcher
  extract_lets entry extent tail
  have htail : ∀ awaiting, Keeps
      (fun hit : Option Hit => ∀ found ∈ hit, found.Sound file.source.length ["call", "remedy"])
      (tail awaiting) := by
    intro awaiting
    apply Hit.spanOf_keeps hextent
    apply Keeps.mapM_option
    intro text _
    apply Fix.ofEdits_keeps (List.cons_ne_nil _ _) (List.pairwise_singleton _ _)
    intro edit hedit
    rw [List.mem_singleton] at hedit
    rw [hedit]
    exact Edit.inside_of_le hextent.1 hextent.2
  clear_value tail
  apply Keeps.ite (fun _ => keeps_none)
  intro _
  apply Keeps.ite
  . intro _
    apply awaiting?_keeps.bind
    intro awaiting _
    exact htail awaiting
  . intro _
    exact htail none

end BlockingWait

/-! ### Command handlers -/

namespace CommandHandler

variable {root : Node} {tokens : List Token} {file : BoundFile}

theorem methodBody?_mem {method body : Node} (h : method.methodBody? = some body) :
    body ∈ method.children := by
  unfold Node.methodBody? at h
  split at h
  . split at h
    . rw [Option.filter_eq_some_iff] at h
      exact List.mem_of_getLast? h.1
    . simp at h
  . simp at h

theorem assertion_inside {body : Node} (hsited : Sited file.source tokens root)
    (hmem : body ∈ root.preorder) (hkind : body.kind = .block) :
    (assertion file body).Inside file.source.length := by
  unfold assertion
  split
  . next first hfirst =>
    have := hsited.extent_le_of_mem_children hmem (List.mem_of_head? hfirst)
    exact Edit.inside_of_le (Nat.le_refl _) (Nat.le_trans this.1 this.2)
  . exact Edit.inside_of_le (Nat.le_refl _) (hsited.block hmem hkind)

theorem matcher_sound : Matcher.Sound matcher ["name"] := by
  intro root tokens file place hsited hplace
  unfold matcher
  extract_lets node
  split
  . next head hform =>
    apply Keeps.ite (fun _ => keeps_none)
    intro _
    split
    . next body hbody =>
      have hmem := Node.mem_preorder_of_mem_children hplace.node (methodBody?_mem hbody)
      apply Keeps.ite (fun _ => keeps_none)
      intro hkind
      apply Keeps.ite (fun _ => keeps_none)
      intro _
      apply Hit.spanOf_keeps (hsited.nameExtent_le hplace.node (by rw [hform]; rfl))
      exact Fix.single_keeps (assertion_inside hsited hmem (by simpa using hkind))
    . exact keeps_none
  . exact keeps_none

end CommandHandler

/-! ### Rules about what a node is -/

theorem ConstructorLookup.matcher_sound : Matcher.Sound matcher ["call", "type"] := by
  intro root tokens file place hsited hplace
  unfold matcher
  extract_lets tags
  apply Keeps.ite (fun _ => keeps_none)
  intro _
  apply Keeps.ite (fun _ => keeps_none)
  intro _
  split
  . split
    . apply Keeps.ite (fun _ => keeps_none)
      intro _
      exact Hit.spanOf_keeps (hsited.extent_le hplace.node) keeps_none
    . exact keeps_none
  . exact keeps_none

theorem VisualResource.matcher_sound : Matcher.Sound matcher ["value", "property"] := by
  intro root tokens file place hsited hplace
  unfold matcher
  extract_lets node
  split
  . apply Keeps.ite (fun _ => keeps_none)
    intro _
    split
    . split
      . apply Keeps.ite (fun _ => keeps_none)
        intro _
        exact Hit.spanOf_keeps (hsited.extent_le hplace.node) keeps_none
      . exact keeps_none
    . exact keeps_none
  . exact keeps_none

theorem UnobservedResult.matcher_sound : Matcher.Sound matcher ["call"] := by
  intro root tokens file place hsited hplace
  unfold matcher
  split
  . next expression hexpression =>
    have hextent := hsited.extent_le_of_mem_children hplace.node (List.mem_of_head? hexpression)
    split
    . apply Hit.spanOf_keeps hextent
      apply Keeps.ite
      . intro _
        exact Fix.single_keeps (Edit.inside_of_le (Nat.le_refl _) (Nat.le_trans hextent.1 hextent.2))
      . intro _
        exact keeps_none
    . exact keeps_none
  . exact keeps_none

/-! ### Bases of packages -/

namespace PackageBase

variable {root : Node} {tokens : List Token} {file : BoundFile}

theorem lastOffset?_go_le {part text : List Char} {offset found : Nat}
    (h : Text.lastOffset?.go part offset text = some found) :
    found + part.length ≤ offset + text.length := by
  induction text generalizing offset with
  | nil =>
    unfold Text.lastOffset?.go at h
    split at h
    . next hempty =>
      cases h
      simp [List.isEmpty_iff.1 hempty]
    . simp at h
  | cons c rest ih =>
    unfold Text.lastOffset?.go at h
    rw [Option.or_eq_some_iff] at h
    cases h with
    | inl h =>
      have := ih h
      rw [List.length_cons]
      omega
    | inr h =>
      have h := h.2
      split at h
      . next hprefix =>
        cases h
        have := (List.isPrefixOf_iff_prefix.1 hprefix).length_le
        omega
      . simp at h

theorem oldBase?_mem {scope : Scope} {head : TypeHead} {base : OldBase}
    (h : oldBase? scope head = some base) : (base.written, base.extent) ∈ head.bases := by
  unfold oldBase? at h
  obtain ⟨⟨⟨written, extent⟩, entry⟩, hmem, h⟩ := List.exists_of_findSome?_eq_some h
  simp only [Option.bind_eq_bind, Option.bind_eq_some_iff] at h
  obtain ⟨_, _, _, _, heq⟩ := h
  cases heq
  exact (List.of_mem_zip hmem).1

theorem fix_keeps {base : OldBase} (h : base.extent.start ≤ base.extent.stop)
    (hstop : base.extent.stop ≤ file.source.length) :
    Keeps (fun fix => ∀ made ∈ fix, made.Inside file.source.length) (fix file base) := by
  unfold fix
  apply Keeps.mapM_option
  intro offset hoffset
  have := lastOffset?_go_le hoffset
  rw [String.length_toList, String.length_toList, Nat.zero_add] at this
  have hlength : (file.source.slice base.extent).length = base.extent.stop - base.extent.start :=
    Text.length_slice hstop
  apply Fix.ofEdits_keeps (List.cons_ne_nil _ _) (List.pairwise_singleton _ _)
  intro edit hedit
  rw [List.mem_singleton] at hedit
  rw [hedit]
  exact Edit.inside_of_le (Nat.le_add_right _ _) (by omega)

theorem matcher_sound : Matcher.Sound matcher ["name", "base", "replacement"] := by
  intro root tokens file place hsited hplace
  unfold matcher
  split
  . next head hform =>
    split
    . next base hbase =>
      have hextent : base.extent.start ≤ base.extent.stop ∧
          base.extent.stop ≤ file.source.length :=
        hsited.classDecl hplace.node hform _ (oldBase?_mem hbase)
      exact Hit.spanOf_keeps hextent (fix_keeps hextent.1 hextent.2)
    . exact keeps_none
  . exact keeps_none

end PackageBase

/-! ### Lookups of services -/

namespace ServiceLookup

theorem service?_declarator {file : BoundFile} {part : Node} {service : Service}
    (h : service? file part = some service) : service.declarator = part := by
  unfold service? at h
  split at h
  . simp only [Option.bind_eq_bind, Option.bind_eq_some_iff] at h
    obtain ⟨_, _, _, _, heq⟩ := h
    cases heq
    rfl
  . simp at h

theorem matchDeclaration_sound : Matcher.Sound matchDeclaration ["call", "via"] := by
  intro root tokens file place hsited hplace
  unfold matchDeclaration
  split
  . apply Keeps.ite (fun _ => keeps_none)
    intro _
    extract_lets services unchecked stop
    cases hservice : unchecked with
    | none => exact keeps_none
    | some service =>
      have hmem : service ∈ services := List.mem_of_find?_eq_some hservice
      obtain ⟨part, hpart, hservice⟩ := List.mem_filterMap.1 hmem
      have hextent := hsited.extent_le_of_mem_children hplace.node hpart
      rw [← service?_declarator hservice] at hextent
      apply Hit.spanOf_keeps hextent
      exact Fix.single_keeps (Edit.inside_of_le (Nat.le_refl _) (hsited.extent_le hplace.node).2)
  . exact keeps_none

theorem matchAccess_sound : Matcher.Sound matchAccess ["call", "via"] := by
  intro root tokens file place hsited hplace
  unfold matchAccess
  split
  . apply Keeps.ite (fun _ => keeps_none)
    intro _
    split
    . exact Hit.spanOf_keeps (hsited.extent_le hplace.node) keeps_none
    . exact keeps_none
  . exact keeps_none

theorem matcher_sound : Matcher.Sound matcher ["call", "via"] := by
  intro root tokens file place hsited hplace
  unfold matcher
  apply Keeps.ite
  . intro _
    exact matchDeclaration_sound hsited hplace
  . intro _
    exact matchAccess_sound hsited hplace

end ServiceLookup

end ThreadLint
